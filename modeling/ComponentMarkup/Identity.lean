/-!
# Identity

Two nodes of the same content are still two nodes. A node is told apart by the number that it was
given when it was made.

## Main definitions

* `Numbered` — a value with its number.
* `Numbered.same` — whether two are one and the same.
* `Numbered.numberAll` — numbers values in the order in which they were made.
-/

namespace ComponentMarkup

structure Numbered (α : Type) where
  number : Nat
  value : α

namespace Numbered

variable {α : Type}

def same (a b : Numbered α) : Bool := a.number = b.number

/-- Whether something that may never have been numbered is `a`. -/
def isOne (a : Numbered α) (other : Option (Numbered α)) : Bool := other.any a.same

def numberAll (values : List α) : List (Numbered α) :=
  values.zipIdx.map fun (value, number) => ⟨number, value⟩

/-- How many different ones there are. -/
def count (xs : List (Numbered α)) : Nat := (xs.map number).eraseDups.length

@[simp] theorem same_self (a : Numbered α) : a.same a = true := by simp [same]

end Numbered

end ComponentMarkup
