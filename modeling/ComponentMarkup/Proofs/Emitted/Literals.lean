import ComponentMarkup.Text.Quoted
import Mathlib.Algebra.Group.Nat.Defs
import Mathlib.Data.List.Basic

/-!
# String literals of emitted code

Emitted code is read with string literals of two lengths, between single quotation marks or between
three in a row, and with escapes of several kinds. A value that is written as a literal is read back
from it.

## Main definitions

* `Literal.split?` — a literal at the start of a text, and the rest.
* `Literal.decode?` — the value of what stands between the quotation marks.
* `Literal.value?` — the value of a text that is one literal.
* `Quoted.IsEscape` — the written forms of a code point.

## Main statements

* `Literal.split?_quote` — a written value is one literal, whatever stands behind it. Only an
  apostrophe behind the empty value makes three of them, which open a long literal.
* `Literal.value?_quote` — the value is read back.
-/

namespace ComponentMarkup.Text

/-- The code point of a number that is not too large. -/
def CodePoint.ofNat? (n : Nat) : Option CodePoint :=
  if h : n < 0x110000 then some ⟨n, h⟩ else none

theorem CodePoint.ofNat?_val (p : CodePoint) : ofNat? p.val = some p := by
  simp [ofNat?, p.val_lt]

theorem CodePoint.ofChar_of_toChar? {p : CodePoint} {c : Char} (h : p.toChar? = some c) :
    ofChar c = p := by
  obtain ⟨n, lt⟩ := p
  by_cases surrogate : IsSurrogate ⟨n, lt⟩
  · simp [toChar?, surrogate] at h
  · rw [toChar?, if_neg surrogate, Option.some.injEq] at h
    subst h
    have valid : n.isValidChar := by
      simp only [IsSurrogate] at surrogate
      simp only [Nat.isValidChar]
      omega
    have char : Char.ofNat n = Char.ofNatAux n valid := dif_pos valid
    have number : (Char.ofNat n).toNat = n := by
      rw [char]
      rfl
    simp [ofChar, number]

namespace Literal

def isMark (c : Char) : Bool := c = '\'' || c = '"'

/-- What stands in front of the closing marks, and behind them. A backslash takes the character
behind it along; a literal between single marks ends in the line that it starts in. -/
def close? (marks : List Char) : List Char → Option (List Char × List Char)
  | [] => none
  | '\\' :: c :: cs => (close? marks cs).map fun (body, rest) => ('\\' :: c :: body, rest)
  | c :: cs =>
    if marks <+: c :: cs then some ([], (c :: cs).drop marks.length)
    else if c = '\n' && marks.length = 1 then none
    else (close? marks cs).map fun (body, rest) => (c :: body, rest)

/-- A literal at the start of a text: what stands between its marks, and what behind them. Three
marks in a row open a long literal. -/
def split? : List Char → Option (List Char × List Char)
  | [] => none
  | q :: cs =>
    if isMark q then
      if [q, q] <+: cs then close? [q, q, q] (cs.drop 2) else close? [q] cs
    else none

/-! ## Values -/

/-- The number that digits stand for, highest first. -/
def number (base : Nat) (digits : List Nat) : Nat := digits.foldl (fun n d => base * n + d) 0

/-- The code point that `width` hexadecimal digits number. -/
def numbered? (width : Nat) (cs : List Char) : Option CodePoint := do
  let digits ← (cs.take width).mapM hexValue?
  if digits.length = width then CodePoint.ofNat? (number 16 digits) else none

/-- Up to three octal digits. -/
def octalDigits (cs : List Char) : List Nat :=
  let octal? (c : Char) : Option Nat := (hexValue? c).filter (· < 8)
  ((cs.take 3).takeWhile fun c => (octal? c).isSome).filterMap octal?

/-- The code point of a name between braces, and the length of the name. -/
def named? (names : List Char → Option CodePoint) : List Char → Option (CodePoint × Nat)
  | '\x7b' :: cs => do
    let name := cs.takeWhile (· ≠ '\x7d')
    let p ← names name
    if name.length < cs.length then some (p, name.length) else none
  | _ => none

/-- What a backslash and `c` stand for, if `c` starts neither a number nor a name. A character
without such a meaning leaves the backslash where it is. -/
def single (c : Char) : List CodePoint :=
  match c with
  | '\n' => []
  | '\\' => [.ofChar '\\']
  | '\'' => [.ofChar '\'']
  | '"' => [.ofChar '"']
  | 'a' => [.ofChar '\x07']
  | 'b' => [.ofChar '\x08']
  | 'f' => [.ofChar '\x0c']
  | 'n' => [.ofChar '\n']
  | 'r' => [.ofChar '\r']
  | 't' => [.ofChar '\t']
  | 'v' => [.ofChar '\x0b']
  | c => [.ofChar '\\', .ofChar c]

/-- What a backslash stands for with the text behind it, and how much of that text it takes. -/
def escape? (names : List Char → Option CodePoint) : List Char → Option (List CodePoint × Nat)
  | [] => none
  | 'x' :: cs => (numbered? 2 cs).map fun p => ([p], 3)
  | 'u' :: cs => (numbered? 4 cs).map fun p => ([p], 5)
  | 'U' :: cs => (numbered? 8 cs).map fun p => ([p], 9)
  | 'N' :: cs => (named? names cs).map fun (p, length) => ([p], length + 3)
  | c :: cs =>
    match octalDigits (c :: cs) with
    | [] => some (single c, 1)
    | d :: ds => (CodePoint.ofNat? (number 8 (d :: ds))).map fun p => ([p], ds.length + 1)

/-- The value of what stands between the marks of a literal, where `names` are the code points that
have a name. -/
def decode? (names : List Char → Option CodePoint) : List Char → Option (List CodePoint)
  | [] => some []
  | '\\' :: cs =>
    match escape? names cs with
    | none => none
    | some (ps, length) => (decode? names (cs.drop length)).map (ps ++ ·)
  | c :: cs => (decode? names cs).map (.ofChar c :: ·)
termination_by s => s.length

/-- The value of a text that is one literal and nothing else. -/
def value? (names : List Char → Option CodePoint) (s : List Char) : Option (List CodePoint) :=
  match split? s with
  | some (body, []) => decode? names body
  | _ => none

end Literal

/-! ## Written values -/

namespace Quoted

theorem isMark_mark (s : List CodePoint) : Literal.isMark (mark s) = true := by
  unfold mark
  split <;> rfl

/-- The written forms of a code point between quotation marks. -/
inductive IsEscape (mark : Char) : CodePoint → List Char → Prop where
  | marked {c : Char} : c = mark ∨ c = '\\' → IsEscape mark (.ofChar c) ['\\', c]
  | named {c d : Char} : (c, d) ∈ [('\n', 'n'), ('\r', 'r'), ('\t', 't')] →
      IsEscape mark (.ofChar c) ['\\', d]
  | number (p : CodePoint) : IsEscape mark p (byNumber p.val)
  | plain {c : Char} : c ≠ mark → c ≠ '\\' → c ≠ '\n' → c ≠ '\r' →
      IsEscape mark (.ofChar c) [c]

theorem isEscape (mark : Char) (p : CodePoint) : IsEscape mark p (escape mark p) := by
  unfold escape
  split
  case h_1 => exact .number p
  case h_2 c hc =>
    obtain rfl := CodePoint.ofChar_of_toChar? hc
    split
    case isTrue h => exact .marked (by simpa using h)
    split
    case isTrue h => exact .named (by simp [h])
    split
    case isTrue h => exact .named (by simp [h])
    split
    case isTrue h => exact .named (by simp [h])
    split
    · exact .plain (by grind) (by grind) (by grind) (by grind)
    · exact .number _

theorem hexDigit_plain {n : Nat} (h : n < 16) : hexDigit n ∉ ['\'', '"', '\\', '\n', '\r'] := by
  have all : ∀ m ∈ List.range 16, hexDigit m ∉ ['\'', '"', '\\', '\n', '\r'] := by decide
  exact all n (List.mem_range.2 h)

theorem hexDigits_plain (width n : Nat) :
    ∀ c ∈ hexDigits width n, c ∉ ['\'', '"', '\\', '\n', '\r'] := by
  induction width generalizing n with
  | zero => nofun
  | succ width ih =>
    intro c hc
    rcases List.mem_append.1 hc with hc | hc
    · exact ih _ c hc
    · obtain rfl := List.mem_singleton.1 hc
      exact hexDigit_plain (Nat.mod_lt _ (by decide))

/-- A number is written as a backslash, a letter for the width and so many digits. -/
theorem byNumber_cases (p : CodePoint) :
    ∃ letter width, byNumber p.val = '\\' :: letter :: hexDigits width p.val ∧
      (letter, width) ∈ [('x', 2), ('u', 4), ('U', 8)] ∧ p.val < 16 ^ width := by
  have := p.val_lt
  unfold byNumber
  split
  · exact ⟨'x', 2, rfl, by simp, by omega⟩
  split
  · exact ⟨'u', 4, rfl, by simp, by omega⟩
  · exact ⟨'U', 8, rfl, by simp, by omega⟩

end Quoted

/-! ## Reading a written value back -/

namespace Literal

variable {names : List Char → Option CodePoint} {m : Char}

theorem mapM_hexDigits (width n : Nat) :
    ∃ ds, (hexDigits width n).mapM hexValue? = some ds ∧ ds.length = width ∧
      number 16 ds = n % 16 ^ width := by
  induction width generalizing n with
  | zero => exact ⟨[], rfl, rfl, by simp [number, Nat.mod_one]⟩
  | succ width ih =>
    obtain ⟨ds, read, length, value⟩ := ih (n / 16)
    have digit := hexValue?_hexDigit (Nat.mod_lt n (by decide : 0 < 16))
    refine ⟨ds ++ [n % 16], by simp [hexDigits, read, digit], by simp [length], ?_⟩
    have same : number 16 (ds ++ [n % 16]) = 16 * number 16 ds + n % 16 := by
      simp [number]
    rw [same, value, Nat.pow_succ, Nat.mul_comm (16 ^ width), Nat.mod_mul]
    omega

theorem numbered?_hexDigits {p : CodePoint} {width : Nat} (h : p.val < 16 ^ width)
    (rest : List Char) : numbered? width (hexDigits width p.val ++ rest) = some p := by
  obtain ⟨ds, read, length, value⟩ := mapM_hexDigits width p.val
  have digits : (hexDigits width p.val ++ rest).take width = hexDigits width p.val :=
    List.take_left' (length_hexDigits ..)
  rw [Nat.mod_eq_of_lt h] at value
  simp [numbered?, digits, read, length, value, CodePoint.ofNat?_val]

theorem decode?_escaped {cs rest : List Char} {ps : List CodePoint}
    (h : escape? names (cs ++ rest) = some (ps, cs.length)) :
    decode? names ('\\' :: (cs ++ rest)) = (decode? names rest).map (ps ++ ·) := by
  rw [decode?, h]
  simp

theorem decode?_plain {c : Char} (h : c ≠ '\\') (rest : List Char) :
    decode? names (c :: rest) = (decode? names rest).map (.ofChar c :: ·) := by
  rw [decode?.eq_3]
  exact h

theorem decode?_isEscape {p : CodePoint} {s : List Char} (h : Quoted.IsEscape m p s)
    (hm : isMark m = true) (rest : List Char) :
    decode? names (s ++ rest) = (decode? names rest).map (p :: ·) := by
  cases h with
  | @marked c hc =>
    have mark : c = '\'' ∨ c = '"' ∨ c = '\\' := by simp [isMark] at hm; grind
    have meaning : escape? names ([c] ++ rest) = some ([.ofChar c], 1) := by
      rcases mark with rfl | rfl | rfl <;> rfl
    exact decode?_escaped meaning
  | @named c d hcd =>
    simp only [List.mem_cons, Prod.mk.injEq, List.not_mem_nil, or_false] at hcd
    have meaning : escape? names ([d] ++ rest) = some ([.ofChar c], 1) := by
      rcases hcd with ⟨rfl, rfl⟩ | ⟨rfl, rfl⟩ | ⟨rfl, rfl⟩ <;> rfl
    exact decode?_escaped meaning
  | number =>
    obtain ⟨letter, width, eq, pair, lt⟩ := Quoted.byNumber_cases p
    have digits := numbered?_hexDigits lt rest
    have meaning : escape? names ((letter :: hexDigits width p.val) ++ rest) =
        some ([p], (letter :: hexDigits width p.val).length) := by
      simp only [List.mem_cons, Prod.mk.injEq, List.not_mem_nil, or_false] at pair
      rcases pair with ⟨rfl, rfl⟩ | ⟨rfl, rfl⟩ | ⟨rfl, rfl⟩ <;> simp [escape?, digits]
    rw [eq]
    exact decode?_escaped meaning
  | @plain c _ backslash => exact decode?_plain backslash rest

theorem decode?_flatMap_escape (hm : isMark m = true) (s : List CodePoint) :
    decode? names (s.flatMap (Quoted.escape m)) = some s := by
  induction s with
  | nil => rw [List.flatMap_nil, decode?]
  | cons p s ih =>
    rw [List.flatMap_cons, decode?_isEscape (Quoted.isEscape m p) hm, ih]
    rfl

/-! ### Where a written value ends -/

/-- A character that no literal between single marks `m` ends with or breaks off at. -/
def IsPlain (m c : Char) : Prop := c ≠ m ∧ c ≠ '\\' ∧ c ≠ '\n'

theorem close?_plain {c : Char} (h : IsPlain m c) (cs : List Char) :
    close? [m] (c :: cs) = (close? [m] cs).map fun (body, rest) => (c :: body, rest) := by
  obtain ⟨mark, backslash, newline⟩ := h
  rw [close?.eq_3 _ _ _ (by grind)]
  simp [List.cons_prefix_cons, mark.symm, newline]

theorem close?_append_plain {s : List Char} (h : ∀ c ∈ s, IsPlain m c) (cs : List Char) :
    close? [m] (s ++ cs) = (close? [m] cs).map fun (body, rest) => (s ++ body, rest) := by
  induction s with
  | nil =>
    rw [List.nil_append]
    cases close? [m] cs <;> rfl
  | cons c s ih =>
    obtain ⟨first, more⟩ := List.forall_mem_cons.1 h
    rw [List.cons_append, close?_plain first, ih more]
    cases close? [m] cs <;> rfl

theorem close?_isEscape {p : CodePoint} {s : List Char} (h : Quoted.IsEscape m p s)
    (hm : isMark m = true) (cs : List Char) :
    close? [m] (s ++ cs) = (close? [m] cs).map fun (body, rest) => (s ++ body, rest) := by
  cases h with
  | marked | named => rfl
  | number =>
    obtain ⟨letter, width, eq, -, -⟩ := Quoted.byNumber_cases p
    have digits : ∀ c ∈ hexDigits width p.val, IsPlain m c := by
      intro c hc
      have plain := Quoted.hexDigits_plain width p.val c hc
      simp only [isMark, Bool.or_eq_true, decide_eq_true_eq] at hm
      grind [IsPlain]
    rw [eq, List.cons_append, List.cons_append, close?, close?_append_plain digits]
    cases close? [m] cs <;> rfl
  | plain mark backslash newline _ => exact close?_plain ⟨mark, backslash, newline⟩ cs

theorem close?_flatMap_escape (hm : isMark m = true) (s : List CodePoint) (cs : List Char) :
    close? [m] (s.flatMap (Quoted.escape m) ++ m :: cs) =
      some (s.flatMap (Quoted.escape m), cs) := by
  induction s with
  | nil =>
    have backslash : m ≠ '\\' := by rintro rfl; cases hm
    rw [List.flatMap_nil, List.nil_append, close?.eq_3 _ _ _ (by grind)]
    simp [List.cons_prefix_cons]
  | cons p s ih =>
    rw [List.flatMap_cons, List.append_assoc, close?_isEscape (Quoted.isEscape m p) hm, ih]
    rfl

/-- No written code point starts with the mark. -/
theorem head_isEscape {p : CodePoint} {s : List Char} (h : Quoted.IsEscape m p s)
    (hm : isMark m = true) : ∃ c cs, s = c :: cs ∧ c ≠ m := by
  have backslash : '\\' ≠ m := by rintro rfl; cases hm
  cases h with
  | marked | named => exact ⟨_, _, rfl, backslash⟩
  | number =>
    obtain ⟨letter, width, eq, -, -⟩ := Quoted.byNumber_cases p
    exact ⟨_, _, eq, backslash⟩
  | plain mark => exact ⟨_, _, rfl, mark⟩

/-- A written value is one literal. Only behind the empty value it matters what follows: another
mark would make three of them. -/
theorem split?_quote {s : List CodePoint} {rest : List Char}
    (h : s ≠ [] ∨ rest.head? ≠ some '\'') :
    split? (quote s ++ rest) = some (s.flatMap (Quoted.escape (Quoted.mark s)), rest) := by
  have hm := Quoted.isMark_mark s
  have single : ¬ [Quoted.mark s, Quoted.mark s] <+:
      s.flatMap (Quoted.escape (Quoted.mark s)) ++ Quoted.mark s :: rest := by
    intro long
    cases s with
    | nil =>
      have next : rest.head? ≠ some '\'' := h.resolve_left (absurd rfl)
      cases rest with
      | nil => simp [Quoted.mark] at long
      | cons c cs =>
        rw [List.flatMap_nil, List.nil_append, List.cons_prefix_cons] at long
        exact next (congrArg some (List.cons_prefix_cons.1 long.2).1.symm)
    | cons p s =>
      obtain ⟨c, cs, eq, ne⟩ := head_isEscape (Quoted.isEscape (Quoted.mark (p :: s)) p) hm
      rw [List.flatMap_cons, eq, List.cons_append, List.cons_append, List.cons_prefix_cons] at long
      exact ne long.1.symm
  simp only [quote, List.append_assoc, List.cons_append, List.nil_append, split?, hm, if_true,
    if_neg single]
  exact close?_flatMap_escape hm s rest

/-- A written value is read back. -/
theorem value?_quote (s : List CodePoint) : value? names (quote s) = some s := by
  have split := @split?_quote s [] (.inr nofun)
  rw [List.append_nil] at split
  simp only [value?, split]
  exact decode?_flatMap_escape (Quoted.isMark_mark s) s

end Literal

end ComponentMarkup.Text
