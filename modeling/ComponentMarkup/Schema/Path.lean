import ComponentMarkup.Text.Blank

/-!
# Paths

A path is a spelling made of segments between double colons.

## Main definitions

* `Path.normalize` — the spelling that a path is known by.
* `Path.partition` — a path cut at its first double colon.
* `Path.lastSegment` — what stands behind the last one.
* `Path.dotted` — the spelling in emitted code.
-/

namespace ComponentMarkup

namespace Path

/-- The text without one double colon in front. -/
def dropColons : List Char → List Char
  | ':' :: ':' :: cs => cs
  | cs => cs

theorem dropColons_subset (s : List Char) : dropColons s ⊆ s := by
  unfold dropColons
  split
  · exact fun c hc => by simp [hc]
  · exact List.Subset.refl _

/-- Without blanks, and then without a double colon in front. -/
def normalize (path : String) : String :=
  .ofList (dropColons (Text.withoutBlanks path.toList))

def partition : List Char → List Char × Option (List Char)
  | [] => ([], none)
  | ':' :: ':' :: cs => ([], some cs)
  | c :: cs => let (head, tail) := partition cs; (c :: head, tail)

def lastSegment (s : List Char) : List Char := go [] s
where
  /-- The last segment where `segment` of it has been read. -/
  go (segment : List Char) : List Char → List Char
    | [] => segment
    | ':' :: ':' :: cs => go [] cs
    | c :: cs => go (segment ++ [c]) cs

/-- A point for every double colon. -/
def withDots : List Char → List Char
  | [] => []
  | ':' :: ':' :: cs => '.' :: withDots cs
  | c :: cs => c :: withDots cs

theorem withDots_subset (s : List Char) : withDots s ⊆ '.' :: s := by
  fun_induction withDots s with
  | case1 => exact List.nil_subset _
  | case2 cs ih =>
    refine List.cons_subset.2 ⟨List.mem_cons_self, fun c hc => ?_⟩
    rcases List.mem_cons.1 (ih hc) with rfl | hc
    · exact List.mem_cons_self
    · simp [hc]
  | case3 c cs _ ih =>
    refine List.cons_subset.2 ⟨by simp, fun d hd => ?_⟩
    rcases List.mem_cons.1 (ih hd) with rfl | hd
    · exact List.mem_cons_self
    · simp [hd]

def dotted (path : String) : String := .ofList (withDots (dropColons path.toList))

end Path

end ComponentMarkup
