import ComponentMarkup.Tag.Stream

/-!
# The rest of a tag

Behind the `<` of a tag come its interior and the `>` that closes it. Inside, `<` and `>` come in
pairs, groups are taken whole and `->` closes nothing; a slash just in front of the closing `>`
closes the tag itself.

## Main definitions

* `Suffix` — the interior of a tag and what closes it.
* `Suffix.scan` — the suffix at the start of a list of tokens.
-/

namespace ComponentMarkup

open Source (Location)

structure Suffix where
  interior : List Token
  /-- The slash of `/>`. -/
  slash : Option Token
  closer : Token
deriving DecidableEq

namespace Suffix

def prepend (ts : List Token) : Suffix × List Token → Suffix × List Token
  | (s, rest) => ({ s with interior := ts ++ s.interior }, rest)

/-- Reads on where `depth` pairs of angle brackets are open inside the tag. -/
def scan (stop : Location) (depth : Nat) (ts : List Token) :
    Except Failure (Suffix × List Token) :=
  match ts with
  | [] => .error (.rejected (.unexpectedEnd "`>`" stop))
  | t :: ts =>
    if t.opens?.isSome then
      match _h : Group.read (t :: ts) with
      | .ok (g, rest) => (scan stop depth rest).map (prepend g.tokens)
      | .error fault => .error (Parser.groupFailure stop fault (t :: ts))
    else if t.isMark .greaterThan then
      match depth with
      | 0 => .ok (⟨[], none, t⟩, ts)
      | depth + 1 => (scan stop depth ts).map (prepend [t])
    else if t.isMark .lessThan then (scan stop (depth + 1) ts).map (prepend [t])
    else
      match ts with
      | [] => (scan stop depth []).map (prepend [t])
      | next :: rest =>
        if t.isMark .slash && depth = 0 && next.isMark .greaterThan then
          .ok (⟨[], some t, next⟩, rest)
        else if t.isMark .minus && next.isMark .greaterThan then
          (scan stop depth rest).map (prepend [t, next])
        else (scan stop depth (next :: rest)).map (prepend [t])
termination_by ts.length
decreasing_by
  · exact Group.length_of_read _h
  all_goals
    simp only [List.length_cons]
    omega

end Suffix

namespace Parser

/-- The suffix of a tag whose `<` has been read; without one the stream stays where it is. -/
def suffix : Parser Suffix := do
  let s ← get
  match Suffix.scan s.stop 0 s.ahead with
  | .error e => throw e
  | .ok (suffix, rest) =>
    seek rest
    return suffix

end Parser

end ComponentMarkup
