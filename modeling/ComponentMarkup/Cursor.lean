import ComponentMarkup.Token.Group
import ComponentMarkup.Token.Lookahead

/-!
# Cursors

A cursor is a place among tokens together with a bound. It is never moved: to look ahead is to get
another cursor. A step back may lead to places below the first token; these are counted from the
end, so that the tokens stand there a second time.

## Main definitions

* `Cursor` — tokens, place and bound, which is not behind the last token.
* `Cursor.ahead` — the tokens from the place up to the bound.
* `Cursor.location?` — where the cursor stands; at the bound, where the token behind it starts.
* `Cursor.IsOver` — the cursors over some tokens.

## Main statements

* `Cursor.IsOver.stop_bounded` — a cursor is bounded by the very place of the other one.
* `Cursor.ahead_of_nonneg` — at a place that is not below the first token, the tokens ahead are a
  part of the tokens.
-/

namespace ComponentMarkup

open Source (Location)

structure Cursor where
  tokens : List Token
  index : Int
  stop : Int
  stop_le : stop ≤ tokens.length
deriving DecidableEq

namespace Cursor

/-- At the first of the tokens, bounded by the end of the source if it is the last one. -/
def ofTokens (ts : List Token) : Cursor where
  tokens := ts
  index := 0
  stop := if ts.getLast?.any (·.content = .eof) then ts.length - 1 else ts.length
  stop_le := by
    split
    · exact Int.sub_le_self _ Int.one_nonneg
    · exact Int.le_refl _

/-- Whether the place is so far below the first token that no token stands there. -/
def isAstray (c : Cursor) : Bool := c.index < -c.tokens.length

/-- The tokens of all places, from the lowest one on. -/
def laps (c : Cursor) : List Token := c.tokens ++ c.tokens

/-- How many of the places are lower. -/
def rank (c : Cursor) (place : Int) : Nat := (c.tokens.length + place).toNat

def ahead (c : Cursor) : List Token :=
  if c.isAstray then [] else (c.laps.take (c.rank c.stop)).drop (c.rank c.index)

def atStop (c : Cursor) : Bool := c.stop ≤ c.index

def token? (c : Cursor) : Option Token := c.ahead.head?

/-- There is none only if there are no tokens or the place is astray. -/
def location? (c : Cursor) : Option Location :=
  if c.isAstray then none
  else
    match c.laps[c.rank c.index]? with
    | some t => some t.start
    | none => c.tokens.getLast?.map Token.start

/-- Steps on as far as the bound, or back if the count is negative. -/
def advance (c : Cursor) (count : Int) : Cursor :=
  { c with index := min (c.index + count) c.stop }

/-- Up to the place of another cursor. Among the same tokens that is never behind the last one
(`IsOver.stop_bounded`); a place that is would be taken back to it. -/
def bounded (c bound : Cursor) : Cursor where
  tokens := c.tokens
  index := c.index
  stop := min bound.index c.tokens.length
  stop_le := Int.min_le_right ..

/-- How many of the tokens come before a place. -/
def preceding (c : Cursor) (place : Int) : Nat := if place < 0 then c.rank place else place.toNat

/-- The tokens up to another cursor, each of them taken once. -/
def upTo (c bound : Cursor) : List Token :=
  (c.tokens.take (c.preceding bound.index)).drop (c.preceding c.index)

/-- The cursor in front of the last `rest` of the tokens ahead. -/
def before (c : Cursor) (rest : List Token) : Cursor :=
  c.advance (c.ahead.length - rest.length)

/-- The next token if it passes, and the cursor behind it. -/
def next? (c : Cursor) (passes : Token → Bool) : Option (Token × Cursor) :=
  (c.token?.filter passes).map fun t => (t, c.advance 1)

/-- The next token if it is a mark, spelled as asked. -/
def mark? (c : Cursor) (spelling : Option String) : Option (Token × Cursor) :=
  c.next? fun t => t.mark?.isSome && spelling.all (· = t.lexeme)

def identifier? (c : Cursor) (spelling : Option String) : Option (Token × Cursor) :=
  c.next? fun t => t.isIdentifier && spelling.all (· = t.lexeme)

def literal? (c : Cursor) : Option (Token × Cursor) := c.next? Token.isLiteral

def afterGroup? (c : Cursor) : Option Cursor :=
  (Group.read c.ahead).toOption.map fun (_, rest) => c.before rest

def doubleColon? (c : Cursor) : Option Cursor := (Lookahead.doubleColon? c.ahead).map c.before

def dashedName? (c : Cursor) : Option (List Token × Cursor) :=
  (Lookahead.dashedName? c.ahead).map fun (name, more, rest) => (name :: more, c.before rest)

def describe (c : Cursor) : String :=
  let token := match c.token? with
    | some t => t.text
    | none => "None"
  s!"Cursor(index={c.index}, end={c.stop}, token={token})"

/-- The cursors over `ts`: the first one, and those made from others by steps and bounds. -/
inductive IsOver (ts : List Token) : Cursor → Prop where
  | ofTokens : IsOver ts (ofTokens ts)
  | advance {c : Cursor} (count : Int) : IsOver ts c → IsOver ts (c.advance count)
  | bounded {c bound : Cursor} : IsOver ts c → IsOver ts bound → IsOver ts (c.bounded bound)

namespace IsOver

variable {ts : List Token} {c bound : Cursor}

theorem tokens_eq (h : IsOver ts c) : c.tokens = ts := by
  induction h with
  | ofTokens => rfl
  | advance _ _ ih => exact ih
  | bounded _ _ ih => exact ih

/-- Steps go no further than the bound, so no place is behind the last token. -/
theorem index_le (h : IsOver ts c) : c.index ≤ ts.length := by
  induction h with
  | ofTokens => exact Int.natCast_nonneg _
  | @advance c count isOver _ =>
    calc (c.advance count).index ≤ c.stop := Int.min_le_right ..
      _ ≤ c.tokens.length := c.stop_le
      _ = ts.length := by rw [isOver.tokens_eq]
  | bounded _ _ ih => exact ih

/-- The bound is the place of the other cursor. -/
theorem stop_bounded (h : IsOver ts c) (h' : IsOver ts bound) :
    (c.bounded bound).stop = bound.index := by
  have place := h'.index_le
  rw [← h.tokens_eq] at place
  exact Int.min_eq_left place

end IsOver

theorem ahead_of_nonneg {c : Cursor} (h : 0 ≤ c.index) (hs : 0 ≤ c.stop) :
    c.ahead = (c.tokens.take c.stop.toNat).drop c.index.toNat := by
  have hi : ¬ c.index < -(c.tokens.length : Int) := by omega
  have hl : ∀ p : Int, 0 ≤ p → c.rank p = c.tokens.length + p.toNat := by
    intro p hp
    simp only [rank]
    omega
  simp [ahead, isAstray, hi, laps, hl _ h, hl _ hs, List.take_append, List.drop_append]

theorem ahead_eq_nil_of_atStop {c : Cursor} (h : c.atStop) : c.ahead = [] := by
  simp only [atStop, decide_eq_true_eq] at h
  simp only [ahead, rank]
  split
  · rfl
  · apply List.drop_eq_nil_of_le
    simp only [List.length_take]
    omega

end Cursor

end ComponentMarkup
