import ParseForest.Pattern.Folding

namespace ParseForest

/-!
# Patterns

Separators are described by patterns in the usual notation of regular
expressions, with groups, back references, conditions and looking around.  This
module holds the patterns themselves; reading their notation and finding them
in a text come separately.
-/

namespace Pattern

/-- How characters are taken from the text: in lower case if case is ignored,
and from right to left inside of something that looks behind. -/
structure Mode where
  ignoreCase : Bool := false
  backwards : Bool := false
  deriving DecidableEq

/-- What a single character is compared with. -/
inductive Single where
  | is (code : Nat)
  | isNot (code : Nat)
  | among (set : CharSet)
  deriving DecidableEq

/-- A condition on a position. -/
inductive Anchor where
  /-- The beginning of the text or of a line. -/
  | lineStart
  /-- The end of the text or of a line. -/
  | lineEnd
  /-- Between a word character and anything else. -/
  | boundary
  /-- Anywhere but at a boundary. -/
  | noBoundary
  /-- The beginning of the text. -/
  | textStart
  /-- Where the search began. -/
  | searchStart
  /-- The end of the text, for a search that may stop at a line feed before it. -/
  | lastLine
  /-- The end of the text. -/
  | textEnd
  deriving DecidableEq

/-- The number of repetitions that counts as unlimited, the largest number that
may stand in a pattern. -/
def unlimited : Nat := 2147483647

end Pattern

inductive Pattern where
  /-- Matches without taking anything. -/
  | empty
  /-- Never matches. -/
  | nothing
  | single (mode : Pattern.Mode) (what : Pattern.Single)
  /-- Several code points one after the other. -/
  | text (mode : Pattern.Mode) (codes : List Nat)
  /-- A single character at least `least` and at most `most` times, as often as
  possible, or as seldom as possible if it is lazy. -/
  | singles (mode : Pattern.Mode) (what : Pattern.Single) (isLazy : Bool) (least most : Nat)
  /-- `body` at least `least` and at most `most` times. -/
  | loop (isLazy : Bool) (least most : Nat) (body : Pattern)
  /-- One part after the other.  Backwards the parts stand in reverse. -/
  | seq (backwards : Bool) (parts : List Pattern)
  /-- One of several alternatives. -/
  | alt (choices : List Pattern)
  | anchor (condition : Pattern.Anchor)
  /-- Remembers what it has matched as the latest match of the group `slot`, and
  forgets the latest match of the group `balanced`, which must have one. -/
  | group (slot balanced : Option Nat) (body : Pattern)
  /-- Matches what a group has matched before. -/
  | backref (mode : Pattern.Mode) (slot : Nat)
  /-- Matches where `body` would, without taking anything; a negative one
  matches where `body` would not. -/
  | look (negative : Bool) (body : Pattern)
  /-- Matches the first way only. -/
  | atomic (body : Pattern)
  /-- Goes on with the first branch if a group has a match, and otherwise with
  the second one, if there is one. -/
  | ifGroup (slot : Nat) (branches : List Pattern)
  /-- Goes on with the first branch where `condition` would match, and otherwise
  with the second one, if there is one. -/
  | ifLook (condition : Pattern) (branches : List Pattern)

end ParseForest
