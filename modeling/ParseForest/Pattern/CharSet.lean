import ParseForest.Text.Category
import ParseForest.Text.LowerCase
import ParseForest.Text.Property
import ParseForest.Text.Script

namespace ParseForest
namespace Pattern

/-!
# Sets of characters in patterns

A set is made of ranges of code points and of named classes, possibly negated,
and another set may be taken away from it, from which another one may be taken
away in turn.  Code points are numbers here, since a pattern can name ones that
are no characters; such a code point never occurs in a text.

The ranges of a set are kept in order and apart from each other, so that equal
sets of code points have equal ranges.
-/

def lastCode : Nat := 0x10FFFF

/-! ## Ranges -/

/-- Add a range to ranges that are in order and do not touch. -/
def insertRange (first last : Nat) : Text.CodeRanges → Text.CodeRanges
  | [] => [(first, last)]
  | (lo, hi) :: rest =>
    if last + 1 < lo then (first, last) :: (lo, hi) :: rest
    else if hi + 1 < first then (lo, hi) :: insertRange first last rest
    else insertRange (min first lo) (max last hi) rest

/-- Add ranges to ranges that are in order and do not touch. -/
def insertRanges (added ranges : Text.CodeRanges) : Text.CodeRanges :=
  added.foldl (fun ranges range => insertRange range.1 range.2 ranges) ranges

/-- The code points outside ranges that are in order, from `first` on. -/
def outside (first : Nat) : Text.CodeRanges → Text.CodeRanges
  | [] => if first < lastCode then [(first, lastCode)] else []
  | (lo, hi) :: rest =>
    if first < lo then (first, lo - 1) :: outside (hi + 1) rest else outside (hi + 1) rest

/-! ## Named classes -/

/-- What kind of class a name stands for. -/
inductive ClassKind where
  | category
  | script
  | property
  deriving DecidableEq

def ClassKind.ofName? (name : String) : Option ClassKind :=
  if Text.Category.names.contains name then some .category
  else if Text.Script.names.contains name then some .script
  else if Text.Property.names.contains name then some .property
  else none

/-- A named class, or everything outside it. -/
structure NamedClass where
  kind : ClassKind
  name : String
  negated : Bool
  deriving DecidableEq

namespace NamedClass

/-- Whether a code point belongs to the class, no matter whether it is negated. -/
def holds (c : NamedClass) (code : Nat) : Bool :=
  match c.kind with
  | .category => Text.Category.matchesCode c.name code
  | .script => Text.Script.matchesCode c.name code
  | .property => Text.Property.matchesCode c.name code

def category (name : String) (negated : Bool) : NamedClass :=
  ⟨.category, name, negated⟩

end NamedClass

/-! ## Members -/

/-- The members of a set from which nothing has been taken away. -/
structure Members where
  negated : Bool := false
  ranges : Text.CodeRanges := []
  classes : List NamedClass := []
  /-- Whether all characters have become members because a class and its
  complement met.  Nothing can be added then. -/
  all : Bool := false
  deriving DecidableEq

namespace Members

/-- Whether the first class that decides about a code point lets it in: a class
decides if it holds, and a negated class decides in any case. -/
def classesHold (code : Nat) : List NamedClass → Bool
  | [] => false
  | c :: cs =>
    if c.holds code then !c.negated else if c.negated then true else classesHold code cs

def holds (m : Members) (code : Nat) : Bool :=
  (m.ranges.holds code || classesHold code m.classes) != m.negated

def addRange (m : Members) (first last : Nat) : Members :=
  { m with ranges := insertRange first last m.ranges }

def addRanges (m : Members) (ranges : Text.CodeRanges) : Members :=
  if m.all then m else { m with ranges := insertRanges ranges m.ranges }

def addAll (m : Members) : Members :=
  { m with ranges := [(0, lastCode)], classes := [], all := true }

/-- Add classes.  A class that meets its complement lets everything in. -/
def addClasses (m : Members) : List NamedClass → Members
  | [] => m
  | c :: cs =>
    if m.all then m
    else
      match m.classes.find? (·.name = c.name) with
      | some known => if known.negated = c.negated then m.addClasses cs else m.addAll
      | none => addClasses { m with classes := m.classes ++ [c] } cs

def addMembers (m other : Members) : Members :=
  if m.all then m
  else if other.all then m.addAll
  else
    let added := m.addClasses other.classes
    if added.all then added
    else { added with ranges := insertRanges other.ranges added.ranges }

end Members

/-! ## Sets -/

/-- A set of code points: the members, without those that are taken away, which
in turn come without those of the next entry, and so on. -/
structure CharSet where
  members : Members := {}
  taken : List Members := []
  deriving DecidableEq

namespace CharSet

/-- Whether a code point is in the set that is described by these members, each
of which is taken away from the one before. -/
def layersHold (code : Nat) : List Members → Bool
  | [] => false
  | m :: ms => m.holds code && !layersHold code ms

def holds (set : CharSet) (code : Nat) : Bool :=
  layersHold code (set.members :: set.taken)

def ofRanges (ranges : Text.CodeRanges) : CharSet :=
  { members := { ranges := insertRanges ranges [] } }

def ofCode (code : Nat) : CharSet :=
  ofRanges [(code, code)]

def everything : CharSet :=
  ofRanges [(0, lastCode)]

/-- Whether the set is written without anything. -/
def isEmpty (set : CharSet) : Bool :=
  set.members.ranges.isEmpty && set.members.classes.isEmpty && set.taken.isEmpty

/-- Whether the members can be added to others: they are not negated, and
nothing is taken away. -/
def isMergeable (set : CharSet) : Bool :=
  !set.members.negated && set.taken.isEmpty

/-- The code point of a set that is written as a single one. -/
def code? (set : CharSet) : Option Nat :=
  if set.members.classes.isEmpty && set.taken.isEmpty then
    match set.members.ranges with
    | [(first, last)] => if first = last then some first else none
    | _ => none
  else none

def add (set other : CharSet) : CharSet :=
  { set with members := set.members.addMembers other.members }

end CharSet

/-! ## Predefined ranges -/

/-- The digits of `\d`. -/
def digits : Text.CodeRanges := [(0x30, 0x39)]

/-- The word characters of `\w`. -/
def wordChars : Text.CodeRanges := [(0x30, 0x39), (0x41, 0x5A), (0x5F, 0x5F), (0x61, 0x7A)]

/-- The white space of `\s`: tab, line feed, form feed, carriage return, space. -/
def space : Text.CodeRanges := [(0x09, 0x0A), (0x0C, 0x0D), (0x20, 0x20)]

/-- The white space of the class `space` between brackets. -/
def wideSpace : Text.CodeRanges :=
  [(0x09, 0x0D), (0x20, 0x20), (0xA0, 0xA0), (0x1680, 0x1680), (0x2000, 0x200A),
    (0x2028, 0x2029), (0x202F, 0x202F), (0x205F, 0x205F), (0x3000, 0x3000), (0xFEFF, 0xFEFF)]

/-- The ranges of an escaped class letter.  A capital letter means the
complement. -/
def escapedClass? (c : Char) : Option Text.CodeRanges :=
  match c with
  | 'd' => some digits
  | 'D' => some (outside 0 digits)
  | 'w' => some wordChars
  | 'W' => some (outside 0 wordChars)
  | 's' => some space
  | 'S' => some (outside 0 space)
  | _ => none

/-- The ranges of a class that is named between brackets and colons, apart
from `digit`. -/
def asciiClass? (name : String) : Option Text.CodeRanges :=
  match name with
  | "alnum" => some [(0x30, 0x39), (0x41, 0x5A), (0x61, 0x7A)]
  | "alpha" => some [(0x41, 0x5A), (0x61, 0x7A)]
  | "ascii" => some [(0x00, 0x7F)]
  | "blank" => some [(0x09, 0x09), (0x20, 0x20)]
  | "cntrl" => some [(0x00, 0x1F), (0x7F, 0x7F)]
  | "graph" => some [(0x21, 0x7E)]
  | "lower" => some [(0x61, 0x7A)]
  | "print" => some [(0x20, 0x7E)]
  | "punct" => some [(0x21, 0x2F), (0x3A, 0x40), (0x5B, 0x60), (0x7B, 0x7E)]
  | "space" => some wideSpace
  | "upper" => some [(0x41, 0x5A)]
  | "word" => some wordChars
  | "xdigit" => some [(0x30, 0x39), (0x41, 0x46), (0x61, 0x66)]
  | _ => none

end Pattern
end ParseForest
