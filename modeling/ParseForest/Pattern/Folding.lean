import ParseForest.Pattern.CharSet

namespace ParseForest
namespace Pattern

/-!
# Sets that ignore case

Where case is ignored, characters are compared in lower case, so a set has to
contain the lower-case forms of its members.  A single code point is replaced
by its form.  Ranges keep their code points, and the forms of the capitals in
them are added by a table of capitals that follow each other: the alphabets of
the older scripts, which are far from all capitals there are.
-/

/-- How the lower-case forms of a run of capitals follow from them. -/
inductive Lowering where
  /-- All have the same form. -/
  | to (code : Nat)
  | up (distance : Nat)
  | down (distance : Nat)
  /-- Capitals are even, and each comes before its form. -/
  | toOdd
  /-- Capitals are odd, and each comes before its form. -/
  | toEven

/-- The form that a lowering gives to a code point. -/
def Lowering.apply (code : Nat) : Lowering → Nat
  | .to form => form
  | .up distance => code + distance
  | .down distance => code - distance
  | .toOdd => code + 1 - code % 2
  | .toEven => code + code % 2

/-- Capitals that follow each other. -/
structure Capitals where
  first : Nat
  last : Nat
  lowering : Lowering

def capitals : List Capitals :=
   [⟨0x41, 0x5A, .up 32⟩, ⟨0xC0, 0xDE, .up 32⟩, ⟨0x100, 0x12E, .toOdd⟩,
    ⟨0x130, 0x130, .to 0x69⟩, ⟨0x132, 0x136, .toOdd⟩, ⟨0x139, 0x147, .toEven⟩,
    ⟨0x14A, 0x176, .toOdd⟩, ⟨0x178, 0x178, .to 0xFF⟩, ⟨0x179, 0x17D, .toEven⟩,
    ⟨0x181, 0x181, .to 0x253⟩, ⟨0x182, 0x184, .toOdd⟩, ⟨0x186, 0x186, .to 0x254⟩,
    ⟨0x187, 0x187, .to 0x188⟩, ⟨0x189, 0x18A, .up 205⟩, ⟨0x18B, 0x18B, .to 0x18C⟩,
    ⟨0x18E, 0x18E, .to 0x1DD⟩, ⟨0x18F, 0x18F, .to 0x259⟩, ⟨0x190, 0x190, .to 0x25B⟩,
    ⟨0x191, 0x191, .to 0x192⟩, ⟨0x193, 0x193, .to 0x260⟩, ⟨0x194, 0x194, .to 0x263⟩,
    ⟨0x196, 0x196, .to 0x269⟩, ⟨0x197, 0x197, .to 0x268⟩, ⟨0x198, 0x198, .to 0x199⟩,
    ⟨0x19C, 0x19C, .to 0x26F⟩, ⟨0x19D, 0x19D, .to 0x272⟩, ⟨0x19F, 0x19F, .to 0x275⟩,
    ⟨0x1A0, 0x1A4, .toOdd⟩, ⟨0x1A7, 0x1A7, .to 0x1A8⟩, ⟨0x1A9, 0x1A9, .to 0x283⟩,
    ⟨0x1AC, 0x1AC, .to 0x1AD⟩, ⟨0x1AE, 0x1AE, .to 0x288⟩, ⟨0x1AF, 0x1AF, .to 0x1B0⟩,
    ⟨0x1B1, 0x1B2, .up 217⟩, ⟨0x1B3, 0x1B5, .toEven⟩, ⟨0x1B7, 0x1B7, .to 0x292⟩,
    ⟨0x1B8, 0x1B8, .to 0x1B9⟩, ⟨0x1BC, 0x1BC, .to 0x1BD⟩, ⟨0x1C4, 0x1C5, .to 0x1C6⟩,
    ⟨0x1C7, 0x1C8, .to 0x1C9⟩, ⟨0x1CA, 0x1CB, .to 0x1CC⟩, ⟨0x1CD, 0x1DB, .toEven⟩,
    ⟨0x1DE, 0x1EE, .toOdd⟩, ⟨0x1F1, 0x1F2, .to 0x1F3⟩, ⟨0x1F4, 0x1F4, .to 0x1F5⟩,
    ⟨0x1FA, 0x216, .toOdd⟩, ⟨0x386, 0x386, .to 0x3AC⟩, ⟨0x388, 0x38A, .up 37⟩,
    ⟨0x38C, 0x38C, .to 0x3CC⟩, ⟨0x38E, 0x38F, .up 63⟩, ⟨0x391, 0x3AB, .up 32⟩,
    ⟨0x3E2, 0x3EE, .toOdd⟩, ⟨0x401, 0x40F, .up 80⟩, ⟨0x410, 0x42F, .up 32⟩,
    ⟨0x460, 0x480, .toOdd⟩, ⟨0x490, 0x4BE, .toOdd⟩, ⟨0x4C1, 0x4C3, .toEven⟩,
    ⟨0x4C7, 0x4C7, .to 0x4C8⟩, ⟨0x4CB, 0x4CB, .to 0x4CC⟩, ⟨0x4D0, 0x4EA, .toOdd⟩,
    ⟨0x4EE, 0x4F4, .toOdd⟩, ⟨0x4F8, 0x4F8, .to 0x4F9⟩, ⟨0x531, 0x556, .up 48⟩,
    ⟨0x10A0, 0x10C5, .up 48⟩, ⟨0x1E00, 0x1EF8, .toOdd⟩, ⟨0x1F08, 0x1F0F, .down 8⟩,
    ⟨0x1F18, 0x1F1F, .down 8⟩, ⟨0x1F28, 0x1F2F, .down 8⟩, ⟨0x1F38, 0x1F3F, .down 8⟩,
    ⟨0x1F48, 0x1F4D, .down 8⟩, ⟨0x1F59, 0x1F59, .to 0x1F51⟩, ⟨0x1F5B, 0x1F5B, .to 0x1F53⟩,
    ⟨0x1F5D, 0x1F5D, .to 0x1F55⟩, ⟨0x1F5F, 0x1F5F, .to 0x1F57⟩, ⟨0x1F68, 0x1F6F, .down 8⟩,
    ⟨0x1F88, 0x1F8F, .down 8⟩, ⟨0x1F98, 0x1F9F, .down 8⟩, ⟨0x1FA8, 0x1FAF, .down 8⟩,
    ⟨0x1FB8, 0x1FB9, .down 8⟩, ⟨0x1FBA, 0x1FBB, .down 74⟩, ⟨0x1FBC, 0x1FBC, .to 0x1FB3⟩,
    ⟨0x1FC8, 0x1FCB, .down 86⟩, ⟨0x1FCC, 0x1FCC, .to 0x1FC3⟩, ⟨0x1FD8, 0x1FD9, .down 8⟩,
    ⟨0x1FDA, 0x1FDB, .down 100⟩, ⟨0x1FE8, 0x1FE9, .down 8⟩, ⟨0x1FEA, 0x1FEB, .down 112⟩,
    ⟨0x1FEC, 0x1FEC, .to 0x1FE5⟩, ⟨0x1FF8, 0x1FF9, .down 128⟩, ⟨0x1FFA, 0x1FFB, .down 126⟩,
    ⟨0x1FFC, 0x1FFC, .to 0x1FF3⟩, ⟨0x2160, 0x216F, .up 16⟩, ⟨0x24B6, 0x24D0, .up 26⟩,
    ⟨0xFF21, 0xFF3A, .up 32⟩]

/-- The forms of those capitals that lie in a range, unless the range holds them
already. -/
def Capitals.formsIn (c : Capitals) (first last : Nat) : Option (Nat × Nat) :=
  if last < c.first || c.last < first then none
  else
    let lo := c.lowering.apply (max first c.first)
    let hi := c.lowering.apply (min last c.last)
    if lo < first || last < hi then some (lo, hi) else none

def foldRanges (ranges : Text.CodeRanges) : Text.CodeRanges :=
  ranges.foldl
    (fun folded (first, last) =>
      if first = last then
        insertRange (Text.LowerCase.ofCode first) (Text.LowerCase.ofCode first) folded
      else
        insertRanges (capitals.filterMap (·.formsIn first last)) (insertRange first last folded))
    []

/-- Bring the members of a set into lower case, unless all characters are
members anyway. -/
def Members.fold (m : Members) : Members :=
  if m.all then m else { m with ranges := foldRanges m.ranges }

/-- Bring a set into lower case.  What is taken away stays as it is. -/
def CharSet.fold (set : CharSet) : CharSet :=
  { set with members := set.members.fold }

end Pattern
end ParseForest
