import ParseForest.Pattern.Basic

namespace ParseForest
namespace Pattern

/-!
# Where matches can begin

Before a pattern is tried at a position, the search passes over positions where
it cannot match: a pattern can begin with a condition on the position, with a
text, or with one of certain characters.  What is found out here is only as
good as what it is found out from, and it is part of what a pattern means: a
position that is passed over is never tried.
-/

/-! ## Conditions -/

mutual

/-- The condition that a pattern begins with; `next` is the one that follows
it, in case the pattern takes nothing. -/
def beginningAnchor (next : Option Anchor) : Pattern → Option Anchor
  | .seq _ parts => beginningAnchors parts
  | .group _ _ body => beginningAnchor none body
  | .atomic body => beginningAnchor none body
  | .anchor a => if a = .noBoundary then none else some a
  | .empty => next
  | .look _ _ => next
  | _ => none

/-- The condition that patterns one after the other begin with. -/
def beginningAnchors : List Pattern → Option Anchor
  | [] => none
  | p :: ps => beginningAnchor (beginningAnchors ps) p

end

/-! ## Texts -/

mutual

/-- The code points that a pattern begins with, and whether case is ignored;
`next` is what follows, in case the pattern takes nothing. -/
def beginningText (next : Option (List Nat × Bool)) : Pattern → Option (List Nat × Bool)
  | .seq _ parts => beginningTexts parts
  | .group _ _ body => beginningText none body
  | .atomic body => beginningText none body
  | .single mode (.is code) => some ([code], mode.ignoreCase)
  | .text mode codes => some (codes, mode.ignoreCase)
  | .singles mode (.is code) _ least _ =>
    if 0 < least then some (List.replicate (min least 50) code, mode.ignoreCase) else none
  | .anchor a => if a = .noBoundary then none else next
  | .empty => next
  | .look _ _ => next
  | _ => none

/-- The code points that patterns one after the other begin with. -/
def beginningTexts : List Pattern → Option (List Nat × Bool)
  | [] => none
  | p :: ps => beginningText (beginningTexts ps) p

end

/-- A text that is searched for from its last code point, so that a text that
does not fit can be passed over by more than one position. -/
structure Literal where
  codes : Array Nat
  ignoreCase : Bool
  /-- By how much to move on if the code points behind an index fit and the one
  at the index does not. -/
  suffixShifts : Array Nat

namespace Literal

/-- How many code points at the end fit if the text is moved by `shift`. -/
def overlap (codes : List Nat) (shift : Nat) : Nat :=
  let reversed := codes.reverse
  ((reversed.zip (reversed.drop shift)).takeWhile fun (a, b) => a = b).length

/-- By how much to move on if the code points behind an index fit: the least
move by which they fit again and the one at the index is another one. -/
def suffixShift (codes : List Nat) (index : Nat) : Nat :=
  let last := codes.length - 1
  if index = last then 1
  else ((List.range' 1 last).find? fun shift => overlap codes shift = last - index).getD 1

/-- The text to search for, in lower case if case is ignored.  There is none if
it would be empty or has a code point of more than 16 bits, and no more than
its first 50 code points are searched for. -/
def make? (codes : List Nat) (ignoreCase : Bool) : Option Literal :=
  let codes := (codes.take 50).map fun code =>
    if ignoreCase then Text.LowerCase.ofCode code else code
  if codes.isEmpty || codes.any (0xFFFF < ·) then none
  else
    some { codes := codes.toArray
           ignoreCase := ignoreCase
           suffixShifts := ((List.range codes.length).map (suffixShift codes)).toArray }

/-- How far from the end a code point last stands, and otherwise the length. -/
def distance (l : Literal) (code : Nat) : Nat :=
  l.codes.toList.reverse.findIdx (· = code)

/-- Whether it is known where a code point stands: for those below 128, and
otherwise for those that share all but the lowest eight bits with one of the
text.  It is never known for the last one of 16 bits. -/
def knows (l : Literal) (code : Nat) : Bool :=
  code < 128
    || (code < 0xFFFF && l.codes.any fun known => 128 ≤ known && known / 256 = code / 256)

/-- The code point at an index of a text, as it is compared. -/
def codeAt (l : Literal) (text : Array Nat) (index : Nat) : Nat :=
  let code := text.getD index 0
  if l.ignoreCase then Text.LowerCase.ofCode code else code

/-- The first index from the end, among the first `count` ones, where the text
that ends at `stop` does not fit.  The code points behind them fit. -/
def misfit? (l : Literal) (text : Array Nat) (stop : Nat) : (count : Nat) → Option Nat
  | 0 => none
  | index + 1 =>
    if l.codeAt text (stop + index + 1 - l.codes.size) = l.codes.getD index 0 then
      l.misfit? text stop index
    else some index

/-- By how much to move on if the code point of the text at an index does not
fit. -/
def shift (l : Literal) (index code : Nat) : Nat :=
  let last := l.codes.size - 1
  if index = last then if l.knows code then l.distance code else l.codes.size
  else
    let least := l.suffixShifts.getD index 1
    if l.knows code then max least (index + l.distance code - last) else least

/-- Search for an occurrence that ends at `stop` or later.  Every step moves on
by at least one, so `fuel` steps suffice for a text of that length. -/
def findFrom (l : Literal) (text : Array Nat) : (fuel stop : Nat) → Option Nat
  | 0, _ => none
  | fuel + 1, stop =>
    if stop < text.size then
      match l.misfit? text stop l.codes.size with
      | none => some (stop + 1 - l.codes.size)
      | some index =>
        let code := l.codeAt text (stop + index + 1 - l.codes.size)
        l.findFrom text fuel (stop + l.shift index code)
    else none

/-- The first occurrence that begins at `start` or later. -/
def find (l : Literal) (text : Array Nat) (start : Nat) : Option Nat :=
  l.findFrom text (text.size + 1) (start + l.codes.size - 1)

/-- Whether there is an occurrence at a position. -/
def occursAt (l : Literal) (text : Array Nat) (start : Nat) : Bool :=
  start + l.codes.size ≤ text.size
    && (l.misfit? text (start + l.codes.size - 1) l.codes.size).isNone

end Literal

/-! ## First characters -/

/-- The characters that a match can begin with. -/
structure First where
  set : CharSet := {}
  /-- Whether a match can also be empty. -/
  nullable : Bool := true
  ignoreCase : Bool := false

namespace First

def nothing : First := {}

/-- The first characters of a comparison with a single character.  The code
points behind the last one of 16 bits are forgotten if one of them is excluded,
or that one. -/
def ofSingle (mode : Mode) (nullable : Bool) : Single → First
  | .is code => ⟨.ofCode code, nullable, mode.ignoreCase⟩
  | .isNot code =>
    let below := if 0 < code then [(0, code - 1)] else []
    let above := if code < 0xFFFF then [(code + 1, lastCode)] else []
    ⟨.ofRanges (below ++ above), nullable, mode.ignoreCase⟩
  | .among set => ⟨set, nullable, mode.ignoreCase⟩

/-- The first characters of one thing or another.  It is not known what they are
if one of the sets cannot be added to. -/
def or? (a b : First) : Option First :=
  if a.set.isMergeable && b.set.isMergeable then
    some ⟨a.set.add b.set, a.nullable || b.nullable, a.ignoreCase || b.ignoreCase⟩
  else none

/-- The first characters of one thing and then another, if the first one can be
empty. -/
def then? (a b : First) : Option First :=
  (a.or? b).map fun both => { both with nullable := b.nullable }

mutual

/-- The first characters of a pattern, if they are known. -/
def ofPattern? : Pattern → Option First
  | .single mode what => some (ofSingle mode false what)
  | .text mode codes =>
    match if mode.backwards then codes.getLast? else codes.head? with
    | none => some nothing
    | some code => some (ofSingle mode false (.is code))
  | .singles mode what _ least _ => some (ofSingle mode (least = 0) what)
  | .loop _ least _ body =>
    (ofPattern? body).map fun first => { first with nullable := first.nullable || least = 0 }
  | .seq _ parts =>
    match parts with
    | [] => some nothing
    | p :: ps => (ofPattern? p).bind fun first => ofSequence? first ps
  | .alt choices => ofChoices? choices
  | .group _ _ body => ofPattern? body
  | .atomic body => ofPattern? body
  | .backref _ _ => some ⟨.everything, true, false⟩
  | .ifGroup _ branches => ofChoices? branches
  | .ifLook _ branches => ofChoices? branches
  | _ => some nothing

/-- The first characters of something with the given ones and then patterns, of
which only those count that can be reached without a character. -/
def ofSequence? (before : First) : List Pattern → Option First
  | [] => some before
  | p :: ps =>
    if before.nullable then
      ((ofPattern? p).bind before.then?).bind fun first => ofSequence? first ps
    else some before

def ofChoices? : List Pattern → Option First
  | [] => some nothing
  | [p] => ofPattern? p
  | p :: ps => (ofPattern? p).bind fun first => (ofChoices? ps).bind first.or?

end

/-- What to look for at the beginning of a match, unless it can be empty. -/
def search? (p : Pattern) : Option (CharSet × Bool) :=
  match ofPattern? p with
  | none => none
  | some first =>
    if first.nullable || first.set.isEmpty then none
    else some (if first.ignoreCase then first.set.fold else first.set, first.ignoreCase)

end First

/-! ## All three -/

/-- What is known about where matches can begin. -/
structure Lead where
  anchor : Option Anchor
  literal : Option Literal
  /-- The characters that a match begins with, and whether characters are
  compared with them in lower case. -/
  first : Option (CharSet × Bool)

namespace Lead

def ofPattern (p : Pattern) : Lead where
  anchor := beginningAnchor none p
  literal := (beginningText none p).bind fun (codes, ignoreCase) => Literal.make? codes ignoreCase
  first := First.search? p

end Lead
end Pattern
end ParseForest
