import ParseForest.Pattern.Groups
import ParseForest.Pattern.Scan

namespace ParseForest
namespace Pattern

/-!
# Blanks, options and escapes in the notation

This module reads what can stand between the parts of a pattern, the letters
that switch options, and everything that begins with a backslash outside of a
set: conditions on positions, classes, back references and characters.
-/

open Reading (rest goTo accept options)

/-! ## Between the parts -/

def startsComment : List Char → Bool
  | '(' :: '?' :: '#' :: _ => true
  | _ => false

def isBlank (c : Char) : Bool :=
  c = ' ' || (0x09 ≤ c.toNat && c.toNat ≤ 0x0D)

/-- Pass over comments, and in an extended pattern over blanks and over
comments up to the end of their line. -/
def skipBlanksFrom (extended : Bool) : (fuel : Nat) → List Char → Reading Unit
  | 0, cs => goTo cs
  | fuel + 1, cs =>
    if startsComment cs then
      match cs.dropWhile (· ≠ ')') with
      | [] => do
        goTo []
        throw .unterminatedComment
      | _ :: more => skipBlanksFrom extended fuel more
    else
      match cs with
      | c :: more =>
        if extended && isBlank c then skipBlanksFrom extended fuel more
        else if extended && c = '#' then skipBlanksFrom extended fuel (more.dropWhile (· ≠ '\n'))
        else goTo cs
      | [] => goTo cs

/-- Pass over what means nothing. -/
def skipBlanks : Reading Unit := do
  let cs ← rest
  skipBlanksFrom (← options).extended (cs.length + 1) cs

/-- Pass over what means nothing, up to the end if a comment is not closed. -/
def skipBlanksGently : Reading Unit :=
  skipBlanks <|> pure ()

/-- Whether the text starts with a count in braces, behind the opening brace. -/
def startsCount (cs : List Char) : Bool :=
  !(cs.takeWhile Char.isDigit).isEmpty &&
    match cs.dropWhile Char.isDigit with
    | '\x7d' :: _ => true
    | ',' :: more => (more.dropWhile Char.isDigit).head? = some '\x7d'
    | _ => false

/-- Whether the text starts with a repetition operator.  A brace is one only in
front of a count. -/
def startsRepetition : List Char → Bool
  | '*' :: _ => true
  | '+' :: _ => true
  | '?' :: _ => true
  | '\x7b' :: more => startsCount more
  | _ => false

/-! ## Options -/

namespace Options

/-- Switch the option of a letter, if it is one.  Two letters mean nothing. -/
def switch? (o : Options) (on : Bool) (c : Char) : Option Options :=
  match c.toLower with
  | 'i' => some { o with ignoreCase := on }
  | 'm' => some { o with multiline := on }
  | 'n' => some { o with explicitOnly := on }
  | 's' => some { o with dotAll := on }
  | 'x' => some { o with extended := on }
  | 'd' => some o
  | 'u' => some o
  | _ => none

end Options

/-- Switch the options of letters and signs as far as they go. -/
def switchOptions (on : Bool) : List Char → Reading Unit
  | [] => goTo []
  | c :: cs => do
    if c = '-' then switchOptions false cs
    else if c = '+' then switchOptions true cs
    else
      match (← options).switch? on c with
      | some o =>
        modify ({ · with options := o })
        switchOptions on cs
      | none => goTo (c :: cs)

/-! ## Behind a backslash -/

/-- The condition that an escaped letter denotes. -/
def anchorOf? (c : Char) : Option Anchor :=
  match c with
  | 'b' => some .boundary
  | 'B' => some .noBoundary
  | 'A' => some .textStart
  | 'G' => some .searchStart
  | 'Z' => some .lastLine
  | 'z' => some .textEnd
  | _ => none

def name : Reading (List Char) := do
  let cs ← rest
  goTo (cs.dropWhile Text.isWord)
  return cs.takeWhile Text.isWord

def escapedChar : Reading Pattern := do
  let code ← escape
  let o ← options
  return .single o.mode (.is (o.fold code))

/-- A back reference to the group with a number. -/
def numberReference (groups : Groups) (slot : Nat) : Reading Pattern := do
  if groups.hasSlot slot then return .backref (← options).mode slot
  else throw (.undefinedNumber slot)

/-- A back reference behind the opening of its name or number, up to the given
closing, or none if it is not closed. -/
def closedReference? (groups : Groups) (closing : Char) : Reading (Option Pattern) := do
  if ((← rest).head?.map Char.isDigit).getD false then
    let slot ← number
    if ← accept closing then return some (← numberReference groups slot)
    else return none
  else
    let name ← name
    if name.isEmpty then return none
    else if ← accept closing then
      match groups.slot? name with
      | some slot => return some (.backref (← options).mode slot)
      | none => throw (.undefinedName name)
    else return none

/-- What closes something that the character opens. -/
def closingOf (c : Char) : Char :=
  if c = '<' then '>' else '\''

/-- Read a back reference behind `\k`.  A number that is not closed is no
reference at all, and what stands here, from `start` on, is a character then;
whereas a name has to be closed. -/
def namedReference (groups : Groups) (start : List Char) : Reading Pattern := do
  match ← rest with
  | c :: cs =>
    goTo cs
    if (c = '<' || c = '\'') && !cs.isEmpty then
      match ← closedReference? groups (closingOf c) with
      | some found => return found
      | none =>
        if (cs.head?.map Char.isDigit).getD false then
          goTo start
          escapedChar
        else throw .malformedNameRef
    else throw .malformedNameRef
  | [] => throw .malformedNameRef

/-- Read a back reference by a bare number, or the character that stands here if
there is no such group and the number is not a single digit.  Every number is
one while groups are still being counted. -/
def bareReference (groups : Groups) (counting : Bool) (start : List Char) : Reading Pattern := do
  let slot ← number
  if counting || groups.hasSlot slot then return .backref (← options).mode slot
  else if slot ≤ 9 then throw (.undefinedNumber slot)
  else
    goTo start
    escapedChar

def backslash (groups : Groups) (counting : Bool) : Reading Pattern := do
  let cs ← rest
  match cs with
  | [] => throw .escapeAtEnd
  | c :: more =>
    match anchorOf? c with
    | some condition =>
      goTo more
      return .anchor condition
    | none =>
      let o ← options
      match escapedClass? c with
      | some ranges =>
        goTo more
        return .single o.mode (.among (.ofRanges ranges))
      | none =>
        if c = 'p' || c = 'P' then
          goTo more
          let named ← namedClass (c = 'P')
          let members := ({} : Members).addClasses (caseClasses o.ignoreCase named)
          return .single o.mode (.among { members := members })
        else if c = 'k' then
          goTo more
          namedReference groups cs
        else if (c = '<' || c = '\'') && !more.isEmpty then
          goTo more
          match ← closedReference? groups (closingOf c) with
          | some found => return found
          | none =>
            goTo cs
            escapedChar
        else if '1' ≤ c && c ≤ '9' then bareReference groups counting cs
        else escapedChar

end Pattern
end ParseForest
