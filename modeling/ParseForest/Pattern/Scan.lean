import ParseForest.Pattern.Basic
import ParseForest.Pattern.Error

namespace ParseForest
namespace Pattern

/-!
# Numbers, escapes and sets in the notation

This module reads what stands behind a backslash as far as it means a
character or a class, and what stands between square brackets.  All reading
goes forward through the characters of the pattern.  A reader that fails has
gone up to the place where it failed, which matters because the first pass over
a pattern, which only counts groups, goes on from there.
-/

/-- What the letters behind an opening parenthesis and a question mark switch. -/
structure Options where
  ignoreCase : Bool := false
  multiline : Bool := false
  /-- Only groups with a name or number remember what they match. -/
  explicitOnly : Bool := false
  dotAll : Bool := false
  /-- Blanks and comments in the notation mean nothing. -/
  extended : Bool := false
  /-- Inside of something that looks behind; no letter switches this. -/
  backwards : Bool := false

/-- How characters are taken. -/
def Options.mode (o : Options) : Mode :=
  ⟨o.ignoreCase, o.backwards⟩

def Options.fold (o : Options) (code : Nat) : Nat :=
  if o.ignoreCase then Text.LowerCase.ofCode code else code

/-- How far the reading of a pattern has come. -/
structure Scan where
  rest : List Char
  options : Options := {}
  /-- The next number for a group without one. -/
  next : Nat := 1
  /-- Whether the next plain parenthesis belongs to a condition and opens no
  group that remembers. -/
  inCondition : Bool := false

/-- Something that reads from a pattern. -/
abbrev Reading := EStateM ReadError Scan

namespace Reading

def rest : Reading (List Char) :=
  return (← get).rest

def goTo (cs : List Char) : Reading Unit :=
  modify ({ · with rest := cs })

def accept (c : Char) : Reading Bool := do
  match ← rest with
  | d :: cs =>
    if d = c then
      goTo cs
      return true
    else return false
  | [] => return false

def options : Reading Options :=
  return (← get).options

end Reading

open Reading (rest goTo accept options)

/-! ## Numbers -/

/-- A decimal number behind digits of the given value, no digit meaning zero. -/
def numberFrom (value : Nat) : List Char → Reading Nat
  | [] => do
    goTo []
    return value
  | c :: cs => do
    if c.isDigit then
      let value := 10 * value + (c.toNat - 48)
      if unlimited < value then
        goTo cs
        throw .numberTooLarge
      else numberFrom value cs
    else
      goTo (c :: cs)
      return value

def number : Reading Nat := do
  numberFrom 0 (← rest)

def hexValue? (c : Char) : Option Nat :=
  if c.isDigit then some (c.toNat - 48)
  else if 'a' ≤ c && c ≤ 'f' then some (c.toNat - 87)
  else if 'A' ≤ c && c ≤ 'F' then some (c.toNat - 55)
  else none

/-- Exactly `count` hexadecimal digits behind others of the given value. -/
def hexFrom : (count value : Nat) → List Char → Reading Nat
  | 0, value, cs => do
    goTo cs
    return value
  | _ + 1, _, [] => throw .fewHexDigits
  | count + 1, value, c :: cs =>
    match hexValue? c with
    | some d => hexFrom count (16 * value + d) cs
    | none => do
      goTo cs
      throw .fewHexDigits

/-- Exactly `count` hexadecimal digits.  If there are not enough characters,
none is passed over. -/
def hex (count : Nat) : Reading Nat := do
  let cs ← rest
  if cs.length < count then throw .fewHexDigits else hexFrom count 0 cs

/-- Hexadecimal digits up to a closing brace; there has to be at least one. -/
def bracedHex (isFirst : Bool) (value : Nat) : List Char → Reading Nat
  | [] => do
    goTo []
    throw .missingBrace
  | c :: cs => do
    goTo cs
    if c = '\x7d' then if isFirst then throw .fewHexDigits else return value
    else
      match hexValue? c with
      | none => throw .missingBrace
      | some d =>
        if lastCode < 16 * value + d then throw .hexTooLarge
        else bracedHex false (16 * value + d) cs

/-- At most `count` octal digits, of whose value the lowest eight bits count. -/
def octal : (count value : Nat) → List Char → Reading Nat
  | count + 1, value, c :: cs => do
    if '0' ≤ c && c ≤ '7' then octal count (8 * value + (c.toNat - 48)) cs
    else
      goTo (c :: cs)
      return value % 256
  | _, value, cs => do
    goTo cs
    return value % 256

/-! ## Escapes -/

/-- A control character by its letter. -/
def control : Reading Nat := do
  match ← rest with
  | [] => throw .missingControl
  | c :: cs =>
    goTo cs
    let code := if 'a' ≤ c && c ≤ 'z' then c.toNat - 32 else c.toNat
    if 0x40 ≤ code && code < 0x60 then return code - 0x40 else throw .unknownControl

/-- The character that an escape denotes, behind the backslash.  One without a
meaning of its own denotes itself. -/
def escape : Reading Nat := do
  match ← rest with
  | [] => throw .escapeAtEnd
  | c :: cs =>
    if '0' ≤ c && c ≤ '7' then octal 3 0 (c :: cs)
    else
      goTo cs
      match c with
      | 'x' => if ← accept '\x7b' then bracedHex true 0 (cs.drop 1) else hex 2
      | 'u' => hex 4
      | 'a' => return 0x07
      | 'b' => return 0x08
      | 'e' => return 0x1B
      | 'f' => return 0x0C
      | 'n' => return 0x0A
      | 'r' => return 0x0D
      | 't' => return 0x09
      | 'v' => return 0x0B
      | 'c' => control
      | _ => return c.toNat

/-- The class with a name, if there is one. -/
def classNamed (name : List Char) (negated : Bool) : Reading NamedClass :=
  match ClassKind.ofName? (String.ofList name) with
  | some kind => return ⟨kind, String.ofList name, negated⟩
  | none => throw (.unknownClass name)

def isClassNamePart (c : Char) : Bool :=
  Text.isWord c || c = '-'

/-- A class behind `\p`: a single letter, or a name in braces. -/
def namedClass (negated : Bool) : Reading NamedClass := do
  match ← rest with
  | [] => throw .incompleteClass
  | '\x7b' :: cs =>
    if cs.length < 2 then throw .incompleteClass
    else
      goTo ((cs.dropWhile isClassNamePart).drop 1)
      match cs.dropWhile isClassNamePart with
      | '\x7d' :: _ => classNamed (cs.takeWhile isClassNamePart) negated
      | _ => throw .incompleteClass
  | c :: cs =>
    goTo cs
    classNamed [c] negated

/-- The classes that a class stands for.  When case is ignored, a class of cased
letters stands for all three of them. -/
def caseClasses (ignoreCase : Bool) (c : NamedClass) : List NamedClass :=
  (if ignoreCase && (c.name = "Ll" || c.name = "Lu" || c.name = "Lt") then
    [.category "Ll" c.negated, .category "Lu" c.negated, .category "Lt" c.negated]
  else []) ++ [c]

/-! ## Sets -/

/-- Add the class that is named between brackets and colons. -/
def Members.addAscii? (m : Members) (name : String) (negated : Bool) : Option Members :=
  if name = "digit" then some (m.addClasses [.category "Nd" negated])
  else (asciiClass? name).map fun ranges =>
    m.addRanges (if negated then outside 0 ranges else ranges)

/-- How a set is read: whether case is ignored, and whether the set is only
passed over, so that what is wrong with its members does not matter. -/
structure SetReading where
  ignoreCase : Bool
  skipping : Bool

namespace CharSet

def addRange (set : CharSet) (first last : Nat) : CharSet :=
  { set with members := set.members.addRange first last }

def without (set other : CharSet) : CharSet :=
  { set with taken := other.members :: other.taken }

end CharSet

/-- A class named between brackets and colons, behind its opening bracket if a
colon follows.  The name has to be known even if the closing is missing, in
which case its members count and its characters are read again: then the result
is false. -/
def asciiClass (how : SetReading) (set : CharSet) (cs : List Char) : Reading (CharSet × Bool) := do
  let (negated, cs) :=
    match cs with
    | '^' :: c :: rest => (true, c :: rest)
    | _ => (false, cs)
  let name := String.ofList (cs.takeWhile Text.isWord)
  let set ← if how.skipping then pure set else
    match set.members.addAscii? name negated with
    | none => throw .unknownAsciiClass
    | some members => pure { set with members := members }
  match cs.dropWhile Text.isWord with
  | ':' :: ']' :: rest =>
    goTo rest
    return (set, true)
  | _ => return (set, false)

mutual

/-- Read a set behind its opening bracket.  `fuel` bounds the number of steps. -/
def charSet (how : SetReading) : (fuel : Nat) → Reading CharSet
  | 0 => throw .unterminatedSet
  | fuel + 1 => do
    let negated ← accept '^'
    charSetRest how fuel true none { members := { negated := negated } }

/-- Read a set that is taken away, behind its opening bracket.  Nothing may
follow it, unless the set is only passed over, when nothing about it matters. -/
def takenSet (how : SetReading) : (fuel : Nat) → (set : CharSet) → Reading CharSet
  | 0, _ => throw .unterminatedSet
  | fuel + 1, set => do
    if how.skipping then
      let _ ← charSet how fuel <|> pure set
      charSetRest how fuel false none set
    else
      let taken ← charSet how fuel
      match ← rest with
      | c :: _ => if c ≠ ']' then throw .takenSetNotLast
      | [] => pure ()
      charSetRest how fuel false none (set.without taken)

/-- Add one character to a set, plain or escaped, and read on.  `pending` is the
beginning of a range whose end is still to come. -/
def charSetSingle (how : SetReading) :
    (fuel : Nat) → (isFirst : Bool) → (pending : Option Nat) → (set : CharSet) →
    (code : Nat) → (escaped : Bool) → Reading CharSet
  | 0, _, _, _, _, _ => throw .unterminatedSet
  | fuel + 1, isFirst, some first, set, code, escaped => do
    if how.skipping then charSetRest how fuel false none set
    else if code = '['.toNat && !escaped && !isFirst then
      takenSet how fuel (set.addRange first first)
    else if code < first then throw (.reversedRange first code)
    else charSetRest how fuel false none (set.addRange first code)
  | fuel + 1, isFirst, none, set, code, escaped => do
    match ← rest with
    | '-' :: c :: cs =>
      if c ≠ ']' then
        goTo (c :: cs)
        charSetRest how fuel false (some code) set
      else charSetRest how fuel false none (set.addRange code code)
    | '[' :: cs =>
      if code = '-'.toNat && !escaped && !isFirst then
        goTo cs
        takenSet how fuel set
      else charSetRest how fuel false none (set.addRange code code)
    | _ => charSetRest how fuel false none (set.addRange code code)

/-- Read the members of a set up to its closing bracket.  A closing bracket in
the first place is a member. -/
def charSetRest (how : SetReading) :
    (fuel : Nat) → (isFirst : Bool) → (pending : Option Nat) → (set : CharSet) → Reading CharSet
  | 0, _, _, _ => throw .unterminatedSet
  | fuel + 1, isFirst, pending, set => do
    match ← rest with
    | [] => throw .unterminatedSet
    | c :: cs =>
      goTo cs
      if c = ']' && !isFirst then return if how.ignoreCase then set.fold else set
      else
        match c, cs with
        | '\\', d :: more =>
          match escapedClass? d with
          | some ranges =>
            goTo more
            if pending.isSome && !how.skipping then throw (.classInRange d)
            else
              charSetRest how fuel false pending
                { set with members := set.members.addRanges ranges }
          | none =>
            if d = 'p' || d = 'P' then
              goTo more
              if how.skipping then
                let _ ← (namedClass false *> pure ()) <|> pure ()
                charSetRest how fuel false pending set
              else if pending.isSome then throw (.classInRange d)
              else
                let named ← namedClass (d = 'P')
                charSetRest how fuel false none { set with
                  members := set.members.addClasses (caseClasses how.ignoreCase named) }
            else if d = '-' then
              goTo more
              charSetRest how fuel false pending (set.addRange d.toNat d.toNat)
            else
              let code ← escape
              charSetSingle how fuel isFirst pending set code true
        | '[', ':' :: more =>
          if pending.isSome then charSetSingle how fuel isFirst pending set c.toNat false
          else
            let (set, closed) ← asciiClass how set more
            if closed then charSetRest how fuel false pending set
            else charSetSingle how fuel isFirst pending set c.toNat false
        | _, _ => charSetSingle how fuel isFirst pending set c.toNat false

end

end Pattern
end ParseForest
