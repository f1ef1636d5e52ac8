import ParseForest.Pattern.Counting
import ParseForest.Pattern.Simplify

namespace ParseForest
namespace Pattern

/-!
# The notation of patterns

A pattern is read from left to right, and the first thing that is wrong is
reported.  A sequence of parts ends at a bar, at a closing parenthesis or at the
end of the pattern; a parenthesis encloses sequences with bars between them.
-/

open Reading (rest goTo accept options)

/-! ## Opening parentheses -/

/-- What an opening parenthesis begins. -/
inductive Opening where
  /-- Nothing, but options for the rest of the enclosing group. -/
  | switch
  /-- A group that remembers nothing. -/
  | plain
  | remembering (slot balanced : Option Nat)
  | look (negative : Bool)
  | atomic
  /-- A choice that depends on whether a group has a match. -/
  | ifGroup (slot : Nat)
  /-- A choice that depends on a condition, which comes next. -/
  | ifLook

/-- What stands behind an opening parenthesis, from `start` on, is no way to
begin a group. -/
def unknownOpening (start : List Char) : Reading Opening := do
  throw (.unknownGrouping (start.take (start.length - (← rest).length)))

/-- Whether the next character is neither the given closing nor a hyphen, if the
latter is allowed here. -/
def isUnclosed (closing : Char) (hyphen : Bool) : Reading Bool := do
  match ← rest with
  | [] => return false
  | c :: _ => return !(c = closing || (hyphen && c = '-'))

/-- The group that is balanced, behind a hyphen. -/
def balancedSlot (groups : Groups) (closing : Char) : Reading Nat := do
  match ← rest with
  | [] => throw .badGroupName
  | c :: _ =>
    if c.isDigit then
      let slot ← number
      if !groups.hasSlot slot then throw (.undefinedNumber slot)
      if ← isUnclosed closing false then throw .badGroupName
      return slot
    else if Text.isWord c then
      let name ← name
      match groups.slot? name with
      | none => throw (.undefinedName name)
      | some slot =>
        if ← isUnclosed closing false then throw .badGroupName
        return slot
    else throw .badGroupName

/-- The name or number of a group that remembers, none if there is no such
group.  A hyphen may take its place. -/
def groupSlot? (groups : Groups) (closing : Char) : Reading (Option Nat) := do
  match ← rest with
  | [] => throw .badGroupName
  | c :: _ =>
    if c.isDigit then
      let slot ← number
      let slot := if groups.hasSlot slot then some slot else none
      if ← isUnclosed closing true then throw .badGroupName
      if slot = some 0 then throw .groupZero
      return slot
    else if Text.isWord c then
      let name ← name
      if ← isUnclosed closing true then throw .badGroupName
      return groups.slot? name
    else if c = '-' then return none
    else throw .badGroupName

/-- Read the name or number of a group that remembers, and perhaps that of the
one it balances, up to the closing. -/
def namedOpening (groups : Groups) (start : List Char) (closing : Char) : Reading Opening := do
  let isBare := (← rest).head? = some '-'
  let slot ← groupSlot? groups closing
  let balanced ←
    if slot.isSome || isBare then
      if ← accept '-' then some <$> balancedSlot groups closing else pure none
    else pure none
  match ← rest with
  | c :: cs =>
    if slot.isSome || balanced.isSome then
      goTo cs
      if c = closing then return .remembering slot balanced else unknownOpening start
    else unknownOpening start
  | [] => unknownOpening start

/-- Read behind an angle bracket or a quote, which `opened` is. -/
def angledOpening (groups : Groups) (start : List Char) (opened : Char) : Reading Opening := do
  match ← rest with
  | [] => unknownOpening start
  | c :: cs =>
    if c = '=' || c = '!' then
      goTo cs
      if opened = '\'' then unknownOpening start
      else
        modify fun s => { s with options := { s.options with backwards := true } }
        return .look (c = '!')
    else namedOpening groups start (closingOf opened)

/-- Check that a condition, whose opening parenthesis comes next, is neither a
comment nor a named group. -/
def checkCondition : Reading Unit := do
  match ← rest with
  | '(' :: '?' :: '#' :: _ => throw .conditionIsComment
  | '(' :: '?' :: '\'' :: _ => throw .conditionIsNamed
  | '(' :: '?' :: '<' :: c :: _ => if c ≠ '!' && c ≠ '=' then throw .conditionIsNamed
  | _ => return ()

/-- Read a condition behind its opening parenthesis: the number or name of a
group, or anything else that could stand in a group, which is left to be read. -/
def conditionOpening (groups : Groups) : Reading Opening := do
  let cs ← rest
  let anything : Reading Opening := do
    goTo ('(' :: cs)
    modify ({ · with inCondition := true })
    checkCondition
    return .ifLook
  match cs with
  | [] => anything
  | c :: _ =>
    if c.isDigit then
      let slot ← number
      if ← accept ')' then
        if groups.hasSlot slot then return .ifGroup slot else throw (.undefinedCondition slot)
      else throw (.malformedCondition slot)
    else if Text.isWord c then
      match groups.slot? (← name) with
      | some slot => if ← accept ')' then return .ifGroup slot else anything
      | none => anything
    else anything

/-- Read a name behind the letter P. -/
def letterOpening (groups : Groups) (start : List Char) : Reading Opening := do
  match ← rest with
  | '<' :: c :: d :: cs =>
    goTo (c :: d :: cs)
    if Text.isWord c then
      let name ← name
      if ← isUnclosed '>' false then throw .badGroupName
      match groups.slot? name with
      | some slot => if ← accept '>' then return .remembering (some slot) none
                     else unknownOpening start
      | none => unknownOpening start
    else throw .badGroupName
  | _ :: c :: d :: cs =>
    goTo (c :: d :: cs)
    unknownOpening start
  | _ => unknownOpening start

/-- Read behind an opening parenthesis and a question mark.  No options can be
switched directly `inChoice`. -/
def specialOpening (groups : Groups) (inChoice : Bool) (start : List Char) : Reading Opening := do
  match ← rest with
  | [] => unknownOpening start
  | c :: cs =>
    goTo cs
    let turned (backwards : Bool) : Reading Unit :=
      modify fun s => { s with options := { s.options with backwards := backwards } }
    match c with
    | ':' => return .plain
    | '=' =>
      turned false
      return .look false
    | '!' =>
      turned false
      return .look true
    | '>' => return .atomic
    | '<' => angledOpening groups start '<'
    | '\'' => angledOpening groups start '\''
    | '(' => conditionOpening groups
    | 'P' => letterOpening groups start
    | _ =>
      goTo (c :: cs)
      if !inChoice then switchOptions true (c :: cs)
      match ← rest with
      | [] => unknownOpening start
      | d :: more =>
        goTo more
        if d = ')' then return .switch
        else if d = ':' then return .plain
        else unknownOpening start

def opening (groups : Groups) (inChoice : Bool) : Reading Opening := do
  let cs ← rest
  if cs.head? = some '?' && cs[1]? ≠ some ')' then
    goTo (cs.drop 1)
    specialOpening groups inChoice cs
  else
    let s ← get
    if s.options.explicitOnly || s.inCondition then
      set { s with inCondition := false }
      return .plain
    else
      set { s with next := s.next + 1 }
      return .remembering (some s.next) none

/-! ## Repetitions -/

/-- Something that can be repeated. -/
structure Piece where
  pattern : Pattern
  /-- Whether it stands in a group that remembers nothing. -/
  grouped : Bool := false
  /-- Whether it is a character that stands for itself. -/
  literal : Bool := false

/-- The bounds of the repetition operator that comes next. -/
def bounds : Reading (Nat × Nat) := do
  match ← rest with
  | '*' :: cs =>
    goTo cs
    return (0, unlimited)
  | '+' :: cs =>
    goTo cs
    return (1, unlimited)
  | '?' :: cs =>
    goTo cs
    return (0, 1)
  | cs =>
    goTo (cs.drop 1)
    let least ← number
    let most ←
      if ← accept ',' then
        if (← rest).head? = some '\x7d' then pure unlimited else number
      else pure least
    goTo ((← rest).drop 1)
    return (least, most)

/-- Read the repetition operator that comes next, if there is one, and apply it.
Also tell whether there was one. -/
def repetition (piece : Piece) : Reading (Pattern × Bool) := do
  if piece.literal then skipBlanksGently else skipBlanks
  if startsRepetition (← rest) then
    let (least, most) ← bounds
    skipBlanks
    let isLazy ← accept '?'
    if most < least then throw .badRepeatCount
    return (times isLazy least most piece.grouped piece.pattern, true)
  else return (times false 1 1 piece.grouped piece.pattern, false)

/-! ## Parts -/

def dot (o : Options) : Pattern :=
  .single o.mode (if o.dotAll then .among .everything else .isNot '\n'.toNat)

/-- What a group becomes once its branches have been read. -/
def Opening.close (branches : List Pattern) : Opening → Reading Piece
  | .remembering slot balanced => return { pattern := .group slot balanced (oneOf branches) }
  | .look negative => return { pattern := .look negative (oneOf branches) }
  | .atomic => return { pattern := .atomic (oneOf branches) }
  | .ifGroup slot =>
    if 2 < branches.length then throw .tooManyBranches
    else return { pattern := .ifGroup slot branches }
  | _ => return { pattern := oneOf branches, grouped := true }

mutual

/-- Read sequences with bars between them, up to a closing parenthesis or the
end. -/
def branches (groups : Groups) (inChoice : Bool) : (fuel : Nat) → Reading (List Pattern)
  | 0 => throw .missingParen
  | fuel + 1 => do
    let first ← sequence groups inChoice fuel false []
    if ← accept '|' then return first :: (← branches groups inChoice fuel) else return [first]

/-- Read a sequence behind parts that have been read already, the last one
first.  `wasRepeated` says whether the last one ends in a repetition. -/
def sequence (groups : Groups) (inChoice : Bool) :
    (fuel : Nat) → (wasRepeated : Bool) → (parts : List Pattern) → Reading Pattern
  | 0, _, _ => throw .missingParen
  | fuel + 1, wasRepeated, parts => do
    skipBlanks
    let cs ← rest
    if startsRepetition cs then
      throw (if wasRepeated then .nestedRepetition else .nothingToRepeat)
    match cs with
    | [] => return inSequence (← options).backwards parts.reverse
    | '|' :: _ => return inSequence (← options).backwards parts.reverse
    | ')' :: _ => return inSequence (← options).backwards parts.reverse
    | c :: more =>
      goTo more
      match ← piece? groups inChoice fuel c with
      | none => sequence groups inChoice fuel false parts
      | some piece =>
        let (part, wasRepeated) ← repetition piece
        sequence groups inChoice fuel wasRepeated (part :: parts)

/-- Read what the character `c` begins, which is nothing if it only switches
options. -/
def piece? (groups : Groups) (inChoice : Bool) :
    (fuel : Nat) → (c : Char) → Reading (Option Piece)
  | 0, _ => throw .missingParen
  | fuel + 1, c => do
    let o ← options
    match c with
    | '[' =>
      let set ← charSet ⟨o.ignoreCase, false⟩ (4 * (← rest).length + 4)
      return some { pattern := .single o.mode (.among set) }
    | '\\' => return some { pattern := ← backslash groups false }
    | '^' => return some { pattern := .anchor (if o.multiline then .lineStart else .textStart) }
    | '$' => return some { pattern := .anchor (if o.multiline then .lineEnd else .lastLine) }
    | '.' => return some { pattern := dot o }
    | '(' =>
      match ← opening groups inChoice with
      | .switch => return none
      | begun => return some (← enclosed groups fuel o begun)
    | _ => return some { pattern := .single o.mode (.is (o.fold c.toNat)), literal := true }

/-- Read the inside of a group and its closing parenthesis.  Behind it the
options `outer` are in force again. -/
def enclosed (groups : Groups) : (fuel : Nat) → (outer : Options) → Opening → Reading Piece
  | 0, _, _ => throw .missingParen
  | fuel + 1, outer, begun => do
    let close (make : Reading Piece) : Reading Piece := do
      match ← rest with
      | ')' :: more =>
        let piece ← make
        goTo more
        modify ({ · with options := outer })
        return piece
      | _ => throw .missingParen
    match begun with
    | .ifLook =>
      let inner ← options
      goTo ((← rest).drop 1)
      let condition ← enclosed groups fuel inner (← opening groups true)
      let branches ← branches groups true fuel
      close do
        if 2 < branches.length then throw .tooManyBranches
        else return { pattern := .ifLook condition.pattern branches }
    | _ =>
      let branches ← branches groups false fuel
      close (begun.close branches)

end

/-- The pattern that a text denotes, with its groups.  The whole pattern is
group 0. -/
def read (cs : List Char) : Except ReadError (Pattern × Groups) := do
  let groups ← Groups.ofPattern cs
  match (branches groups false (4 * cs.length + 8)).run { rest := cs } with
  | .error e _ => throw e
  | .ok branches s =>
    if s.rest.isEmpty then return (.group (some 0) none (oneOf branches), groups)
    else throw .unexpectedParen

end Pattern
end ParseForest
