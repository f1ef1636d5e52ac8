import ParseForest.Pattern.Groups
import ParseForest.Pattern.Lead

namespace ParseForest
namespace Pattern

/-!
# Programs

To be found in a text, a pattern becomes a program for a machine with stacks: a
row of numbers, each of which is an instruction or an argument of the
instruction before it.  Positions in the program are positions in that row.
The instructions are listed with what they do in the module on the machine.
-/

/-- How a single character is compared: with a code point, which it must be or
must not be, or with a set. -/
inductive Comparison where
  | is
  | isNot
  | among
  deriving DecidableEq

/-- What an instruction does. -/
inductive Op where
  /-- Take a character exactly so many times. -/
  | exactly (c : Comparison)
  /-- Take a character as often as possible, up to so many times. -/
  | most (c : Comparison)
  /-- Take a character as seldom as possible, up to so many times. -/
  | few (c : Comparison)
  /-- Take a character. -/
  | one (c : Comparison)
  /-- Take a text. -/
  | text
  /-- Take what a group has matched. -/
  | backref
  | anchor (a : Anchor)
  | fail
  /-- Go on, and try another place if that fails. -/
  | fork
  /-- Repeat unless the last round took nothing. -/
  | again
  /-- Go on, and repeat if that fails. -/
  | againLazily
  /-- Put down a count without a mark. -/
  | countNowhere
  /-- Put down a count with a mark. -/
  | countHere
  /-- Repeat up to so many times unless the last round took nothing. -/
  | countAgain
  /-- Go on, and repeat up to so many times if that fails. -/
  | countAgainLazily
  /-- Put down a mark that is at no position. -/
  | markNowhere
  /-- Put down a mark. -/
  | markHere
  /-- Pick up a mark and remember the match from there on. -/
  | capture
  /-- Pick up a mark and go back to it. -/
  | returnToMark
  /-- Put down what is needed to forget other ways. -/
  | protect
  /-- Forget other ways and fail. -/
  | giveUp
  /-- Forget other ways and go on. -/
  | commit
  /-- Go on only if a group has a match. -/
  | ifGroup
  | jump
  | stop
  deriving DecidableEq

namespace Op

/-- The instructions by their numbers; one number is not in use. -/
def table : Array (Option Op) :=
  #[some (.exactly .is), some (.exactly .isNot), some (.exactly .among),
    some (.most .is), some (.most .isNot), some (.most .among),
    some (.few .is), some (.few .isNot), some (.few .among),
    some (.one .is), some (.one .isNot), some (.one .among),
    some .text, some .backref,
    some (.anchor .lineStart), some (.anchor .lineEnd),
    some (.anchor .boundary), some (.anchor .noBoundary),
    some (.anchor .textStart), some (.anchor .searchStart),
    some (.anchor .lastLine), some (.anchor .textEnd),
    some .fail, some .fork, some .again, some .againLazily,
    some .countNowhere, some .countHere, some .countAgain, some .countAgainLazily,
    some .markNowhere, some .markHere, some .capture, some .returnToMark,
    some .protect, some .giveUp, some .commit, some .ifGroup, some .jump, none, some .stop]

def number (op : Op) : Nat :=
  table.toList.findIdx (· = some op)

/-- Whether an instruction leaves something behind for the case that what
follows fails, or can need room for it. -/
def leavesChoice : Op → Bool
  | .most _ => true
  | .few _ => true
  | .fork => true
  | .again => true
  | .againLazily => true
  | .countNowhere => true
  | .countHere => true
  | .countAgain => true
  | .countAgainLazily => true
  | .markHere => true
  | .capture => true
  | .returnToMark => true
  | .protect => true
  | .giveUp => true
  | .commit => true
  | .jump => true
  | _ => false

end Op

/-! ## Instructions as numbers -/

/-- An instruction with its arguments. -/
structure Instruction where
  op : Op
  arguments : List Int := []
  mode : Mode := {}

namespace Instruction

/-- The number of an instruction that takes characters also says how it does. -/
def number (i : Instruction) : Nat :=
  i.op.number + (if i.mode.backwards then 64 else 0) + (if i.mode.ignoreCase then 512 else 0)

def numbers (i : Instruction) : List Int :=
  Int.ofNat i.number :: i.arguments

/-- The instruction with a number, if it is the number of one. -/
def ofNumber? (n : Int) : Option (Op × Mode) :=
  if n < 0 then none
  else
    let ignoreCase := 512 ≤ n.toNat
    let rest := if ignoreCase then n.toNat - 512 else n.toNat
    let backwards := 64 ≤ rest
    let rest := if backwards then rest - 64 else rest
    match Op.table[rest]? with
    | some (some op) => some (op, ⟨ignoreCase, backwards⟩)
    | _ => none

end Instruction

def width (code : List Instruction) : Nat :=
  code.foldl (fun n i => n + 1 + i.arguments.length) 0

/-! ## Texts and sets -/

/-- A code point as far as programs tell them apart: those that are no
characters count as one. -/
def told (code : Nat) : Nat :=
  if 0xD800 ≤ code && code ≤ 0xDFFF then 0xFFFD else code

/-- A set as far as programs tell them apart. -/
def CharSet.told (set : CharSet) : CharSet :=
  let members (m : Members) : Members :=
    { m with ranges := m.ranges.map fun range => (Pattern.told range.1, Pattern.told range.2)
             all := false }
  ⟨members set.members, set.taken.map members⟩

/-- The texts and sets that a program compares with, each of them once. -/
structure Store where
  texts : List (List Nat) := []
  sets : List CharSet := []

namespace Store

def textIndex (s : Store) (codes : List Nat) : Nat :=
  s.texts.findIdx fun known => known.map told = codes.map told

def setIndex (s : Store) (set : CharSet) : Nat :=
  s.sets.findIdx fun known => known.told = set.told

def addText (s : Store) (codes : List Nat) : Store :=
  if s.textIndex codes < s.texts.length then s else { s with texts := s.texts ++ [codes] }

/-- Add the set of a comparison unless it is there. -/
def addSingle (s : Store) : Single → Store
  | .among set =>
    if s.setIndex set < s.sets.length then s else { s with sets := s.sets ++ [set] }
  | _ => s

mutual

def addPattern (s : Store) : Pattern → Store
  | .single _ what => s.addSingle what
  | .text _ codes => s.addText codes
  | .singles _ what _ _ _ => s.addSingle what
  | .loop _ _ _ body => s.addPattern body
  | .seq _ parts => s.addPatterns parts
  | .alt choices => s.addPatterns choices
  | .group _ _ body => s.addPattern body
  | .look _ body => s.addPattern body
  | .atomic body => s.addPattern body
  | .ifGroup _ branches => s.addPatterns branches
  | .ifLook condition branches => (s.addPattern condition).addPatterns branches
  | _ => s

def addPatterns (s : Store) : List Pattern → Store
  | [] => s
  | p :: ps => (s.addPattern p).addPatterns ps

end

end Store

/-! ## The instructions of a pattern -/

/-- What the instructions of a pattern refer to. -/
structure Context where
  groups : Groups
  store : Store

namespace Context

/-- How a comparison is made, and with what. -/
def comparison (x : Context) : Single → Comparison × Int
  | .is code => (.is, Int.ofNat code)
  | .isNot code => (.isNot, Int.ofNat code)
  | .among set => (.among, Int.ofNat (x.store.setIndex set))

def groupArgument (x : Context) : Option Nat → Int
  | none => -1
  | some slot => Int.ofNat (x.groups.index slot)

/-- The instructions for a single character several times. -/
def singles (x : Context) (mode : Mode) (what : Single) (isLazy : Bool) (least most : Nat) :
    List Instruction :=
  let (c, argument) := x.comparison what
  (if 0 < least then [⟨.exactly c, [argument, Int.ofNat least], mode⟩] else [])
    ++ (if least < most then
      [⟨if isLazy then .few c else .most c,
        [argument, Int.ofNat (if most = unlimited then unlimited else most - least)], mode⟩]
    else [])

/-- The instructions around the body of a loop, which is entered at its end if
it may be left out.  `start` is where they begin and `inner` makes those of the
body. -/
def loop (isLazy : Bool) (least most : Nat) (start : Nat) (inner : Nat → List Instruction) :
    List Instruction :=
  let counted := most < unlimited || 1 < least
  let before : Instruction :=
    if counted then
      if least = 0 then ⟨.countNowhere, [0], {}⟩ else ⟨.countHere, [1 - Int.ofNat least], {}⟩
    else if least = 0 then ⟨.markNowhere, [], {}⟩ else ⟨.markHere, [], {}⟩
  let first := start + width [before] + (if least = 0 then 2 else 0)
  let body := inner first
  let after : Instruction :=
    if counted then
      ⟨if isLazy then .countAgainLazily else .countAgain,
        [Int.ofNat first, Int.ofNat (if most = unlimited then unlimited else most - least)], {}⟩
    else ⟨if isLazy then .againLazily else .again, [Int.ofNat first], {}⟩
  [before] ++ (if least = 0 then [⟨.jump, [Int.ofNat (first + width body)], {}⟩] else [])
    ++ body ++ [after]

mutual

def code (x : Context) (start : Nat) : Pattern → List Instruction
  | .empty => []
  | .nothing => [⟨.fail, [], {}⟩]
  | .single mode what =>
    let (c, argument) := x.comparison what
    [⟨.one c, [argument], mode⟩]
  | .text mode codes => [⟨.text, [Int.ofNat (x.store.textIndex codes)], mode⟩]
  | .singles mode what isLazy least most => x.singles mode what isLazy least most
  | .loop isLazy least most body => loop isLazy least most start fun first => x.code first body
  | .seq _ parts => x.codeAll start parts
  | .alt choices => x.codeChoices start choices
  | .anchor a => [⟨.anchor a, [], {}⟩]
  | .group slot balanced body =>
    [⟨.markHere, [], {}⟩] ++ x.code (start + 1) body
      ++ [⟨.capture, [x.groupArgument slot, x.groupArgument balanced], {}⟩]
  | .backref mode slot => [⟨.backref, [x.groupArgument (some slot)], mode⟩]
  | .look false body =>
    [⟨.protect, [], {}⟩, ⟨.markHere, [], {}⟩] ++ x.code (start + 2) body
      ++ [⟨.returnToMark, [], {}⟩, ⟨.commit, [], {}⟩]
  | .look true body =>
    let inner := x.code (start + 3) body
    [⟨.protect, [], {}⟩, ⟨.fork, [Int.ofNat (start + 4 + width inner)], {}⟩] ++ inner
      ++ [⟨.giveUp, [], {}⟩, ⟨.commit, [], {}⟩]
  | .atomic body =>
    [⟨.protect, [], {}⟩] ++ x.code (start + 1) body ++ [⟨.commit, [], {}⟩]
  | .ifGroup slot branches =>
    let test := [⟨.ifGroup, [x.groupArgument (some slot)], {}⟩, ⟨.commit, [], {}⟩]
    x.codeBranches (start + 1) test [⟨.commit, [], {}⟩] [⟨.protect, [], {}⟩] branches
  | .ifLook condition branches =>
    let test := x.code (start + 4) condition ++ [⟨.returnToMark, [], {}⟩, ⟨.commit, [], {}⟩]
    x.codeBranches (start + 2) test [⟨.returnToMark, [], {}⟩, ⟨.commit, [], {}⟩]
      [⟨.protect, [], {}⟩, ⟨.markHere, [], {}⟩] branches

def codeAll (x : Context) (start : Nat) : List Pattern → List Instruction
  | [] => []
  | p :: ps =>
    let first := x.code start p
    first ++ x.codeAll (start + width first) ps

/-- The instructions of alternatives: each but the last is tried with a fork to
the next, and jumps to the end. -/
def codeChoices (x : Context) (start : Nat) : List Pattern → List Instruction
  | [] => []
  | [p] => x.code start p
  | p :: ps =>
    let first := x.code (start + 2) p
    let next := start + 2 + width first + 2
    let others := x.codeChoices next ps
    [⟨.fork, [Int.ofNat next], {}⟩] ++ first
      ++ [⟨.jump, [Int.ofNat (next + width others)], {}⟩] ++ others

/-- The instructions of a choice between branches.  Those `before` come first,
and at `start` a fork to the instructions `otherwise`, which the second branch
follows; those of the `test` are followed by the first branch. -/
def codeBranches (x : Context) (start : Nat) (test otherwise before : List Instruction) :
    List Pattern → List Instruction
  | [] => []
  | p :: ps =>
    let first := x.code (start + 2 + width test) p
    let second := start + 2 + width test + width first + 2
    let others := x.codeAll (second + width otherwise) ps
    before ++ [⟨.fork, [Int.ofNat second], {}⟩] ++ test ++ first
      ++ [⟨.jump, [Int.ofNat (second + width otherwise + width others)], {}⟩]
      ++ otherwise ++ others

end

end Context

/-! ## Whole programs -/

/-- What a program has at a position. -/
structure Cell where
  number : Int
  /-- The number as an instruction. -/
  instruction? : Option (Op × Mode)

/-- A program, with what is known about where matches can begin. -/
structure Program where
  cells : Array Cell
  texts : Array (Array Nat)
  sets : Array CharSet
  /-- How many groups there are. -/
  groups : Nat
  /-- How many instructions leave choices, by which the stacks are measured. -/
  choices : Nat
  lead : Lead

namespace Program

/-- The program of a pattern: if the pattern fails, the program stops all the
same. -/
def ofPattern (p : Pattern) (groups : Groups) : Program :=
  let store := Store.addPattern {} p
  let body := Context.code ⟨groups, store⟩ 2 p
  let code := [⟨.fork, [Int.ofNat (2 + width body)], {}⟩] ++ body ++ [⟨.stop, [], {}⟩]
  { cells := ((code.flatMap Instruction.numbers).map fun n =>
      ⟨n, Instruction.ofNumber? n⟩).toArray
    texts := (store.texts.map List.toArray).toArray
    sets := store.sets.toArray
    groups := groups.size
    choices := (code.filter (·.op.leavesChoice)).length
    lead := .ofPattern p }

end Program
end Pattern
end ParseForest
