import ParseForest.Pattern.Program
import ParseForest.Pattern.Stack

namespace ParseForest
namespace Pattern

/-!
# The machine that runs programs

The machine goes through a program and through a text.  It has two stacks.  On
one it puts marks: positions and counts that a later instruction picks up.  On
the other it keeps a track of what it has done, as records that an instruction
leaves behind.  When an instruction fails, the machine takes the latest record
from the track and goes back to the instruction that left it, which undoes what
it did or tries another way.  An instruction can leave two kinds of records and
is gone back to accordingly.  A third stack has the groups in the order of their
matches, so that matches can be taken back.

The meaning of a pattern is what its program does, also where marks are left
lying: a lazy loop whose round took nothing leaves one too many, and then a
later instruction picks up a mark that was not meant for it.
-/

inductive Phase where
  /-- By going on. -/
  | forward
  /-- Back to the first kind of record. -/
  | back
  /-- Back to the second kind of record. -/
  | backAgain
  deriving DecidableEq

namespace Machine

/-- The state of the machine. -/
structure State where
  /-- The position in the text. -/
  pos : Int
  /-- The position in the program. -/
  place : Int := 0
  phase : Phase := .forward
  track : Stack
  marks : Stack
  crawl : Stack
  groups : Array Captures

/-- What the machine works on: a program, a text, and where the search began. -/
structure Task where
  program : Program
  text : Array Nat
  start : Int

namespace Task

/-! ## The program -/

/-- What the program has at a position. -/
@[inline]
def cellAt (t : Task) (place : Int) : Except Halt Cell :=
  if place < 0 then .error (.fault (.outOfRange place t.program.cells.size))
  else
    match t.program.cells[place.toNat]? with
    | some cell => .ok cell
    | none => .error (.fault (.outOfRange place t.program.cells.size))

@[inline]
def argument (t : Task) (s : State) (index : Int) : Except Halt Int :=
  (t.cellAt (s.place + 1 + index)).map Cell.number

/-- Make room on the stacks, as is done on every way back. -/
@[inline]
def reserve (t : Task) (s : State) : State :=
  let needed := 4 * Int.ofNat t.program.choices
  { s with marks := s.marks.reserve needed, track := s.track.reserve needed }

def goTo (t : Task) (s : State) (place : Int) : State :=
  let s := if place < s.place then t.reserve s else s
  { s with place := place, phase := .forward }

/-- Go on behind an instruction with so many arguments. -/
@[inline]
def advance (s : State) (arguments : Int) : State :=
  { s with place := s.place + 1 + arguments, phase := .forward }

/-- Go back to the instruction that left the latest record. -/
def backtrack (t : Task) (s : State) : Except Halt State := do
  let (n, track) ← s.track.pop
  let s := { s with track := track }
  if n < 0 then
    let s := if -n < s.place then t.reserve s else s
    return { s with place := -n, phase := .backAgain }
  else
    let s := if n < s.place then t.reserve s else s
    return { s with place := n, phase := .back }

/-- Put a number on the track. -/
@[inline]
def note (s : State) (n : Int) : Except Halt State := do
  let track ← s.track.push n
  return { s with track := track }

/-- Finish a record of the first kind. -/
@[inline]
def record (s : State) : Except Halt State :=
  note s s.place

/-- Finish a record of the second kind. -/
@[inline]
def recordAgain (s : State) : Except Halt State :=
  note s (-s.place)

/-- Put down a mark. -/
@[inline]
def mark (s : State) (n : Int) : Except Halt State := do
  let marks ← s.marks.push n
  return { s with marks := marks }

@[inline]
def unwind (s : State) (count : Int) : State :=
  { s with track := s.track.drop count }

@[inline]
def unmark (s : State) (count : Int) : State :=
  { s with marks := s.marks.drop count }

/-! ## The text -/

@[inline]
def codeAt (t : Task) (pos : Int) : Except Halt Nat :=
  if pos < 0 then .error (.fault (.outOfRange pos t.text.size))
  else
    match t.text[pos.toNat]? with
    | some code => .ok code
    | none => .error (.fault (.outOfRange pos t.text.size))

@[inline]
def compared (mode : Mode) (code : Nat) : Nat :=
  if mode.ignoreCase then Text.LowerCase.ofCode code else code

/-- How many code points can be taken from a position. -/
@[inline]
def left (t : Task) (mode : Mode) (pos : Int) : Int :=
  if mode.backwards then pos else Int.ofNat t.text.size - pos

/-- Where a position is after a code point has been taken. -/
@[inline]
def moved (mode : Mode) (pos : Int) : Int :=
  if mode.backwards then pos - 1 else pos + 1

/-- Where a position was before a code point was taken. -/
@[inline]
def movedBack (mode : Mode) (pos : Int) : Int :=
  if mode.backwards then pos + 1 else pos - 1

@[inline]
def take (t : Task) (mode : Mode) (pos : Int) : Except Halt Nat :=
  (t.codeAt (if mode.backwards then pos - 1 else pos)).map (compared mode)

/-- Whether a comparison with an argument holds for a code point. -/
@[inline]
def holds (t : Task) (c : Comparison) (argument : Int) (code : Nat) : Except Halt Bool :=
  match c with
  | .is => .ok (Int.ofNat code = argument)
  | .isNot => .ok (Int.ofNat code ≠ argument)
  | .among =>
    if argument < 0 then .error (.fault (.outOfRange argument t.program.sets.size))
    else
      match t.program.sets[argument.toNat]? with
      | some set => .ok (set.holds code)
      | none => .error (.fault (.outOfRange argument t.program.sets.size))

/-- How many code points in a row fit, at most `limit`, besides those counted
already. -/
def run (t : Task) (c : Comparison) (argument : Int) (mode : Mode) :
    (limit : Nat) → (pos : Int) → (count : Nat) → Except Halt Nat
  | 0, _, count => .ok count
  | limit + 1, pos, count =>
    match t.take mode pos with
    | .error h => .error h
    | .ok code =>
      match t.holds c argument code with
      | .error h => .error h
      | .ok false => .ok count
      | .ok true => t.run c argument mode limit (moved mode pos) (count + 1)

/-- A position so many code points further on. -/
@[inline]
def movedBy (mode : Mode) (pos count : Int) : Int :=
  if mode.backwards then pos - count else pos + count

/-- Whether the text up to a position ends in the given code points, of which
the last comes first.  Nothing is read if they do not fit in. -/
def endsIn (t : Task) (mode : Mode) (stop : Int) : List Nat → Except Halt Bool
  | [] => .ok true
  | code :: codes =>
    match t.codeAt (stop - 1) with
    | .error h => .error h
    | .ok found =>
      if compared mode found = code then t.endsIn mode (stop - 1) codes else .ok false

/-- Whether `count` code points up to one position are those up to another. -/
def repeats (t : Task) (mode : Mode) : (count : Nat) → (stop other : Int) → Except Halt Bool
  | 0, _, _ => .ok true
  | count + 1, stop, other =>
    match t.codeAt (other - 1) with
    | .error h => .error h
    | .ok a =>
      match t.codeAt (stop - 1) with
      | .error h => .error h
      | .ok b =>
        if compared mode a = compared mode b then t.repeats mode count (stop - 1) (other - 1)
        else .ok false

def isWordAt (t : Task) (pos : Int) : Except Halt Bool :=
  (t.codeAt pos).map fun code => Text.isWord (Char.ofNat code)

def isBoundary (t : Task) (pos : Int) : Except Halt Bool := do
  let before ← if 0 < pos then t.isWordAt (pos - 1) else .ok false
  let after ← if pos < Int.ofNat t.text.size then t.isWordAt pos else .ok false
  return before != after

def isLineFeed (t : Task) (pos : Int) : Except Halt Bool :=
  (t.codeAt pos).map (· = '\n'.toNat)

/-- Whether a position meets a condition. -/
def meets (t : Task) (pos : Int) : Anchor → Except Halt Bool
  | .lineStart => if 0 < pos then t.isLineFeed (pos - 1) else .ok true
  | .lineEnd => if pos < Int.ofNat t.text.size then t.isLineFeed pos else .ok true
  | .boundary => t.isBoundary pos
  | .noBoundary => (t.isBoundary pos).map (!·)
  | .textStart => .ok (pos ≤ 0)
  | .searchStart => .ok (pos = t.start)
  | .lastLine => .ok (Int.ofNat t.text.size ≤ pos)
  | .textEnd => .ok (Int.ofNat t.text.size ≤ pos)

/-! ## Groups -/

def captures (s : State) (group : Int) : Except Halt Captures :=
  if group < 0 then .error (.fault (.outOfRange group s.groups.size))
  else
    match s.groups[group.toNat]? with
    | some c => .ok c
    | none => .error (.fault (.outOfRange group s.groups.size))

def isMatched (s : State) (group : Int) : Except Halt Bool :=
  if Int.ofNat s.groups.size ≤ group then .ok false else (captures s group).map Captures.isMatched

/-- Put a group on the stack of groups, and change its matches. -/
def noteGroup (s : State) (group : Int) (change : Captures → Except Halt Captures) :
    Except Halt State := do
  let crawl ← (s.crawl.reserve 1).push group
  let c ← captures s group
  let c ← change c
  return { s with crawl := crawl, groups := s.groups.setIfInBounds group.toNat c }

def remember (s : State) (group first last : Int) : Except Halt State :=
  let start := min first last
  let stop := max first last
  noteGroup s group fun c => .ok (c.add start (stop - start))

/-- Balance away the latest match of one group and remember as the match of
another, if there is one, what lies between that match and two positions. -/
def transfer (s : State) (group balanced first last : Int) : Except Halt State := do
  let start := min first last
  let stop := max first last
  let c ← captures s balanced
  let start' ← c.start
  let stop' := start' + (← c.length)
  let (start, stop) :=
    if stop' ≤ start then (stop', start)
    else if stop ≤ start' then (start', stop)
    else (max start start', min stop stop')
  let s ← noteGroup s balanced Captures.balance
  if group = -1 then return s
  else noteGroup s group fun c => .ok (c.add start (stop - start))

/-- Take back the latest match of all groups. -/
def forget (s : State) : Except Halt State := do
  let (latest, crawl) ← s.crawl.pop
  let c ← captures s latest
  return { s with crawl := crawl, groups := s.groups.setIfInBounds latest.toNat c.remove }

theorem depth_lt_of_forget {s s' : State} (forgot : forget s = .ok s') :
    s'.crawl.depth.toNat < s.crawl.depth.toNat := by
  unfold forget at forgot
  cases popped : s.crawl.pop with
  | error h =>
    rw [popped] at forgot
    cases forgot
  | ok found =>
    rcases found with ⟨latest, crawl⟩
    simp only [popped, bind, Except.bind] at forgot
    split at forgot
    · cases forgot
    · cases forgot
      exact Stack.depth_lt_of_pop popped

/-- Take back matches until so many are left.  A stack that is empty before that
is a fault. -/
def forgetDownTo (s : State) (depth : Int) : Except Halt State :=
  if s.crawl.depth = depth then .ok s
  else
    match _forgot : forget s with
    | .error h => .error h
    | .ok s' => forgetDownTo s' depth
termination_by s.crawl.depth.toNat
decreasing_by exact depth_lt_of_forget _forgot

/-! ## Instructions -/

/-- Go on behind an instruction with so many arguments if something holds, and
fail otherwise. -/
@[inline]
def proceed (t : Task) (s : State) (arguments : Int) (holds : Bool) : Except Halt State :=
  if holds then .ok (advance s arguments) else t.backtrack s

/-- Take a text. -/
def takeText (t : Task) (mode : Mode) (s : State) : Except Halt State := do
  let index ← t.argument s 0
  match if index < 0 then none else t.program.texts[index.toNat]? with
  | none => throw (.fault (.outOfRange index t.program.texts.size))
  | some codes =>
    let count := Int.ofNat codes.size
    if t.left mode s.pos < count then t.backtrack s
    else
      let stop := if mode.backwards then s.pos else s.pos + count
      if ← t.endsIn mode stop codes.toList.reverse then
        return advance { s with pos := movedBy mode s.pos count } 1
      else t.backtrack s

/-- Take what a group has matched. -/
def takeGroup (t : Task) (mode : Mode) (s : State) : Except Halt State := do
  let group ← t.argument s 0
  if ← isMatched s group then
    let c ← captures s group
    let start ← c.start
    let count ← c.length
    if t.left mode s.pos < count then t.backtrack s
    else
      let stop := if mode.backwards then s.pos else s.pos + count
      if ← t.repeats mode count.toNat stop (start + count) then
        return advance { s with pos := movedBy mode s.pos count } 1
      else t.backtrack s
  else t.backtrack s

def takeOne (t : Task) (c : Comparison) (mode : Mode) (s : State) : Except Halt State := do
  if t.left mode s.pos < 1 then t.backtrack s
  else
    let code ← t.take mode s.pos
    let argument ← t.argument s 0
    t.proceed { s with pos := moved mode s.pos } 1 (← t.holds c argument code)

/-- Take a character exactly so many times. -/
def takeExactly (t : Task) (c : Comparison) (mode : Mode) (s : State) : Except Halt State := do
  let count ← t.argument s 1
  if t.left mode s.pos < count then t.backtrack s
  else
    let argument ← t.argument s 0
    let fitting ← t.run c argument mode count.toNat s.pos 0
    t.proceed { s with pos := movedBy mode s.pos (Int.ofNat fitting) } 2 (fitting = count.toNat)

/-- Take a character as often as possible. -/
def takeMost (t : Task) (c : Comparison) (mode : Mode) (s : State) : Except Halt State := do
  let limit := min (← t.argument s 1) (t.left mode s.pos)
  let argument ← t.argument s 0
  let fitting ← t.run c argument mode limit.toNat s.pos 0
  let s := { s with pos := movedBy mode s.pos (Int.ofNat fitting) }
  if 0 < fitting then
    let s ← note s (Int.ofNat fitting - 1)
    let s ← note s (movedBack mode s.pos)
    return advance (← record s) 2
  else return advance s 2

/-- Take a character as seldom as possible, which is not at all. -/
def takeFew (t : Task) (mode : Mode) (s : State) : Except Halt State := do
  let limit := min (← t.argument s 1) (t.left mode s.pos)
  if 0 < limit then
    let s ← note s (limit - 1)
    let s ← note s s.pos
    return advance (← record s) 2
  else return advance s 2

/-- Do an instruction that the machine came to by going on. -/
def forward (t : Task) (op : Op) (mode : Mode) (s : State) : Except Halt State :=
  match op with
  | .exactly c => t.takeExactly c mode s
  | .most c => t.takeMost c mode s
  | .few _ => t.takeFew mode s
  | .one c => t.takeOne c mode s
  | .text => t.takeText mode s
  | .backref => t.takeGroup mode s
  | .anchor a => do t.proceed s 0 (← t.meets s.pos a)
  | .fail => t.backtrack s
  | .stop => .ok s
  | .jump => do return t.goTo s (← t.argument s 0)
  | .ifGroup => do t.proceed s 1 (← isMatched s (← t.argument s 0))
  | .fork => do return advance (← record (← note s s.pos)) 1
  | .markHere => do return advance (← record (← mark s s.pos)) 0
  | .markNowhere => do return advance (← record (← mark s (-1))) 0
  | .countHere => do
    let s ← mark s s.pos
    let s ← mark s (← t.argument s 0)
    return advance (← record s) 1
  | .countNowhere => do
    let s ← mark s (-1)
    let s ← mark s (← t.argument s 0)
    return advance (← record s) 1
  | .returnToMark => do
    let s := unmark s 1
    let pos ← s.marks.peek 0
    let s ← record (← note s pos)
    return advance { s with pos := pos } 0
  | .capture => do
    let group ← t.argument s 0
    let balanced ← t.argument s 1
    let ready ← if balanced = -1 then .ok true else isMatched s balanced
    if !ready then t.backtrack s
    else
      let s := unmark s 1
      let start ← s.marks.peek 0
      let s ← if balanced = -1 then remember s group start s.pos
        else transfer s group balanced start s.pos
      return advance (← record (← note s start)) 2
  | .again => do
    let s := unmark s 1
    let start ← s.marks.peek 0
    if s.pos ≠ start then
      let s ← record (← note (← note s start) s.pos)
      let s ← mark s s.pos
      return t.goTo s (← t.argument s 0)
    else return advance (← recordAgain (← note s start)) 1
  | .againLazily => do
    let s := unmark s 1
    let start ← s.marks.peek 0
    if s.pos ≠ start then
      let s ← note s (if start = -1 then s.pos else start)
      return advance (← record (← note s s.pos)) 1
    else
      let s ← mark s start
      return advance (← recordAgain (← note s start)) 1
  | .countAgain => do
    let s := unmark s 2
    let start ← s.marks.peek 0
    let count ← s.marks.peek 1
    let limit ← t.argument s 1
    if limit ≤ count || (s.pos = start && 0 ≤ count) then
      return advance (← recordAgain (← note (← note s start) count)) 2
    else
      let s ← record (← note s start)
      let s ← mark (← mark s s.pos) (count + 1)
      return t.goTo s (← t.argument s 0)
  | .countAgainLazily => do
    let s := unmark s 2
    let start ← s.marks.peek 0
    let count ← s.marks.peek 1
    if count < 0 then
      let s ← recordAgain (← note s start)
      let s ← mark (← mark s s.pos) (count + 1)
      return t.goTo s (← t.argument s 0)
    else
      let s ← note (← note (← note s start) count) s.pos
      return advance (← record s) 2
  | .protect => do
    let s ← mark (← mark s s.track.depth) s.crawl.depth
    return advance (← record s) 0
  | .giveUp => do
    let s := unmark s 2
    let depth ← s.marks.peek 0
    let s := { s with track := s.track.moveTo depth }
    t.backtrack (← forgetDownTo s (← s.marks.peek 1))
  | .commit => do
    let s := unmark s 2
    let depth ← s.marks.peek 0
    let s := { s with track := s.track.moveTo depth }
    return advance (← record (← note s (← s.marks.peek 1))) 0

/-- Go back to an instruction that left a record of the first kind. -/
def back (t : Task) (op : Op) (mode : Mode) (s : State) : Except Halt State :=
  match op with
  | .most _ => do
    let s := unwind s 2
    let others ← s.track.peek 0
    let pos ← s.track.peek 1
    let s := { s with pos := pos }
    if 0 < others then
      let s ← note (← note s (others - 1)) (movedBack mode pos)
      return advance (← record s) 2
    else return advance s 2
  | .few c => do
    let s := unwind s 2
    let pos ← s.track.peek 1
    let code ← t.take mode pos
    let argument ← t.argument s 0
    let s := { s with pos := moved mode pos }
    if ← t.holds c argument code then
      let others ← s.track.peek 0
      if 0 < others then
        let s ← note (← note s (others - 1)) (moved mode pos)
        return advance (← record s) 2
      else return advance s 2
    else t.backtrack s
  | .fork => do
    let s := unwind s 1
    let pos ← s.track.peek 0
    return t.goTo { s with pos := pos } (← t.argument s 0)
  | .markHere => t.backtrack (unmark s 1)
  | .markNowhere => t.backtrack (unmark s 1)
  | .countHere => t.backtrack (unmark s 2)
  | .countNowhere => t.backtrack (unmark s 2)
  | .protect => t.backtrack (unmark s 2)
  | .returnToMark => do
    let s := unwind s 1
    t.backtrack (← mark s (← s.track.peek 0))
  | .capture => do
    let s := unwind s 1
    let s ← mark s (← s.track.peek 0)
    let s ← forget s
    let group ← t.argument s 0
    let balanced ← t.argument s 1
    let s ← if group ≠ -1 && balanced ≠ -1 then forget s else pure s
    t.backtrack s
  | .again => do
    let s := unmark (unwind s 2) 1
    let pos ← s.track.peek 1
    let start ← s.track.peek 0
    return advance (← recordAgain (← note { s with pos := pos } start)) 1
  | .againLazily => do
    let s := unwind s 2
    let pos ← s.track.peek 1
    let start ← s.track.peek 0
    let s ← recordAgain (← note s start)
    let s ← mark s pos
    return t.goTo { s with pos := pos } (← t.argument s 0)
  | .countAgain => do
    let s := unmark (unwind s 1) 2
    let start ← s.track.peek 0
    let count ← s.marks.peek 1
    if 0 < count then
      let pos ← s.marks.peek 0
      let s ← note (← note { s with pos := pos } start) (count - 1)
      return advance (← recordAgain s) 2
    else t.backtrack (← mark (← mark s start) (count - 1))
  | .countAgainLazily => do
    let s := unwind s 3
    let start ← s.track.peek 0
    let count ← s.track.peek 1
    let pos ← s.track.peek 2
    let limit ← t.argument s 1
    if count < limit && pos ≠ start then
      let s ← mark (← mark { s with pos := pos } pos) (count + 1)
      let s ← recordAgain (← note s start)
      return t.goTo s (← t.argument s 0)
    else t.backtrack (← mark (← mark s start) count)
  | .commit => do
    let s := unwind s 1
    t.backtrack (← forgetDownTo s (← s.track.peek 0))
  | _ => .error .noInstruction

/-- Go back to an instruction that left a record of the second kind. -/
def backAgain (t : Task) (op : Op) (s : State) : Except Halt State :=
  match op with
  | .again => do
    let s := unwind s 1
    t.backtrack (← mark s (← s.track.peek 0))
  | .againLazily => do
    let s := unmark (unwind s 1) 1
    t.backtrack (← mark s (← s.track.peek 0))
  | .countAgain => do
    let s := unwind s 2
    let start ← s.track.peek 0
    let count ← s.track.peek 1
    t.backtrack (← mark (← mark s start) count)
  | .countAgainLazily => do
    let s := unmark (unwind s 1) 2
    let start ← s.track.peek 0
    let count ← s.marks.peek 1
    t.backtrack (← mark (← mark s start) (count - 1))
  | _ => .error .noInstruction

def step (t : Task) (op : Op) (mode : Mode) (s : State) : Except Halt State :=
  match s.phase with
  | .forward => t.forward op mode s
  | .back => t.back op mode s
  | .backAgain => t.backAgain op s

/-- Run the program until it stops.  The result is `none` when it never does. -/
def execute (t : Task) (s : State) : Option (Except Halt State) :=
  match t.cellAt s.place with
  | .error h => some (.error h)
  | .ok cell =>
    match cell.instruction? with
    | none => some (.error .noInstruction)
    | some (op, mode) =>
      if s.phase = .forward && op = .stop then some (.ok s)
      else
        match t.step op mode s with
        | .error h => some (.error h)
        | .ok s => t |>.execute s
partial_fixpoint

end Task
end Machine
end Pattern
end ParseForest
