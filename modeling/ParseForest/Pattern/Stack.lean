import ParseForest.Fault

namespace ParseForest
namespace Pattern

/-!
# The memory of the machine

The machine that finds patterns keeps numbers on stacks and remembers what
groups have matched.  A stack has limited room, which can be doubled.  What has
been taken from a stack stays where it was until something else is put there,
so that it can still be looked at; and the top can be moved freely.  Reaching
for what is not there is a fault.
-/

/-- Why the machine could not go on. -/
inductive Halt where
  | fault (fault : Fault)
  /-- It gave up, with a reason. -/
  | failed (reason : Text)
  /-- It has no end.  Only a proof can find that: a run of it does not come back. -/
  | endless
  deriving DecidableEq

/-- It came to a number that is no instruction. -/
def Halt.noInstruction : Halt :=
  .failed "unknown state in regex runner"

/-! ## Stacks -/

/-- A stack of numbers, which grows from the last of its places to the first. -/
structure Stack where
  places : Array Int
  /-- Where the topmost number is; the number of places if there is none. -/
  top : Int

namespace Stack

def ofRoom (room : Nat) : Stack :=
  ⟨Array.replicate room 0, Int.ofNat room⟩

def depth (s : Stack) : Int :=
  Int.ofNat s.places.size - s.top

/-- There is no such place. -/
def fault (s : Stack) (place : Int) : Halt :=
  .fault (.outOfRange place s.places.size)

@[inline]
def push (s : Stack) (n : Int) : Except Halt Stack :=
  let top := s.top - 1
  if 0 ≤ top && top < Int.ofNat s.places.size then
    .ok ⟨s.places.setIfInBounds top.toNat n, top⟩
  else .error (s.fault top)

@[inline]
def drop (s : Stack) (count : Int) : Stack :=
  { s with top := s.top + count }

/-- The number so far in front of the top.  After numbers have been taken, the
one taken last is the first. -/
@[inline]
def peek (s : Stack) (index : Int) : Except Halt Int :=
  let place := s.top - 1 - index
  if 0 ≤ place && place < Int.ofNat s.places.size then .ok (s.places.getD place.toNat 0)
  else .error (s.fault place)

@[inline]
def pop (s : Stack) : Except Halt (Int × Stack) :=
  if 0 ≤ s.top && s.top < Int.ofNat s.places.size then
    .ok (s.places.getD s.top.toNat 0, { s with top := s.top + 1 })
  else .error (s.fault s.top)

theorem depth_lt_of_pop {s s' : Stack} {n : Int} (popped : s.pop = .ok (n, s')) :
    s'.depth.toNat < s.depth.toNat := by
  unfold pop at popped
  split at popped
  case isTrue inside =>
    cases popped
    simp only [Bool.and_eq_true, decide_eq_true_eq] at inside
    simp only [depth]
    omega
  case isFalse => cases popped

/-- Move the top so that there are so many numbers. -/
def moveTo (s : Stack) (depth : Int) : Stack :=
  { s with top := Int.ofNat s.places.size - depth }

def double (s : Stack) : Stack :=
  ⟨Array.replicate s.places.size 0 ++ s.places, s.top + Int.ofNat s.places.size⟩

@[inline]
def reserve (s : Stack) (needed : Int) : Stack :=
  if s.top < needed then s.double else s

end Stack

/-! ## Matches of groups -/

/-- The matches of a group.  Each is an entry of two numbers, where it starts
and how long it is.  An entry whose numbers are negative stands for the match
that counts after later ones have been balanced away: it says where the numbers
of that match stand among all numbers, counted down from −3. -/
structure Captures where
  /-- The entries, the latest first. -/
  entries : List (Int × Int) := []
  count : Nat := 0
  /-- How many numbers there is room for. -/
  room : Nat := 0

namespace Captures

/-- The number that stands at an index among all numbers. -/
def numberAt (c : Captures) (index : Int) : Except Halt Int :=
  if 0 ≤ index && index < Int.ofNat c.room then
    if index.toNat / 2 < c.count then
      let entry := c.entries.getD (c.count - 1 - index.toNat / 2) (0, 0)
      .ok (if index.toNat % 2 = 0 then entry.1 else entry.2)
    else .ok 0
  else .error (.fault (.outOfRange index c.room))

/-- Whether the group has a match.  It has none if all have been balanced away. -/
def isMatched (c : Captures) : Bool :=
  match c.entries with
  | [] => false
  | (_, length) :: _ => length ≠ -2

/-- The number that an entry stands for. -/
def resolve (c : Captures) (n : Int) : Except Halt Int :=
  if 0 ≤ n then .ok n else c.numberAt (-3 - n)

def start (c : Captures) : Except Halt Int :=
  match c.entries with
  | [] => c.numberAt (-2)
  | (start, _) :: _ => c.resolve start

def length (c : Captures) : Except Halt Int :=
  match c.entries with
  | [] => c.numberAt (-1)
  | (_, length) :: _ => c.resolve length

def add (c : Captures) (start length : Int) : Captures :=
  let room := if c.room = 0 then 2 else c.room
  { entries := (start, length) :: c.entries
    count := c.count + 1
    room := if room < 2 * c.count + 2 then 8 * c.count else room }

def remove (c : Captures) : Captures :=
  { c with entries := c.entries.drop 1, count := c.count - 1 }

/-- Balance the latest match away, by an entry that stands for the one before. -/
def balance (c : Captures) : Except Halt Captures :=
  match c.entries with
  | [] => .error (.fault (.outOfRange (-2) c.room))
  | (start, _) :: _ =>
    let latest := if start < 0 then -3 - start else 2 * (Int.ofNat c.count - 1)
    let target := latest - 2
    if target < 0 then .ok (c.add (-3 - target) (-4 - target))
    else
      match c.numberAt target, c.numberAt (target + 1) with
      | .ok n, .ok k => .ok (if n < 0 then c.add n k else c.add (-3 - target) (-4 - target))
      | .error h, _ => .error h
      | _, .error h => .error h

end Captures
end Pattern
end ParseForest
