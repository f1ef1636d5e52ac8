import ParseForest.Pattern.Machine

namespace ParseForest
namespace Pattern

/-!
# Finding patterns in texts

A search goes through the positions of a text from where it begins, passes over
those where the pattern cannot begin, and runs the program of the pattern at the
others until a run remembers a match of the whole pattern.  The next search
begins where the last match ended.
-/

open Machine (State Task)

/-- A place where a pattern was found, in characters.  Marks that are left lying
can lead to places that are not in the text. -/
structure Match where
  start : Int
  length : Int
  deriving DecidableEq

/-! ## Where to try -/

namespace Lead

/-- The first position from `pos` on where a character is in a set, or the end
of the text; `count` is how many characters are left. -/
def findFirst (text : Array Nat) (set : CharSet) (ignoreCase : Bool) :
    (count : Nat) → (pos : Int) → Int × Bool
  | 0, pos => (pos, false)
  | count + 1, pos =>
    let code := text.getD pos.toNat 0
    if set.holds (if ignoreCase then Text.LowerCase.ofCode code else code) then (pos, true)
    else findFirst text set ignoreCase count (pos + 1)

def next (l : Lead) (text : Array Nat) (start pos : Int) : Int × Bool :=
  let stop := Int.ofNat text.size
  let anchored := fun (pos : Int) =>
    match l.literal with
    | none => (pos, true)
    | some literal => (pos, 0 ≤ pos && literal.occursAt text pos.toNat)
  let unanchored :=
    match l.literal with
    | some literal =>
      match literal.find text pos.toNat with
      | some found => (Int.ofNat found, true)
      | none => (stop, false)
    | none =>
      match l.first with
      | some (set, ignoreCase) => findFirst text set ignoreCase (stop - pos).toNat pos
      | none => (pos, true)
  match l.anchor with
  | some .textStart => if 0 < pos then (stop, false) else anchored pos
  | some .searchStart => if start < pos then (stop, false) else anchored pos
  | some .lastLine => anchored (if pos < stop - 1 then stop - 1 else pos)
  | some .textEnd => anchored (if pos < stop then stop else pos)
  | _ => unanchored

end Lead

/-! ## Searching -/

/-- The stacks of the machine, of which the contents stay from search to
search. -/
structure Memory where
  track : Stack
  marks : Stack
  crawl : Stack

namespace Memory

/-- The stacks at the beginning. -/
def empty (p : Program) : Memory where
  track := .ofRoom (max 32 (8 * p.choices))
  marks := .ofRoom (max 16 (8 * p.choices))
  crawl := .ofRoom 32

def reset (m : Memory) : Memory :=
  ⟨m.track.moveTo 0, m.marks.moveTo 0, m.crawl.moveTo 0⟩

def ofState (s : State) : Memory :=
  ⟨s.track, s.marks, s.crawl⟩

end Memory

/-- The groups before a search: only the whole pattern has room for a match. -/
def noCaptures (p : Program) : Array Captures :=
  (({ room := 2 } : Captures) :: List.replicate (p.groups - 1) {}).toArray

/-- What a search has found: a match, where the machine stopped, and its
stacks. -/
structure Found where
  place : Match
  stop : Int
  memory : Memory

/-- The match of the whole pattern that a machine remembers: the first one. -/
def wholeMatch? (s : State) : Option Match :=
  match s.groups[0]? with
  | none => none
  | some c => c.entries.getLast?.map fun (start, length) => ⟨start, length⟩

/-- Search from a position.  The result is `none` when a run or the search has
no end, which can be where marks are left lying. -/
def Machine.Task.searchFrom (t : Task) (pos : Int) (memory : Memory) (groups : Array Captures) :
    Option (Except Halt (Option Found)) :=
  let stop := Int.ofNat t.text.size
  match t.program.lead.next t.text t.start pos with
  | (pos, false) =>
    if pos = stop then some (.ok none) else t |>.searchFrom (pos + 1) memory groups
  | (pos, true) =>
    let s : State :=
      { pos := pos, track := memory.track, marks := memory.marks, crawl := memory.crawl
        groups := groups }
    match t.execute s with
    | none => none
    | some (.error h) => some (.error h)
    | some (.ok s) =>
      let memory := (Memory.ofState s).reset
      match wholeMatch? s with
      | some place => some (.ok (some ⟨place, s.pos, memory⟩))
      | none =>
        if s.pos = stop then some (.ok none) else t |>.searchFrom (s.pos + 1) memory s.groups
partial_fixpoint

/-- Matches that were found before the search for others halted, if it did. -/
structure Matches where
  found : List Match
  halt : Option Halt := none

def Matches.after (first : Match) (others : Matches) : Matches :=
  { others with found := first :: others.found }

/-- The matches from a position on.  Each search begins where the last match
ended, one further if that match was empty.  The result is `none` when there is
always another match. -/
def Program.matchesFrom (p : Program) (text : Array Nat) (start : Int) (memory : Memory) :
    Option Matches :=
  match Task.searchFrom ⟨p, text, start⟩ start memory (noCaptures p) with
  | none => some ⟨[], some .endless⟩
  | some (.error h) => some ⟨[], some h⟩
  | some (.ok none) => some ⟨[], none⟩
  | some (.ok (some found)) =>
    if found.place.length = 0 && found.stop = Int.ofNat text.size then
      some ⟨[found.place], none⟩
    else do
      let start := if found.place.length = 0 then found.stop + 1 else found.stop
      let others ← p |>.matchesFrom text start found.memory
      return others.after found.place
partial_fixpoint

/-- All matches of a program in a text, in order. -/
def Program.allMatches (p : Program) (text : List Char) : Matches :=
  (p.matchesFrom (text.map Char.toNat).toArray 0 (.empty p)).getD ⟨[], some .endless⟩

end Pattern
end ParseForest
