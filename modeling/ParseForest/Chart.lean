import Std.Data.HashMap
import ParseForest.Arc

namespace ParseForest

/-!
# Charts

A chart has one cell for every position of the input, the end included, and a
cell holds the distinct arcs that end there, in the order of their insertion.
An arc that the chart's policy takes for one already present is not inserted
again.  A cell keeps its arcs by key as well, because only arcs with the same
key can be taken for each other.
-/

/-- The arcs that end at one position. -/
structure Cell where
  arcs : Array Arc
  byKey : Std.HashMap ArcKey (List Arc)

namespace Cell

def empty : Cell where
  arcs := #[]
  byKey := ∅

instance : Inhabited Cell := ⟨empty⟩

/-- Whether the policy takes the arc for one of the cell. -/
def holds (policy : Policy) (cell : Cell) (a : Arc) : Bool :=
  (cell.byKey.getD a.key []).any (policy.merges a)

def push (cell : Cell) (a : Arc) : Cell where
  arcs := cell.arcs.push a
  byKey := cell.byKey.alter a.key fun arcs => some (arcs.getD [] ++ [a])

end Cell

/-- The cells of an input, and the policy they follow. -/
structure Chart where
  cells : Array Cell
  policy : Policy

namespace Chart

def maxLength : Nat := 35184372088832

/-- The empty chart for an input of `length` tokens. -/
def make (length : Int) (policy : Policy) : Except Fault Chart :=
  if length + 1 < 0 || Int.ofNat maxLength < length + 1 then .error .badLength
  else .ok ⟨Array.replicate (length + 1).toNat .empty, policy⟩

/-- The index of the cell at a position. -/
def locate (chart : Chart) (pos : Int) : Except Fault Nat :=
  if 0 ≤ pos ∧ pos.toNat < chart.cells.size then .ok pos.toNat
  else .error (.outOfRange pos chart.cells.size)

/-- Insert an arc into the cell where it ends, and say whether it was new. -/
def insert (chart : Chart) (a : Arc) : Except Fault (Chart × Bool) :=
  match chart.locate a.span.stop with
  | .error fault => .error fault
  | .ok i =>
    if (chart.cells[i]?.getD .empty).holds chart.policy a then .ok (chart, false)
    else .ok (⟨chart.cells.modify i (·.push a), chart.policy⟩, true)

/-- The arcs that end at a position, in order of insertion. -/
def arcsAt (chart : Chart) (pos : Int) : Except Fault (List Arc) :=
  match chart.locate pos with
  | .error fault => .error fault
  | .ok i => .ok (chart.cells[i]?.getD .empty).arcs.toList

def arcAt (chart : Chart) (pos index : Int) : Except Fault Arc := do
  entryAt (← chart.arcsAt pos) index

def length (chart : Chart) : Nat :=
  chart.cells.size

def size (chart : Chart) : Nat :=
  chart.cells.toList.foldl (fun total cell => total + cell.arcs.size) 0

/-- The tree of an arc that covers the input from its beginning and is headed
by `start`.  A complete arc without a tree is a fault. -/
def rooted (start : Symbol) (a : Arc) : Except Fault (Option Tree) :=
  if a.isComplete ∧ a.span.start = 0 then
    match a.built with
    | some t => .ok (if t.head = start then some t else none)
    | none => .error .noTree
  else .ok none

def rootedAll (start : Symbol) : List Arc → Except Fault (List Tree)
  | [] => .ok []
  | a :: arcs => do
    let t ← rooted start a
    let ts ← rootedAll start arcs
    return t.toList ++ ts

/-- The trees headed by `start` that cover the whole input, in chart order. -/
def forest (chart : Chart) (start : Symbol) : Except Fault (List Tree) := do
  rootedAll start (← chart.arcsAt (chart.length - 1))

end Chart
end ParseForest
