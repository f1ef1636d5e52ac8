import ParseForest.Chart
import ParseForest.Grammar

namespace ParseForest

/-!
# Filling a chart

A chart is filled arc by arc.  A cursor walks through the cells in order and
through each cell in the order of insertion, and every arc it visits makes
moves: an incomplete arc predicts the rules for the symbol it waits for and
scans the token at its end, a complete one extends the arcs that waited for its
head where it began.  A move proposes an arc, which the chart takes or
rejects.  Arcs that enter a cell while the cursor is in it are visited too.

Nothing enters a cell that the cursor has left, so the cells before the cursor
are final.  The cell under it need not be: a unary rule that leads back to its
own head feeds it for ever, unless the policy takes the new arcs for old ones.
A walk is therefore not defined everywhere.  An observer may look at the
machine before each visit.
-/

/-- A sentence to be parsed. -/
structure Problem where
  grammar : Grammar
  start : Symbol
  tokens : List Text

/-- A proposal for a new arc. -/
inductive Move where
  | predict (rule : Rule) (pos : Int)
  | scan (rule : Rule) (pos : Int) (token : Text)
  | extend (arc : Arc) (child : Tree)

/-- The arc that a move proposes.  A move has two serial numbers at its
disposal. -/
def Move.arc (serial : Nat) : Move → Arc
  | .predict rule pos => .predict rule pos
  | .scan rule pos token => .scan serial rule ⟨pos, pos + 1⟩ token
  | .extend arc child => .extend serial arc child

/-- A chart with a cursor, and the next serial number to be given out. -/
structure Worklist where
  chart : Chart
  cell : Nat
  index : Nat
  serial : Nat

namespace Worklist

def propose : Worklist → Move → Except Fault Worklist
  | ⟨chart, cell, index, serial⟩, move =>
    match chart.insert (move.arc serial) with
    | .error fault => .error fault
    | .ok (chart, _) => .ok ⟨chart, cell, index, serial + 2⟩

def proposeAll : Worklist → List Move → Except Fault Worklist
  | work, [] => .ok work
  | work, move :: moves =>
    match work.propose move with
    | .error fault => .error fault
    | .ok work => proposeAll work moves

/-- The arc under the cursor. -/
def current? (work : Worklist) : Option Arc := do
  let cell ← work.chart.cells[work.cell]?
  cell.arcs[work.index]?

end Worklist

namespace Problem

/-- The token at a position, if the input reaches that far. -/
def tokenAt? (p : Problem) (pos : Int) : Option Text :=
  if 0 ≤ pos then p.tokens[pos.toNat]? else none

/-- What a rule contributes where its head is awaited: its prediction, and the
scan if it tags the token that comes next. -/
def movesOf (token : Option Text) (pos : Int) (r : Rule) : List Move :=
  .predict r pos ::
    match r.token?, token with
    | some expected, some found => if found = expected then [.scan r pos found] else []
    | _, _ => []

/-- The moves of an arc that ends at `pos` and waits for `awaited`. -/
def predictions (p : Problem) (awaited : Symbol) (pos : Int) : List Move :=
  (p.grammar.rulesFor awaited).flatMap (movesOf (p.tokenAt? pos) pos)

/-- The arcs of a list that wait for `head`. -/
def waitingFor (head : Symbol) : List Arc → Except Fault (List Arc)
  | [] => .ok []
  | b :: rest => do
    let awaited ← b.next
    let others ← waitingFor head rest
    return if awaited = some head then b :: others else others

/-- The moves of a complete arc: every arc that waited for its head where it
began is extended by its tree. -/
def completions (chart : Chart) (a : Arc) : Except Fault (List Move) := do
  let built ← a.tree
  let waiting ← waitingFor built.head (← chart.arcsAt a.span.start)
  return waiting.map (.extend · built)

def moves (p : Problem) (chart : Chart) (a : Arc) : Except Fault (List Move) := do
  match ← a.next with
  | some awaited => return p.predictions awaited a.span.stop
  | none => completions chart a

/-- The empty chart with the cursor at its beginning, seeded with the rules for
the start symbol. -/
def seeded (p : Problem) (policy : Policy) (serial : Nat) : Except Fault Worklist := do
  let chart ← Chart.make p.tokens.length policy
  Worklist.proposeAll ⟨chart, 0, 0, serial⟩
    ((p.grammar.rulesFor p.start).map (.predict · 0))

def visit (p : Problem) (work : Worklist) (a : Arc) : Except Fault Worklist :=
  match p.moves work.chart a with
  | .error fault => .error fault
  | .ok moves => Worklist.proposeAll { work with index := work.index + 1 } moves

/-- Visit the arcs of the cell under the cursor until none is left.  Before each
visit the observer sees the machine and updates a state of its own, which the
walk never reads.  The result is `none` when the cell never runs out of
arcs. -/
def walkCell {σ : Type} (p : Problem) (observe : Worklist → σ → σ)
    (work : Worklist) (seen : σ) : Option (Except Fault (Worklist × σ)) :=
  match work.current? with
  | none => some (.ok (work, seen))
  | some a =>
    let seen := observe work seen
    match p.visit work a with
    | .error fault => some (.error fault)
    | .ok work => p |>.walkCell observe work seen
partial_fixpoint

/-- Walk through a number of cells, beginning with the one under the cursor. -/
def walk {σ : Type} (p : Problem) (observe : Worklist → σ → σ) :
    (cells : Nat) → Worklist → σ → Option (Except Fault (Worklist × σ))
  | 0, work, seen => some (.ok (work, seen))
  | cells + 1, work, seen =>
    match p.walkCell observe work seen with
    | none => none
    | some (.error fault) => some (.error fault)
    | some (.ok (work, seen)) =>
      walk p observe cells { work with cell := work.cell + 1, index := 0 } seen

/-- Fill a chart under observation.  The result keeps the next free serial
number.  That the walk has no end is a fault that only a proof can find: a run
of it does not come back. -/
def fillWith {σ : Type} (p : Problem) (policy : Policy) (serial : Nat)
    (observe : Worklist → σ → σ) (seen : σ) : Except Fault (Worklist × σ) := do
  let work ← p.seeded policy serial
  (p.walk observe work.chart.length work seen).getD (.error .unfinished)

def fill (p : Problem) (policy : Policy) : Except Fault Chart := do
  let (work, _) ← p.fillWith policy 0 (fun _ seen => seen) ()
  return work.chart

/-- Every tree of the sentence headed by the start symbol that the policy
keeps. -/
def parse (p : Problem) (policy : Policy) : Except Fault (List Tree) := do
  (← p.fill policy).forest p.start

end Problem
end ParseForest
