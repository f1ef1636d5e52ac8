import ParseForest.Chart
import ParseForest.Output
import ParseForest.Table

namespace ParseForest

/-!
# Listings of a chart

A chart is listed cell by cell, each as a table of rule, awaited symbol, span
and state.  The heading and the line above each table are chunks of their own,
and the listing stops when one of them is refused.  What is refused of a table
does not stop it.
-/

namespace Chart

def row (a : Arc) : Except Fault (List Text) := do
  return [a.rule.text, ← a.nextText, a.span.text, a.state]

def rows : List Arc → Except Fault (List (List Text))
  | [] => .ok []
  | a :: arcs => do
    let first ← row a
    let others ← rows arcs
    return first :: others

/-- The table of the arcs of a cell. -/
def table (arcs : List Arc) : Except Fault Table := do
  return { titles := ["RULE", "NEXT", "SPAN", "STATE"], gap := "  ", rows := ← rows arcs }

/-- List the cells from number `index` on. -/
def writeCells (index : Nat) : List Cell → Writing Unit
  | [] => return ()
  | cell :: cells => do
    if cell.arcs.isEmpty then
      Writing.put ("Cell " ++ Text.ofNat index ++ ": (empty)\n")
    else
      Writing.put ("Cell " ++ Text.ofNat index ++ ":\n")
      match table cell.arcs.toList with
      | .ok t => Writing.offerAll t.chunks
      | .error fault => throw fault.message
    writeCells (index + 1) cells

def write (chart : Chart) : Writing Unit := do
  Writing.put "Chart:\n"
  writeCells 0 chart.cells.toList

end Chart
end ParseForest
