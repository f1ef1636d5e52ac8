import ParseForest.Chart.Listing
import ParseForest.Proofs.Output
import ParseForest.Proofs.Worklist.Visits

namespace ParseForest
namespace Chart

/-!
# What a listing shows

A listing goes through the cells in order and shows the arcs of each as the rows
of a table.  Working out a row can fail for an arc that was put together by
hand.  It cannot for a sound one, so the listing of a chart of sound arcs ends
early only if it is refused, and where nothing is refused it is this text.
-/

/-- The row of an arc that waits for the symbol behind its dot. -/
def shownRow (a : Arc) : List Text :=
  [a.rule.text, (a.rule.rhs[a.dot]?.map Symbol.text).getD [], a.span.text, a.state]

/-- The table of the arcs of a cell. -/
def shownTable (arcs : List Arc) : Table where
  titles := ["RULE", "NEXT", "SPAN", "STATE"]
  gap := "  "
  rows := arcs.map shownRow

/-- What is shown of the cell at a position. -/
def shownCell (e : Nat) (arcs : List Arc) : Text :=
  if arcs.isEmpty then "Cell " ++ Text.ofNat e ++ ": (empty)\n"
  else "Cell " ++ Text.ofNat e ++ ":\n" ++ (shownTable arcs).render

/-- The text of a whole listing. -/
def shown (chart : Chart) : Text :=
  Text.ofString "Chart:\n" ++
    (List.range chart.length).flatMap fun e => shownCell e (chart.arcsIn e)

variable {p : Problem} {chart : Chart}

theorem row_eq {a : Arc} (sound : a.Sound p) : row a = .ok (shownRow a) := by
  unfold row Arc.nextText
  rw [sound.next_eq]
  unfold shownRow
  cases a.rule.rhs[a.dot]? <;> rfl

theorem rows_eq {arcs : List Arc} (sound : ∀ a ∈ arcs, a.Sound p) :
    rows arcs = .ok (arcs.map shownRow) := by
  induction arcs with
  | nil => rfl
  | cons a arcs ih =>
      have first := row_eq (sound a (List.mem_cons_self ..))
      have others := ih fun b member => sound b (List.mem_cons_of_mem a member)
      unfold rows
      rw [first, others]
      rfl

theorem table_eq {arcs : List Arc} (sound : ∀ a ∈ arcs, a.Sound p) :
    table arcs = .ok (shownTable arcs) := by
  unfold table
  rw [rows_eq sound]
  rfl

theorem writes_writeCells (index : Nat) {cells : List Cell}
    (sound : ∀ cell ∈ cells, ∀ a ∈ cell.arcs.toList, a.Sound p) :
    (writeCells index cells).Writes
      ((cells.zipIdx index).flatMap fun entry => shownCell entry.2 entry.1.arcs.toList) := by
  induction cells generalizing index with
  | nil => exact Writing.writes_pure
  | cons cell cells ih =>
      have others := ih (index + 1) fun c member => sound c (List.mem_cons_of_mem cell member)
      have shows := table_eq (sound cell (List.mem_cons_self ..))
      rw [List.zipIdx_cons, List.flatMap_cons]
      unfold writeCells shownCell
      by_cases empty : cell.arcs.isEmpty
      · have none : cell.arcs.toList.isEmpty = true := by simpa using empty
        rw [if_pos empty, if_pos none]
        exact (Writing.writes_put _).andThen others
      · have some : ¬ cell.arcs.toList.isEmpty = true := by simpa using empty
        rw [if_neg empty, if_neg some, shows]
        have heading := Writing.writes_put ("Cell " ++ Text.ofNat index ++ ":\n")
        have listed := Writing.writes_offerAll (shownTable cell.arcs.toList).chunks
        have whole := heading.andThen (listed.andThen others)
        rwa [← List.append_assoc] at whole

/-- Where nothing is refused, the listing of a chart of sound arcs is what it
shows. -/
theorem writes_shown (charted : p.Charted chart) : chart.write.Writes chart.shown := by
  have sound : ∀ cell ∈ chart.cells.toList, ∀ a ∈ cell.arcs.toList, a.Sound p := by
    rw [cells_eq_map]
    intro cell member a inCell
    rcases List.mem_map.mp member with ⟨e, _, rfl⟩
    exact charted.sound (e := e) inCell
  have cells := writes_writeCells 0 sound
  have listed : (chart.cells.toList.zipIdx).flatMap
      (fun entry => shownCell entry.2 entry.1.arcs.toList) =
      (List.range chart.length).flatMap fun e => shownCell e (chart.arcsIn e) := by
    have numbered : ((List.range chart.length).map chart.cellAt).zipIdx =
        (List.range chart.length).map fun e => (chart.cellAt e, e) := by
      rw [List.zipIdx_eq_zip_range', List.length_map, List.length_range, ← List.range_eq_range',
        ← List.zip_map']
      simp only [List.map_id']
    rw [cells_eq_map, numbered, List.flatMap_map]
    rfl
  rw [listed] at cells
  exact (Writing.writes_put _).andThen cells

end Chart
end ParseForest
