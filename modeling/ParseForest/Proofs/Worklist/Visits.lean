import Mathlib.Data.List.Basic
import ParseForest.Proofs.Worklist.Filled

namespace ParseForest

/-!
# Every arc is visited once

The arcs that the cursor has passed form a list.  A visit puts the visited arc
at its end, and moving on to the next cell leaves it as it is, since nothing is
put in front of the cursor's place.  When the cursor has passed the last cell,
the list is the whole chart, cell by cell.  So a walk that ends has visited each
arc of its chart exactly once, and the number of visits is the size of the
chart, whoever watches.
-/

namespace Chart

/-- The arcs of the chart, cell by cell. -/
def arcs (chart : Chart) : List Arc :=
  (List.range chart.length).flatMap chart.arcsIn

variable {chart : Chart} {a : Arc} {e : Nat}

theorem arcsIn_eq_nil (outside : chart.length ≤ e) : chart.arcsIn e = [] := by
  apply List.eq_nil_iff_forall_not_mem.mpr
  intro a member
  exact Nat.not_lt_of_le outside (lt_length_of_mem member)

theorem cells_eq_map (chart : Chart) :
    chart.cells.toList = (List.range chart.length).map chart.cellAt := by
  apply List.ext_getElem
  · simp [length]
  · intro e inside _
    simp only [Array.length_toList] at inside
    simp [cellAt, inside]

theorem size_eq (chart : Chart) : chart.size = chart.arcs.length := by
  have total : ∀ (cells : List Cell) (n : Nat),
      cells.foldl (fun total cell => total + cell.arcs.size) n =
        n + (cells.map fun cell => cell.arcs.size).sum := by
    intro cells
    induction cells with
    | nil =>
        intro n
        rfl
    | cons cell cells ih =>
        intro n
        rw [List.foldl_cons, ih, List.map_cons, List.sum_cons, Nat.add_assoc]
  rw [size, total, cells_eq_map, List.map_map, arcs, List.length_flatMap, Nat.zero_add]
  rfl

end Chart

namespace Worklist

/-- The arcs that the cursor has passed. -/
def passed (work : Worklist) : List Arc :=
  (List.range work.cell).flatMap work.chart.arcsIn ++
    (work.chart.arcsIn work.cell).take work.index

variable {work next : Worklist} {a : Arc}

theorem exists_cell_of_passed (passed : a ∈ work.passed) :
    ∃ e ≤ work.cell, a ∈ work.chart.arcsIn e := by
  rcases List.mem_append.mp passed with before | here
  · rcases List.mem_flatMap.mp before with ⟨e, earlier, member⟩
    exact ⟨e, Nat.le_of_lt (List.mem_range.mp earlier), member⟩
  · exact ⟨work.cell, Nat.le_refl _, List.mem_of_mem_take here⟩

theorem take_visit (current : work.current? = some a)
    (grows : work.chart.Grows work.cell next.chart) :
    (next.chart.arcsIn work.cell).take (work.index + 1) =
      (work.chart.arcsIn work.cell).take work.index ++ [a] := by
  rw [work.current?_eq] at current
  rcases List.getElem?_eq_some_iff.mp current with ⟨inside, entry⟩
  rcases grows.extended work.cell with ⟨rest, extended⟩
  rw [← extended, List.take_append_of_le_length inside, List.take_succ_eq_append_getElem inside,
    entry]

theorem passed_visit (current : work.current? = some a)
    (grows : work.chart.Grows work.cell next.chart) (cellEq : next.cell = work.cell)
    (indexEq : next.index = work.index + 1) : next.passed = work.passed ++ [a] := by
  have before : (List.range work.cell).flatMap next.chart.arcsIn =
      (List.range work.cell).flatMap work.chart.arcsIn := by
    apply List.flatMap_congr
    intro e member
    exact grows.kept e (List.mem_range.mp member)
  rw [passed, passed, cellEq, indexEq, before, take_visit current grows, List.append_assoc]

theorem passed_advance (done : work.current? = none) : work.advance.passed = work.passed := by
  rw [work.current?_eq, List.getElem?_eq_none_iff] at done
  simp [passed, advance, List.range_succ, List.take_of_length_le done]

theorem passed_eq_arcs (last : work.cell = work.chart.length) :
    work.passed = work.chart.arcs := by
  rw [passed, last, Chart.arcsIn_eq_nil (Nat.le_refl _), List.take_nil, List.append_nil, Chart.arcs]

end Worklist

namespace Problem

/-- Fill a chart and count the visits. -/
def fillCounting (p : Problem) (policy : Policy) : Except Fault (Chart × Nat) := do
  let (work, visits) ← p.fillWith policy 0 (fun _ visits => visits + 1) 0
  return (work.chart, visits)

variable {p : Problem} {policy : Policy} {serial : Nat} {work : Worklist} {chart : Chart}

theorem Seeded.passed_eq (seeded : p.Seeded policy work) : work.passed = [] := by
  rw [Worklist.passed, seeded.cell_eq, seeded.index_eq]
  rfl

/-! ## The states before the visits -/

/-- A stretch of a run, with the states of the machine before its visits. -/
inductive Passes (p : Problem) : Worklist → List Worklist → Worklist → Prop
  | rest (work : Worklist) : Passes p work [] work
  | visit {work next last : Worklist} {a : Arc} {visited : List Worklist}
      (current : work.current? = some a) (run : p.visit work a = .ok next)
      (later : Passes p next visited last) : Passes p work (work :: visited) last
  | advance {work last : Worklist} {visited : List Worklist} (done : work.current? = none)
      (later : Passes p work.advance visited last) : Passes p work visited last

variable {last : Worklist} {visited more : List Worklist}

theorem Passes.trans (first : p.Passes work visited next) (second : p.Passes next more last) :
    p.Passes work (visited ++ more) last := by
  induction first with
  | rest => exact second
  | visit current run _ ih => exact .visit current run (ih second)
  | advance done _ ih => exact .advance done (ih second)

/-- A run leaves the cells before its first one alone. -/
theorem Passes.grows (passes : p.Passes work visited last)
    (reached : p.Reaches policy serial work) : work.chart.Grows work.cell last.chart := by
  induction passes with
  | rest work => exact .refl work.cell work.chart
  | visit current run _ ih =>
      rcases exists_visits reached.coherent current run with ⟨_, visits⟩
      have later := ih (.visited reached current run)
      rw [visits.cell_eq] at later
      exact visits.grows.trans later
  | advance done _ ih => exact (ih (.advanced reached done)).mono (Nat.le_succ _)

/-- There are as many visits as arcs that the cursor passes. -/
theorem Passes.length_passed (passes : p.Passes work visited last)
    (reached : p.Reaches policy serial work) :
    last.passed.length = work.passed.length + visited.length := by
  induction passes with
  | rest => rfl
  | visit current run _ ih =>
      rcases exists_visits reached.coherent current run with ⟨_, visits⟩
      rw [ih (.visited reached current run),
        Worklist.passed_visit current visits.grows visits.cell_eq visits.index_eq,
        List.length_append, List.length_singleton, List.length_cons, Nat.add_assoc, Nat.add_comm 1]
  | advance done _ ih => rw [ih (.advanced reached done), Worklist.passed_advance done]

/-- Whoever watches a walk through a cell, it goes the same way, and what is seen
are the states before its visits. -/
theorem walkCell_observed {σ : Type} {observe : Worklist → σ → σ} {seen seen' : σ}
    (run : p.walkCell observe work seen = some (.ok (last, seen')))
    (reached : p.Reaches policy serial work) :
    ∃ visited, p.Passes work visited last ∧ ∀ {τ : Type} (watch : Worklist → τ → τ) (start : τ),
      p.walkCell watch work start =
        some (.ok (last, visited.foldl (fun seen work => watch work seen) start)) := by
  -- By induction on the observed walk, which is the one that is known to end.
  generalize outcome : (Except.ok (last, seen') : Except Fault _) = result at run
  revert reached outcome
  refine walkCell.partial_correctness p observe (fun work _ result =>
    p.Reaches policy serial work → .ok (last, seen') = result →
      ∃ visited, p.Passes work visited last ∧ ∀ {τ : Type} (watch : Worklist → τ → τ) (start : τ),
        p.walkCell watch work start =
          some (.ok (last, visited.foldl (fun seen work => watch work seen) start)))
    ?_ work seen result run
  intro approx ih work seen result run reached outcome
  cases current : work.current? with
  | none =>
      simp only [current, ← outcome, Option.some.injEq, Except.ok.injEq, Prod.mk.injEq] at run
      rw [← run.1]
      refine ⟨[], .rest work, fun watch start => ?_⟩
      rw [walkCell, current]
      rfl
  | some a =>
      rcases exists_visit reached.coherent current with ⟨next, visit, _⟩
      simp only [current, visit] at run
      rcases ih next _ result run (.visited reached current visit) outcome with
        ⟨visited, passes, watched⟩
      refine ⟨work :: visited, .visit current visit passes, fun watch start => ?_⟩
      rw [walkCell, current]
      simp only [visit, watched, List.foldl_cons]

theorem walk_observed {σ : Type} {observe : Worklist → σ → σ} {cells : Nat} {seen seen' : σ}
    (run : p.walk observe cells work seen = some (.ok (last, seen')))
    (reached : p.Reaches policy serial work) :
    ∃ visited, p.Passes work visited last ∧ ∀ {τ : Type} (watch : Worklist → τ → τ) (start : τ),
      p.walk watch cells work start =
        some (.ok (last, visited.foldl (fun seen work => watch work seen) start)) := by
  induction cells generalizing work seen with
  | zero =>
      simp only [walk, Option.some.injEq, Except.ok.injEq, Prod.mk.injEq] at run
      rw [← run.1]
      exact ⟨[], .rest work, fun _ _ => rfl⟩
  | succ cells ih =>
      cases walked : p.walkCell observe work seen with
      | none => simp [walk, walked] at run
      | some inner =>
          rcases reached.walkCell walked with ⟨middle, seenMiddle, rfl, reached', done, _⟩
          simp only [walk, walked] at run
          rcases walkCell_observed walked reached with ⟨visited, passes, watched⟩
          rcases ih run (.advanced reached' done) with ⟨more, passes', watched'⟩
          refine ⟨visited ++ more, passes.trans (.advance done passes'), fun watch start => ?_⟩
          simp only [walk, watched, List.foldl_append]
          exact watched' watch _

/-! ## Filled charts -/

theorem Passes.reaches (passes : p.Passes work visited last)
    (reached : p.Reaches policy serial work) : p.Reaches policy serial last := by
  induction passes with
  | rest => exact reached
  | visit current run _ ih => exact ih (.visited reached current run)
  | advance done _ ih => exact ih (.advanced reached done)

/-- Whoever watches, a chart that the machine has filled is filled in the same way,
from the seeds until the cursor is behind the last cell. -/
theorem fillWith_observed (run : p.fill policy = .ok chart) :
    ∃ first last visited, p.seeded policy 0 = .ok first ∧ p.Passes first visited last ∧
      last.chart = chart ∧ last.cell = chart.length ∧
      ∀ {τ : Type} (watch : Worklist → τ → τ) (start : τ), p.fillWith policy 0 watch start =
        .ok (last, visited.foldl (fun seen work => watch work seen) start) := by
  rcases fill_eq_ok_iff.mp run with ⟨first, last, seeded, walked, rfl⟩
  rcases (Reaches.seeded seeded).walk walked with ⟨_, _, equal, reached, cellEq⟩
  cases equal
  rcases walk_observed walked (.seeded seeded) with ⟨visited, passes, watched⟩
  refine ⟨first, last, visited, seeded, passes, rfl, ?_, fun watch start => ?_⟩
  · rw [cellEq, (Seeded.of_run seeded).cell_eq, Nat.zero_add, reached.length_eq,
      (Reaches.seeded seeded).length_eq]
  · simp only [fillWith, seeded, watched, bind, Except.bind, Option.getD_some]

/-- A chart that is filled under observation is also filled without. -/
theorem fill_of_fillWith {σ : Type} {observe : Worklist → σ → σ} {seen seen' : σ}
    (run : p.fillWith policy 0 observe seen = .ok (last, seen')) :
    p.fill policy = .ok last.chart := by
  unfold fillWith at run
  cases seeded : p.seeded policy 0 with
  | error fault =>
      rw [seeded] at run
      cases run
  | ok first =>
      simp only [seeded, bind, Except.bind] at run
      cases walked : p.walk observe first.chart.length first seen with
      | none =>
          rw [walked] at run
          cases run
      | some result =>
          rw [walked, Option.getD_some] at run
          rw [run] at walked
          rcases walk_observed walked (.seeded seeded) with ⟨_, _, watched⟩
          exact fill_eq_ok_iff.mpr ⟨first, last, seeded, watched _ _, rfl⟩

/-- A chart that the machine has filled is one that a run has come to, with the
cursor behind its last cell. -/
theorem Reaches.of_fill (run : p.fill policy = .ok chart) :
    ∃ work, p.Reaches policy 0 work ∧ work.chart = chart ∧ work.cell = chart.length ∧
      p.fillCounting policy = .ok (chart, work.passed.length) := by
  rcases fillWith_observed run with ⟨first, last, visited, seeded, passes, rfl, cellEq, watched⟩
  refine ⟨last, passes.reaches (.seeded seeded), rfl, cellEq, ?_⟩
  have total := passes.length_passed (.seeded seeded)
  rw [(Seeded.of_run seeded).passed_eq, List.length_nil, Nat.zero_add] at total
  simp only [fillCounting, watched, bind, Except.bind, pure, Except.pure, List.foldl_add_const,
    total, Nat.zero_add, Nat.one_mul]

/-- Filling a chart takes as many visits as the chart has arcs. -/
theorem fillCounting_eq (run : p.fill policy = .ok chart) :
    p.fillCounting policy = .ok (chart, chart.size) := by
  rcases Reaches.of_fill run with ⟨work, _, rfl, last, counted⟩
  rw [counted, Worklist.passed_eq_arcs last, Chart.size_eq]

/-- Without room for the sentence there is no chart. -/
theorem fill_eq_badLength (policy : Policy) (long : Chart.maxLength ≤ p.tokens.length) :
    p.fill policy = .error .badLength := by
  have excess : ((p.tokens.length : Int) + 1 < 0 ||
      Int.ofNat Chart.maxLength < (p.tokens.length : Int) + 1) = true := by
    simp only [Bool.or_eq_true, decide_eq_true_eq, Int.ofNat_eq_natCast]
    omega
  simp only [fill, fillWith, seeded, Chart.make, excess, if_true, bind, Except.bind]

theorem parse_eq_badLength (policy : Policy) (long : Chart.maxLength ≤ p.tokens.length) :
    p.parse policy = .error .badLength := by
  rw [parse, fill_eq_badLength policy long]
  rfl

end Problem
end ParseForest
