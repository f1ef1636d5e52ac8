import ParseForest.Proofs.Chart.Listing
import ParseForest.Proofs.Worklist.Steps

namespace ParseForest

/-!
# Watching a parse

A watch is a state that the walk does not read, so what a walk does can be told
from the states before its visits, whoever looks at them.  These states say which
arcs are visited and when.  The cursor never goes back and stops at every place
of every cell, and charts only grow on the way.  So the arc visited at a place is
the one that stands there in the end, and each listing on a trace that is never
refused shows the beginnings of the cells of the next one.
-/

namespace Worklist

/-- Where the cursor stands. -/
def place (work : Worklist) : Nat × Nat :=
  (work.cell, work.index)

end Worklist

namespace Chart

/-- The first places of a cell. -/
def placesIn (e count : Nat) : List (Nat × Nat) :=
  (List.range count).map (e, ·)

/-- The places of the arcs of the cells before a position, cell by cell. -/
def placesBefore (chart : Chart) (e : Nat) : List (Nat × Nat) :=
  (List.range e).flatMap fun i => placesIn i (chart.arcsIn i).length

variable {chart chart' : Chart} {a : Arc} {e i j : Nat}

theorem mem_placesBefore :
    (i, j) ∈ chart.placesBefore e ↔ i < e ∧ j < (chart.arcsIn i).length := by
  simp [placesBefore, placesIn]

theorem placesBefore_pairwise (chart : Chart) (e : Nat) :
    (chart.placesBefore e).Pairwise (Prod.Lex (· < ·) (· < ·)) := by
  unfold placesBefore
  rw [List.pairwise_flatMap]
  constructor
  · intro i _
    unfold placesIn
    rw [List.pairwise_map]
    exact List.pairwise_lt_range.imp fun before => .right i before
  · apply List.pairwise_lt_range.imp
    intro i i' before
    rintro ⟨_, j⟩ here ⟨_, j'⟩ there
    rcases List.mem_map.mp here with ⟨_, _, rfl, rfl⟩
    rcases List.mem_map.mp there with ⟨_, _, rfl, rfl⟩
    exact .left _ _ before

theorem arcAt_natCast : chart.arcAt e j = .ok a ↔ (chart.arcsIn e)[j]? = some a := by
  rcases Nat.lt_or_ge e chart.length with inside | outside
  · have positive : ¬ (j : Int) < 0 := Int.not_lt.mpr (Int.natCast_nonneg j)
    unfold arcAt
    rw [arcsAt_natCast inside]
    change entryAt (chart.arcsIn e) j = _ ↔ _
    unfold entryAt
    rw [if_neg positive, Int.toNat_natCast]
    cases (chart.arcsIn e)[j]? <;> simp
  · have outside' : chart.cells.size ≤ e := outside
    have located : chart.locate e = .error (.outOfRange e chart.cells.size) := by
      simp [locate, outside']
    rw [arcsIn_eq_nil outside]
    simp [arcAt, arcsAt, located, bind, Except.bind]

/-- An arc keeps its place. -/
theorem Grows.getElem? {k : Nat} (grows : chart.Grows k chart')
    (found : (chart.arcsIn e)[j]? = some a) : (chart'.arcsIn e)[j]? = some a := by
  rcases grows.extended e with ⟨rest, extended⟩
  rw [← extended, List.getElem?_append_left (List.getElem?_eq_some_iff.mp found).1]
  exact found

end Chart

namespace Worklist

/-- The places that the cursor has passed. -/
def passedPlaces (work : Worklist) : List (Nat × Nat) :=
  work.chart.placesBefore work.cell ++ Chart.placesIn work.cell work.index

variable {work next : Worklist} {a : Arc}

theorem passedPlaces_visit (grows : work.chart.Grows work.cell next.chart)
    (cellEq : next.cell = work.cell) (indexEq : next.index = work.index + 1) :
    next.passedPlaces = work.passedPlaces ++ [work.place] := by
  have before : next.chart.placesBefore work.cell = work.chart.placesBefore work.cell := by
    apply List.flatMap_congr
    intro e member
    rw [grows.kept e (List.mem_range.mp member)]
  unfold passedPlaces
  rw [cellEq, indexEq, before, Chart.placesIn, List.range_succ, List.map_append,
    List.append_assoc]
  rfl

theorem passedPlaces_advance (front : work.index ≤ (work.chart.arcsIn work.cell).length)
    (done : work.current? = none) : work.advance.passedPlaces = work.passedPlaces := by
  rw [work.current?_eq, List.getElem?_eq_none_iff] at done
  have last : work.index = (work.chart.arcsIn work.cell).length := Nat.le_antisymm front done
  unfold passedPlaces Chart.placesBefore advance
  simp [List.range_succ, Chart.placesIn, last]

end Worklist

namespace Problem

variable {p : Problem} {policy : Policy} {serial : Nat} {work last : Worklist}
  {visited : List Worklist} {chart : Chart}

theorem Reaches.index_le (reached : p.Reaches policy serial work) :
    work.index ≤ (work.chart.arcsIn work.cell).length := by
  induction reached with
  | seeded run =>
      rw [(Seeded.of_run run).index_eq]
      exact Nat.zero_le _
  | advanced => exact Nat.zero_le _
  | visited reached current run _ =>
      rcases exists_visits reached.coherent current run with ⟨_, visits⟩
      rw [Worklist.current?_eq] at current
      rw [visits.index_eq, visits.cell_eq]
      exact Nat.lt_of_lt_of_le (List.getElem?_eq_some_iff.mp current).1
        (visits.grows.extended _).length_le

/-! ## The visits of a run -/

theorem Passes.places_eq (passes : p.Passes work visited last)
    (reached : p.Reaches policy serial work) :
    last.passedPlaces = work.passedPlaces ++ visited.map Worklist.place := by
  induction passes with
  | rest => exact (List.append_nil _).symm
  | visit current run _ ih =>
      rcases exists_visits reached.coherent current run with ⟨_, visits⟩
      rw [ih (.visited reached current run),
        Worklist.passedPlaces_visit visits.grows visits.cell_eq visits.index_eq,
        List.append_assoc, List.map_cons, List.singleton_append]
  | advance done _ ih =>
      rw [ih (.advanced reached done), Worklist.passedPlaces_advance reached.index_le done]

/-- At every visit a run has come to a state with an arc under the cursor, and the
chart only grows before and after it. -/
theorem Passes.of_mem (passes : p.Passes work visited last)
    (reached : p.Reaches policy serial work) {state : Worklist} (member : state ∈ visited) :
    p.Reaches policy serial state ∧ (∃ a, state.current? = some a) ∧
      work.chart.Grows 0 state.chart ∧ state.chart.Grows 0 last.chart := by
  induction passes with
  | rest => cases member
  | advance done _ ih => exact ih (.advanced reached done) member
  | @visit work next last a visited current run later ih =>
      have whole := (Passes.visit current run later).grows reached
      have step := (Passes.visit current run (.rest next)).grows reached
      rcases List.mem_cons.mp member with rfl | member
      · exact ⟨reached, ⟨a, current⟩, .refl 0 _, whole.mono (Nat.zero_le _)⟩
      · rcases ih (.visited reached current run) member with ⟨reached', found, before, after⟩
        exact ⟨reached', found, (step.mono (Nat.zero_le _)).trans before, after⟩

/-- From one visit to later ones the cells only grow. -/
theorem Passes.pairwise_grows (passes : p.Passes work visited last)
    (reached : p.Reaches policy serial work) :
    visited.Pairwise fun state state' => state.chart.Grows 0 state'.chart := by
  induction passes with
  | rest => exact .nil
  | advance done _ ih => exact ih (.advanced reached done)
  | visit current run later ih =>
      refine .cons ?_ (ih (.visited reached current run))
      intro state member
      have whole := (Passes.visit current run later).of_mem reached (List.mem_cons_of_mem _ member)
      exact whole.2.2.1

end Problem

/-! ## What a watch sees -/

namespace Watch

variable {p : Problem} {work : Worklist} {watch : Watch} {sink : Sink}

theorem visit_trace (watch : Watch) (work : Worklist) : (watch.visit work).trace = watch.trace := by
  unfold visit
  split
  · split <;> rfl
  · rfl

/-- A trace that is never refused gets what the chart shows. -/
theorem observe_trace (charted : p.Charted work.chart) (traced : watch.trace = some sink)
    (sound : sink.IsSound) :
    ∃ sink', (watch.observe work).trace = some sink' ∧ sink'.IsSound ∧
      sink'.text = sink.text ++ work.chart.shown := by
  rcases (Chart.writes_shown charted).finish sound with ⟨sink', run, sound', written⟩
  refine ⟨sink', ?_, sound', written⟩
  rw [observe, visit_trace]
  unfold listing
  rw [traced]
  simp only [run]

theorem foldl_observe_trace {visited : List Worklist}
    (charted : ∀ work ∈ visited, p.Charted work.chart) (traced : watch.trace = some sink)
    (sound : sink.IsSound) :
    ∃ sink', (visited.foldl (fun watch work => observe work watch) watch).trace = some sink' ∧
      sink'.text = sink.text ++ visited.flatMap fun work => work.chart.shown := by
  induction visited generalizing watch sink with
  | nil => exact ⟨sink, traced, (List.append_nil _).symm⟩
  | cons work visited ih =>
      rcases observe_trace (charted work (List.mem_cons_self ..)) traced sound with
        ⟨middle, traced', sound', written⟩
      rcases ih (fun w member => charted w (List.mem_cons_of_mem work member)) traced' sound' with
        ⟨last, traced'', written'⟩
      refine ⟨last, traced'', ?_⟩
      rw [written', written, List.append_assoc, List.flatMap_cons]

end Watch

/-! ## Watched parses -/

/-- The states visit every arc of the chart once, in the order of their places, and
on the way from one to the next the cells only grow. -/
structure Chart.VisitedBy (chart : Chart) (visited : List Worklist) : Prop where
  ordered : (visited.map Worklist.place).Pairwise (Prod.Lex (· < ·) (· < ·))
  mem_iff : ∀ i j : Nat, (i, j) ∈ visited.map Worklist.place ↔ ∃ a, chart.arcAt i j = .ok a
  arc_eq : ∀ work ∈ visited, ∃ a, work.current? = some a ∧
    chart.arcAt work.cell work.index = .ok a
  length_eq : visited.length = chart.size
  grow : visited.Pairwise fun work next => ∀ e, work.chart.arcsIn e <+: next.chart.arcsIn e

namespace Problem

variable {p : Problem} {policy : Policy} {first last : Worklist} {visited : List Worklist}

theorem Passes.visitedBy (passes : p.Passes first visited last)
    (seeded : p.seeded policy 0 = .ok first) (behind : last.cell = last.chart.length) :
    last.chart.VisitedBy visited := by
  have reached : p.Reaches policy 0 first := .seeded seeded
  have start := Seeded.of_run seeded
  have front := (passes.reaches reached).index_le
  rw [behind, Chart.arcsIn_eq_nil (Nat.le_refl _), List.length_nil, Nat.le_zero] at front
  have places : visited.map Worklist.place = last.chart.placesBefore last.chart.length := by
    have passed := passes.places_eq reached
    simp only [Worklist.passedPlaces, start.cell_eq, start.index_eq, behind, front,
      Chart.placesIn, List.range_zero, List.map_nil, List.append_nil] at passed
    exact passed.symm
  constructor
  · rw [places]
    exact last.chart.placesBefore_pairwise _
  · intro i j
    rw [places, Chart.mem_placesBefore]
    constructor
    · rintro ⟨_, inside⟩
      exact ⟨_, Chart.arcAt_natCast.mpr (List.getElem?_eq_getElem inside)⟩
    · rintro ⟨a, found⟩
      have found := Chart.arcAt_natCast.mp found
      exact ⟨Chart.lt_length_of_mem (List.mem_of_getElem? found),
        (List.getElem?_eq_some_iff.mp found).1⟩
  · intro work member
    rcases passes.of_mem reached member with ⟨_, ⟨a, current⟩, _, grows⟩
    refine ⟨a, current, Chart.arcAt_natCast.mpr ?_⟩
    rw [Worklist.current?_eq] at current
    exact grows.getElem? current
  · have total := passes.length_passed reached
    rw [start.passed_eq, List.length_nil, Nat.zero_add, Worklist.passed_eq_arcs behind] at total
    rw [← total, Chart.size_eq]
  · exact (passes.pairwise_grows reached).imp fun grows => grows.extended

end Problem

namespace Parser

/-- The states of the machine before its visits, in order. -/
def visits (parser : Parser) (start : Symbol) (tokens : List Text) :
    Except Fault (List Worklist) := do
  let (_, visited) ← (parser.problem start tokens).fillWith parser.policy 0
    (fun work seen => seen ++ [work]) []
  return visited

section Forest

variable {parser : Parser} {start : Symbol} {tokens : List Text} {chart : Chart}
  {trees : List Tree}

theorem parse_of_fill (run : parser.fill start tokens = .ok chart)
    (forest : chart.forest start = .ok trees) : parser.parse start tokens = .ok trees := by
  unfold fill at run
  unfold parse Problem.parse
  rw [run]
  exact forest

/-- A watched parse logs one entry after the chart has been filled. -/
theorem parseWatched_of_fillWatched {watch seen : Watch}
    (filled : parser.fillWatched start tokens watch = .ok (chart, seen))
    (forest : chart.forest start = .ok trees) :
    parser.parseWatched start tokens watch =
      .ok (trees, { seen with
        log := .parsed start tokens.length chart.size trees.length :: seen.log }) := by
  unfold parseWatched
  rw [filled]
  change (chart.forest start >>= _) = _
  rw [forest]
  rfl

theorem Ends.exists_parseWatched (ends : parser.Ends start tokens) :
    ∃ trees, parser.parse start tokens = .ok trees ∧
      ∀ watch, ∃ seen, parser.parseWatched start tokens watch = .ok (trees, seen) := by
  rcases ends with ⟨chart, run⟩
  have forest := Chart.forest_eq start (Problem.Filled.of_fill run).charted
  rcases Problem.fillWith_observed run with ⟨_, last, visited, _, _, rfl, _, watched⟩
  refine ⟨_, parse_of_fill run forest, fun watch => ?_⟩
  have filled : parser.fillWatched start tokens watch =
      .ok (last.chart, visited.foldl (fun watch work => Watch.observe work watch) watch) := by
    unfold fillWatched
    rw [watched]
    rfl
  exact ⟨_, parseWatched_of_fillWatched filled forest⟩

theorem parse_of_parseWatched {watch seen : Watch}
    (run : parser.parseWatched start tokens watch = .ok (trees, seen)) :
    parser.parse start tokens = .ok trees := by
  unfold parseWatched fillWatched at run
  cases filled : (parser.problem start tokens).fillWith parser.policy 0 Watch.observe watch with
  | error fault =>
      rw [filled] at run
      cases run
  | ok result =>
      simp only [filled, bind, Except.bind, pure, Except.pure] at run
      cases forest : result.1.chart.forest start with
      | error fault =>
          rw [forest] at run
          cases run
      | ok trees' =>
          rw [forest] at run
          cases run
          exact parse_of_fill (Problem.fill_of_fillWith filled) forest

end Forest

/-- What there is to say about watching the parse of a sentence that has a chart and
trees. -/
structure Watched (parser : Parser) (start : Symbol) (tokens : List Text) (chart : Chart)
    (trees : List Tree) (visited : List Worklist) : Prop where
  fill_eq : parser.fill start tokens = .ok chart
  parse_eq : parser.parse start tokens = .ok trees
  visits_eq : parser.visits start tokens = .ok visited
  visitedBy : chart.VisitedBy visited
  /-- Before each visit the chart can be listed. -/
  listed : ∀ work ∈ visited, ∃ sink, work.chart.write.finish .sound = (none, sink) ∧
    sink.text = work.chart.shown
  /-- No watch changes the chart or the trees, whatever it logs and whatever its
  trace refuses. -/
  same : ∀ watch : Watch, ∃ seen seen',
    parser.fillWatched start tokens watch = .ok (chart, seen) ∧
    parser.parseWatched start tokens watch = .ok (trees, seen') ∧ seen'.trace = seen.trace
  /-- A trace that refuses nothing gets the listings of the charts before the visits. -/
  traced : ∀ (watch : Watch) (sink : Sink), watch.trace = some sink → sink.IsSound →
    ∃ seen sink', parser.fillWatched start tokens watch = .ok (chart, seen) ∧
      seen.trace = some sink' ∧
      sink'.text = sink.text ++ visited.flatMap fun work => work.chart.shown

/-- A parse can be watched without being changed, and what is seen are visits to all
arcs of its chart, each of them once and in the order of their places. -/
theorem parse_watched (parser : Parser) (start : Symbol) (tokens : List Text)
    (ends : parser.Ends start tokens) :
    ∃ chart trees visited, parser.Watched start tokens chart trees visited := by
  rcases ends with ⟨chart, run⟩
  rcases Problem.fillWith_observed run with
    ⟨first, last, visited, seeded, passes, rfl, behind, watched⟩
  have charted : ∀ work ∈ visited, (parser.problem start tokens).Charted work.chart :=
    fun work member => (passes.of_mem (.seeded seeded) member).1.coherent.charted
  have forest : last.chart.forest start = .ok ((parser.problem start tokens).roots last.chart) :=
    Chart.forest_eq start (Problem.Filled.of_fill run).charted
  have filled : ∀ watch : Watch, parser.fillWatched start tokens watch =
      .ok (last.chart, visited.foldl (fun watch work => Watch.observe work watch) watch) := by
    intro watch
    unfold fillWatched
    rw [watched]
    rfl
  refine ⟨last.chart, (parser.problem start tokens).roots last.chart, visited, {
    fill_eq := run
    parse_eq := parse_of_fill run forest
    visits_eq := ?_
    visitedBy := passes.visitedBy seeded behind
    listed := ?_
    same := ?_
    traced := ?_ }⟩
  · unfold visits
    rw [watched, List.foldl_append_eq_append]
    change Except.ok _ = _
    rw [List.nil_append, ← List.flatMap_def, List.flatMap_singleton']
  · intro work member
    rcases (Chart.writes_shown (charted work member)).finish Sink.isSound_sound with
      ⟨sink, written, _, text⟩
    exact ⟨sink, written, text⟩
  · intro watch
    exact ⟨_, _, filled watch, parseWatched_of_fillWatched (filled watch) forest, rfl⟩
  · intro watch sink traced sound
    rcases Watch.foldl_observe_trace charted traced sound with ⟨sink', traced', written⟩
    exact ⟨_, sink', filled watch, traced', written⟩

/-- A row of nouns, under a policy that keeps every tree it builds. -/
theorem parse_watched_rows :
    ∃ chart trees visited, (Parser.mk nounRows .identity).Watched (.nonterminal "np")
      ["fish", "fish", "fish"] chart trees visited ∧ trees ≠ [] := by
  rcases parse_watched (Parser.mk nounRows .identity) (.nonterminal "np") ["fish", "fish", "fish"]
    (ends_of_acyclic nounRows_acyclic _ (by decide)) with ⟨chart, trees, visited, watched⟩
  exact ⟨chart, trees, visited, watched, ne_nil_of_nounRow (fun _ => id) 1 watched.parse_eq⟩

end Parser
end ParseForest
