import Mathlib.Logic.Relation
import ParseForest.Proofs.Worklist.Visits

namespace ParseForest

/-!
# No step of a run can fail

A visit makes several proposals, and the chart is read and written between them.
Here a run is taken apart into its smallest steps: a proposal, the beginning of a
visit, and the move to the next cell.  At every moment of a run the arcs of a cell
fit the cell, whatever was proposed before, and what is still to be proposed is
grounded in the chart.  So each lookup that the next step makes finds something:
the symbol behind the dot, the tree of a complete arc, the cell where an arc
begins, the cell where a proposed arc ends.  A run goes on until the cursor is
behind the last cell, or for ever.
-/

/-- An arc is what it has to be in the cell at `e`. -/
structure Arc.Fits (p : Problem) (e : Nat) (a : Arc) : Prop where
  start_nonneg : 0 ≤ a.span.start
  start_le : a.span.start ≤ a.span.stop
  stop_eq : a.span.stop = e
  cell_le : e ≤ p.tokens.length
  dot_le : a.dot ≤ a.rule.length
  start_eq_stop_iff : a.span.start = a.span.stop ↔ a.dot = 0
  built_iff : (∃ t, a.built = some t) ↔ a.isComplete = true
  rule_mem : a.rule ∈ p.grammar.rules
  labels : a.matched.map Tree.head = a.rule.rhs.take a.dot

/-- A machine in the middle of a visit, with the moves that are still to be
proposed. -/
structure Moment where
  work : Worklist
  moves : List Move

/-- The cursor is behind the last cell and nothing is left to be proposed. -/
def Moment.Done (moment : Moment) : Prop :=
  moment.moves = [] ∧ moment.work.cell = moment.work.chart.length

namespace Problem

/-- The smallest steps of a run. -/
inductive Step (p : Problem) : Moment → Moment → Prop
  | propose {work next : Worklist} {m : Move} {moves : List Move}
      (run : work.propose m = .ok next) : Step p ⟨work, m :: moves⟩ ⟨next, moves⟩
  | visit {work : Worklist} {a : Arc} {moves : List Move} (current : work.current? = some a)
      (found : p.moves work.chart a = .ok moves) :
      Step p ⟨work, []⟩ ⟨{ work with index := work.index + 1 }, moves⟩
  | advance {work : Worklist} (done : work.current? = none)
      (before : work.cell < work.chart.length) : Step p ⟨work, []⟩ ⟨work.advance, []⟩

/-- The empty chart, with the seeds to be proposed. -/
def opening (p : Problem) (policy : Policy) : Moment :=
  ⟨p.blank policy 0, p.seeds⟩

/-- The moments of a run. -/
def Leads (p : Problem) (policy : Policy) : Moment → Prop :=
  Relation.ReflTransGen p.Step (p.opening policy)

/-- Nothing that may be looked up at this moment is missing. -/
structure Safe (p : Problem) (moment : Moment) : Prop where
  length_eq : moment.work.chart.length = p.tokens.length + 1
  fits : ∀ e, ∀ a ∈ moment.work.chart.arcsIn e, a.Fits p e
  /-- The symbol that an arc waits for is the one behind its dot. -/
  next_eq : ∀ e, ∀ a ∈ moment.work.chart.arcsIn e, a.next = .ok a.rule.rhs[a.dot]?
  /-- A complete arc has a tree. -/
  tree_eq : ∀ e, ∀ a ∈ moment.work.chart.arcsIn e, a.isComplete = true → ∃ t, a.tree = .ok t
  /-- The cell where an arc begins is there, and it is an earlier one if the arc is
  complete. -/
  origin : ∀ e, ∀ a ∈ moment.work.chart.arcsIn e, ∃ i : Nat, a.span.start = i ∧
    moment.work.chart.arcsAt a.span.start = .ok (moment.work.chart.arcsIn i) ∧
    (a.isComplete = true → i < e)
  /-- Any arc can be visited. -/
  moves_eq : ∀ e, ∀ a ∈ moment.work.chart.arcsIn e, ∃ moves, p.moves moment.work.chart a = .ok moves
  /-- The cell of each arc to be proposed is there. -/
  inserted : ∀ m ∈ moment.moves, ∀ serial, ∃ chart new,
    moment.work.chart.insert (m.arc serial) = .ok (chart, new)
  /-- The trees can be listed at any time. -/
  forest_eq : ∀ s, ∃ trees, moment.work.chart.forest s = .ok trees

variable {p : Problem} {policy : Policy} {moment next : Moment} {work last : Worklist}
  {chart : Chart} {moves : List Move} {a : Arc} {e : Nat}

/-! ## What holds at every moment -/

/-- The machine is coherent, what it will propose is grounded, and the cursor is not
beyond the end. -/
structure Ready (p : Problem) (moment : Moment) : Prop where
  coherent : moment.work.Coherent p
  grounded : ∀ m ∈ moment.moves, m.Grounded p moment.work.chart
  cell_le : moment.work.cell ≤ moment.work.chart.length

theorem ready_opening (p : Problem) (policy : Policy) : p.Ready (p.opening policy) where
  coherent := blank_coherent
  grounded _ member := grounded_of_mem_seeds member
  cell_le := Nat.zero_le _

/-- Every step keeps a machine ready. -/
theorem Ready.step (ready : p.Ready moment) (step : p.Step moment next) : p.Ready next := by
  rcases ready with ⟨coherent, grounded, inside⟩
  cases step with
  | @propose work next m moves run =>
      have first := grounded m (List.mem_cons_self ..)
      have sound := (first.deduced 0).sound
      rcases coherent.propose first (k := 0) (Int.le_trans sound.start_nonneg sound.start_le) with
        ⟨next', run', coherent', grows, _, cellEq, _⟩
      rw [run, Except.ok.injEq] at run'
      subst run'
      refine ⟨coherent', fun m' member => ?_, ?_⟩
      · exact (grounded m' (List.mem_cons_of_mem m member)).mono grows
      · rw [cellEq, grows.length_eq]
        exact inside
  | @visit work a moves current found =>
      rw [work.current?_eq] at current
      have member := List.mem_of_getElem? current
      rcases exists_moves coherent.charted (coherent.charted.sound member) with
        ⟨moves', found', offered⟩
      rw [found, Except.ok.injEq] at found'
      subst found'
      refine ⟨coherent.moved _ _, fun m inMoves => ?_, inside⟩
      exact ((offered m).mp inMoves).grounded coherent.charted member
  | advance done before => exact ⟨coherent.moved _ _, grounded, before⟩

theorem Leads.ready (leads : p.Leads policy moment) : p.Ready moment := by
  induction leads with
  | refl => exact ready_opening p policy
  | tail _ step ih => exact ih.step step

/-! ## What can be looked up -/

/-- An arc of a chart of deduced arcs fits its cell. -/
theorem Charted.fits (charted : p.Charted chart) (member : a ∈ chart.arcsIn e) : a.Fits p e := by
  have sound := charted.sound member
  have stop := charted.tidy.located e a member
  exact {
    start_nonneg := sound.start_nonneg
    start_le := sound.start_le
    stop_eq := stop
    cell_le := by
      have upper := sound.stop_le
      omega
    dot_le := sound.dot_le
    start_eq_stop_iff := by
      rw [Arc.dot, List.length_eq_zero_iff]
      constructor
      · intro empty
        by_contra some
        exact absurd (sound.start_lt some) (by omega)
      · intro nothing
        have tiled := sound.tiled
        rw [nothing] at tiled
        exact tiled
    built_iff :=
      ⟨fun ⟨t, built⟩ => (sound.builds built).complete, fun complete => sound.exists_tree complete⟩
    rule_mem := sound.rule_mem
    labels := sound.labels }

/-- A tidy chart takes a grounded proposal, whatever numbers it gets. -/
theorem Charted.exists_insert (charted : p.Charted chart) {m : Move}
    (grounded : m.Grounded p chart) (serial : Nat) :
    ∃ chart' new, chart.insert (m.arc serial) = .ok (chart', new) := by
  have sound := (grounded.deduced serial).sound
  have lower := Int.le_trans sound.start_nonneg sound.start_le
  have upper := sound.stop_le
  have stop := (Int.toNat_of_nonneg lower).symm
  have inside : (m.arc serial).span.stop.toNat < chart.length := by
    rw [charted.length_eq]
    omega
  rw [charted.tidy.insert_eq inside stop]
  split
  · exact ⟨_, _, rfl⟩
  · exact ⟨_, _, rfl⟩

/-- A ready machine misses nothing. -/
theorem Ready.safe (ready : p.Ready moment) : p.Safe moment := by
  have charted := ready.coherent.charted
  exact {
    length_eq := charted.length_eq
    fits := fun e a member => charted.fits member
    next_eq := fun e a member => (charted.sound member).next_eq
    tree_eq := by
      intro e a member complete
      rcases (charted.sound member).exists_tree complete with ⟨t, built⟩
      exact ⟨t, by rw [Arc.tree, built]⟩
    origin := by
      intro e a member
      rcases exists_start_cell charted (charted.sound member) with ⟨i, starts, inside⟩
      refine ⟨i, starts, by rw [starts, Chart.arcsAt_natCast inside], fun complete => ?_⟩
      rcases (charted.sound member).exists_tree complete with ⟨t, built⟩
      exact start_lt_of_built charted member built starts
    moves_eq := by
      intro e a member
      rcases exists_moves charted (charted.sound member) with ⟨moves, found, _⟩
      exact ⟨moves, found⟩
    inserted := fun m member serial => charted.exists_insert (ready.grounded m member) serial
    forest_eq := fun s => ⟨_, Chart.forest_eq s charted⟩ }

/-- A ready machine has come to the end or can make a step. -/
theorem Ready.progress (ready : p.Ready moment) : moment.Done ∨ ∃ next, p.Step moment next := by
  rcases moment with ⟨work, moves⟩
  cases moves with
  | cons m moves =>
      rcases ready.safe.inserted m (List.mem_cons_self ..) work.serial with ⟨chart, new, inserted⟩
      have run : work.propose m = .ok ⟨chart, work.cell, work.index, work.serial + 2⟩ := by
        simp only [Worklist.propose, inserted]
      exact Or.inr ⟨_, .propose run⟩
  | nil =>
      cases current : work.current? with
      | some a =>
          have member := List.mem_of_getElem? (work.current?_eq ▸ current)
          rcases ready.safe.moves_eq work.cell a member with ⟨moves, found⟩
          exact Or.inr ⟨_, .visit current found⟩
      | none =>
          rcases Nat.lt_or_eq_of_le ready.cell_le with before | last
          · exact Or.inr ⟨_, .advance current before⟩
          · exact Or.inl ⟨rfl, last⟩

/-! ## The steps of a walk -/

theorem propose_cell {m : Move} (run : work.propose m = .ok last) : last.cell = work.cell := by
  rcases work with ⟨chart, cell, index, serial⟩
  simp only [Worklist.propose] at run
  split at run
  · cases run
  · cases run
    rfl

theorem leads_proposeAll (run : work.proposeAll moves = .ok last) :
    Relation.ReflTransGen p.Step ⟨work, moves⟩ ⟨last, []⟩ := by
  induction moves generalizing work with
  | nil =>
      rw [Worklist.proposeAll, Except.ok.injEq] at run
      rw [run]
  | cons m moves ih =>
      cases proposed : work.propose m with
      | error fault =>
          simp only [Worklist.proposeAll, proposed] at run
          cases run
      | ok next =>
          simp only [Worklist.proposeAll, proposed] at run
          exact .head (.propose proposed) (ih run)

/-- The machine stands between two visits at some moment of a run. -/
theorem Reaches.leads (reached : p.Reaches policy 0 work)
    (inside : work.cell ≤ work.chart.length) : p.Leads policy ⟨work, []⟩ := by
  induction reached with
  | seeded run =>
      rw [seeded_eq policy 0 (fits_of_seeded run)] at run
      exact leads_proposeAll run
  | visited reached current run ih =>
      rcases exists_visits reached.coherent current run with ⟨moves, visits⟩
      rw [visits.cell_eq, visits.grows.length_eq] at inside
      exact ((ih inside).tail (.visit current visits.moves_eq)).trans
        (leads_proposeAll visits.proposed)
  | advanced reached done ih => exact (ih (Nat.le_of_succ_le inside)).tail (.advance done inside)

/-- From a moment that leads to the end, a walk through the cells that are left comes
to the same end. -/
theorem walk_of_leads (leads : Relation.ReflTransGen p.Step moment ⟨last, []⟩)
    (passed : last.cell = last.chart.length) (ready : p.Ready moment) {cells : Nat}
    (left : moment.work.cell + cells = moment.work.chart.length) :
    ∃ work, moment.work.proposeAll moment.moves = .ok work ∧
      p.walk (fun _ seen => seen) cells work () = some (.ok (last, ())) := by
  induction leads using Relation.ReflTransGen.head_induction_on generalizing cells with
  | refl =>
      have nothing : cells = 0 := by
        simp only at left
        omega
      rw [nothing]
      exact ⟨last, rfl, rfl⟩
  | head step rest ih =>
      have ready' := ready.step step
      have width := ready.coherent.charted.length_eq
      have width' := ready'.coherent.charted.length_eq
      cases step with
      | @propose work next m moves run =>
          have cellEq := propose_cell run
          have left' : next.cell + cells = next.chart.length := by
            simp only at left width width'
            omega
          rcases ih ready' left' with ⟨work, others, walked⟩
          exact ⟨work, by simp only [Worklist.proposeAll, run, others], walked⟩
      | @visit work a moves current found =>
          rcases ih ready' left with ⟨next, proposed, walked⟩
          have run : p.visit work a = .ok next := by simp only [visit, found, proposed]
          have member := List.mem_of_getElem? (work.current?_eq ▸ current)
          have before := Chart.lt_length_of_mem member
          obtain ⟨cells, rfl⟩ : ∃ k, cells = k + 1 := ⟨cells - 1, by simp only at left; omega⟩
          refine ⟨work, rfl, ?_⟩
          rw [walk] at walked ⊢
          rw [walkCell, current]
          simp only [run]
          exact walked
      | @advance work done before =>
          obtain ⟨cells, rfl⟩ : ∃ k, cells = k + 1 := ⟨cells - 1, by simp only at left; omega⟩
          have left' : work.advance.cell + cells = work.advance.chart.length := by
            simp only [Worklist.advance] at left ⊢
            omega
          rcases ih ready' left' with ⟨next, proposed, walked⟩
          rw [Worklist.proposeAll, Except.ok.injEq] at proposed
          subst proposed
          refine ⟨work, rfl, ?_⟩
          rw [walk, walkCell, done]
          exact walked

/-- A chart is filled exactly if it is the chart at the end of a run. -/
theorem fill_eq_ok_iff_leads (fits : p.tokens.length < Chart.maxLength) :
    p.fill policy = .ok chart ↔
      ∃ moment, p.Leads policy moment ∧ moment.Done ∧ moment.work.chart = chart := by
  constructor
  · intro run
    rcases Reaches.of_fill run with ⟨work, reached, rfl, passed, _⟩
    exact ⟨⟨work, []⟩, reached.leads (Nat.le_of_eq passed), ⟨rfl, passed⟩, rfl⟩
  · rintro ⟨⟨last, moves⟩, leads, ⟨rfl, passed⟩, rfl⟩
    have ready := ready_opening p policy
    rcases walk_of_leads leads passed ready (Nat.zero_add _) with ⟨first, proposed, walked⟩
    have seeded : p.seeded policy 0 = .ok first := (seeded_eq policy 0 fits).trans proposed
    refine fill_eq_ok_iff.mpr ⟨first, last, seeded, ?_, rfl⟩
    rw [(Reaches.seeded seeded).length_eq, ← ready.coherent.charted.length_eq]
    exact walked

end Problem

namespace Parser

/-- At every moment of a run the arcs fit their cells and nothing that is looked up is
missing, so the run can go on until it is done.  If it comes to an end, the
chart is there and so are its trees; otherwise every moment has a next one. -/
theorem fill_safe (parser : Parser) (start : Symbol) (tokens : List Text) :
    (Chart.maxLength ≤ tokens.length ∧ parser.fill start tokens = .error .badLength) ∨
    ((∀ moment, (parser.problem start tokens).Leads parser.policy moment →
        (parser.problem start tokens).Safe moment ∧
          (moment.Done ∨ ∃ next, (parser.problem start tokens).Step moment next)) ∧
      ((∃ chart trees, parser.fill start tokens = .ok chart ∧
          parser.parse start tokens = .ok trees ∧
          ∃ moment, (parser.problem start tokens).Leads parser.policy moment ∧ moment.Done ∧
            moment.work.chart = chart) ∨
        (parser.fill start tokens = .error .unfinished ∧
          ∀ moment, (parser.problem start tokens).Leads parser.policy moment →
            ∃ next, (parser.problem start tokens).Step moment next))) := by
  by_cases long : Chart.maxLength ≤ tokens.length
  · exact Or.inl ⟨long, Problem.fill_eq_badLength parser.policy long⟩
  have fits : tokens.length < Chart.maxLength := Nat.lt_of_not_le long
  refine Or.inr ⟨fun moment leads => ⟨leads.ready.safe, leads.ready.progress⟩, ?_⟩
  rcases Problem.fill_cases (p := parser.problem start tokens) parser.policy fits with
    endless | ⟨chart, run, filled⟩
  · refine Or.inr ⟨endless, fun moment leads => ?_⟩
    rcases leads.ready.progress with done | step
    · have run := (Problem.fill_eq_ok_iff_leads fits).mpr ⟨moment, leads, done, rfl⟩
      rw [endless] at run
      cases run
    · exact step
  · have trees : parser.parse start tokens = .ok ((parser.problem start tokens).roots chart) := by
      rw [parse, Problem.parse, run]
      exact Chart.forest_eq start filled.charted
    exact Or.inl ⟨chart, _, run, trees, (Problem.fill_eq_ok_iff_leads fits).mp run⟩

end Parser
end ParseForest
