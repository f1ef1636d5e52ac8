import Mathlib.Algebra.Order.BigOperators.Group.List
import Mathlib.Algebra.Order.Ring.Nat
import Mathlib.Data.Finset.Card
import Mathlib.Data.Finset.Lattice.Fold
import Mathlib.Logic.Relation
import ParseForest.Proofs.Worklist.Filled

namespace ParseForest

/-!
# The walk ends when unary rules form no cycle

The cell under the cursor can grow while it is walked through.  Its load
decreases with every visit all the same.  The load adds up the weights of the
arcs that are still to be visited, and two for every rule that has not been
predicted in the cell.

A complete arc weighs the more the later it begins and the more unary rules lie
above its head.  The arcs that it extends begin earlier, or they begin at the
same place and go up a unary rule, or they are not complete.  All of them
together weigh less than the arc did, because they are extensions of arcs of one
earlier cell, whose number is known.  An arc that waits weighs one and adds
predictions only, each of which takes away two and adds one.
-/

namespace Grammar

/-- A rule with the second symbol alone on its right leads from the first. -/
def Unary (g : Grammar) (first second : Symbol) : Prop :=
  ∃ r ∈ g.rules, r.head = first ∧ r.rhs = [second] ∧ second.isTerminal = false

/-- No nonterminal leads back to itself through unary rules. -/
def UnaryAcyclic (g : Grammar) : Prop :=
  ∀ s, ¬ Relation.TransGen g.Unary s s

/-- A number that unary rules make smaller shows that there is no cycle. -/
theorem unaryAcyclic_of_rank {g : Grammar} (rank : Symbol → Nat)
    (down : ∀ r ∈ g.rules, ∀ s ∈ r.rhs, r.length = 1 → s.isTerminal = false →
      rank s < rank r.head) : g.UnaryAcyclic := by
  have step : ∀ s s', g.Unary s s' → rank s' < rank s := by
    rintro s s' ⟨r, member, rfl, single, phrase⟩
    have length : r.length = 1 := congrArg List.length single
    exact down r member s' (single ▸ List.mem_singleton_self s') length phrase
  have chain : ∀ s s', Relation.TransGen g.Unary s s' → rank s' < rank s := by
    intro s s' steps
    induction steps with
    | single first => exact step _ _ first
    | tail _ last ih => exact Nat.lt_trans (step _ _ last) ih
  intro s loop
  exact Nat.lt_irrefl _ (chain s s loop)

open Classical in
/-- The number of heads from which unary rules lead to a symbol. -/
noncomputable def climb (g : Grammar) (s : Symbol) : Nat :=
  ((g.rules.map Rule.head).toFinset.filter fun first => Relation.TransGen g.Unary first s).card

theorem climb_le (g : Grammar) (s : Symbol) : g.climb s ≤ g.rules.length := by
  classical
  refine (Finset.card_filter_le _ _).trans ((List.toFinset_card_le _).trans ?_)
  rw [List.length_map]

/-- Above the head of a unary rule there is less to climb. -/
theorem climb_lt {g : Grammar} (acyclic : g.UnaryAcyclic) {first second : Symbol}
    (step : g.Unary first second) : g.climb first < g.climb second := by
  classical
  apply Finset.card_lt_card
  refine ⟨fun s member => ?_, fun contains => ?_⟩
  · simp only [Finset.mem_filter] at member ⊢
    exact ⟨member.1, member.2.tail step⟩
  · rcases id step with ⟨r, inGrammar, head, _⟩
    have known : first ∈ (g.rules.map Rule.head).toFinset :=
      List.mem_toFinset.mpr (List.mem_map.mpr ⟨r, inGrammar, head⟩)
    have loop := contains (Finset.mem_filter.mpr ⟨known, .single step⟩)
    exact acyclic first (Finset.mem_filter.mp loop).2

end Grammar

namespace Problem

/-! ## Ranks and weights -/

/-- The rank of a complete arc, by its beginning and by what lies above its
head.  An arc that waits has rank zero. -/
noncomputable def rank (p : Problem) (a : Arc) : Nat :=
  if a.isComplete then
    a.span.start.toNat * (p.grammar.rules.length + 1) + p.grammar.climb a.rule.head + 1
  else 0

/-- What an arc weighs, where `width` bounds the cells before its own. -/
noncomputable def weight (p : Problem) (width : Nat) (a : Arc) : Nat :=
  (width + 1) ^ p.rank a

/-- The number of rules that are not predicted in a cell. -/
def missing (p : Problem) (chart : Chart) (e : Nat) : Nat :=
  (p.grammar.rules.toFinset.filter fun r =>
    ∀ a ∈ chart.arcsIn e, a.key ≠ ⟨⟨e, e⟩, r, 0⟩).card

/-- The weight of what is to be visited, and two for each missing prediction. -/
noncomputable def load (p : Problem) (width : Nat) (work : Worklist) : Nat :=
  (((work.chart.arcsIn work.cell).drop work.index).map (p.weight width)).sum +
    2 * p.missing work.chart work.cell

/-- What a move can add to the load. -/
noncomputable def cost (p : Problem) (width : Nat) : Move → Nat
  | .extend b t => p.weight width (b.extend 0 t)
  | _ => 0

variable {p : Problem} {chart : Chart} {a b : Arc} {width : Nat}

theorem weight_of_waiting (waits : a.isComplete = false) : p.weight width a = 1 := by
  rw [weight, rank, if_neg (by rw [waits]; exact Bool.false_ne_true), pow_zero]

/-- An extension has a smaller rank than the arc whose tree it takes. -/
theorem rank_extend_lt (acyclic : p.grammar.UnaryAcyclic) (finished : a.Sound p)
    (waiting : b.Sound p) {t : Tree} (built : a.built = some t)
    (next : b.next = .ok (some t.head)) (meets : b.span.stop = a.span.start) (serial : Nat) :
    p.rank (b.extend serial t) < p.rank a := by
  have builds := finished.builds built
  have complete := builds.complete
  have lower := waiting.start_nonneg
  have order := waiting.start_le
  rw [meets] at order
  rw [rank, rank, if_pos complete]
  by_cases full : (b.extend serial t).isComplete = true
  · rw [if_pos full]
    change b.span.start.toNat * _ + p.grammar.climb b.rule.head + 1 < _
    have bound := p.grammar.climb_le b.rule.head
    by_cases same : b.span.start = a.span.start
    · -- Nothing was matched before, so the rule is unary.
      have nothing : b.matched = [] := by
        by_contra some
        have before := waiting.start_lt some
        omega
      have single : b.rule.rhs = [t.head] := by
        have length : b.rule.rhs.length = 1 := by
          have count := Arc.isComplete_iff.mp full
          rw [Arc.extend_dot, Arc.dot, nothing, List.length_nil] at count
          exact count.symm
        have first := waiting.next_eq_some.mp next
        rw [Arc.dot, nothing, List.length_nil] at first
        rcases List.length_eq_one_iff.mp length with ⟨s, only⟩
        rw [only, List.getElem?_cons_zero, Option.some.injEq] at first
        rw [only, first]
      have step : p.grammar.Unary b.rule.head a.rule.head :=
        ⟨b.rule, waiting.rule_mem, rfl, builds.applies.1 ▸ single, a.rule.head_isTerminal⟩
      have less := Grammar.climb_lt acyclic step
      rw [same]
      omega
    · have earlier : b.span.start.toNat + 1 ≤ a.span.start.toNat := by omega
      have product := Nat.mul_le_mul_right (p.grammar.rules.length + 1) earlier
      rw [Nat.add_mul, Nat.one_mul] at product
      omega
  · rw [if_neg full]
    omega

/-! ## The load under a proposal -/

/-- A new prediction in a cell was missing there. -/
theorem missing_append_predict (charted : p.Charted chart) {e : Nat} (inside : e < chart.length)
    {r : Rule} (member : r ∈ p.grammar.rules)
    (new : (chart.arcsIn e).any (chart.policy.merges (.predict r e)) = false) :
    p.missing (chart.append e (.predict r e)) e < p.missing chart e := by
  have absent : ∀ a ∈ chart.arcsIn e, a.key ≠ ⟨⟨e, e⟩, r, 0⟩ := by
    intro a old key
    have waits : a.isComplete = false :=
      (Arc.isComplete_eq_of_key (b := .predict r e) key).trans (Arc.predict_isComplete r e)
    have unbuilt := (charted.sound old).built_eq_none waits
    exact List.any_eq_false.mp new a old (Policy.merges_of_unbuilt key.symm rfl unbuilt)
  apply Finset.card_lt_card
  rw [Chart.append_arcsIn_self inside]
  refine ⟨fun s kept => ?_, fun contains => ?_⟩
  · simp only [Finset.mem_filter] at kept ⊢
    exact ⟨kept.1, fun a old => kept.2 a (List.mem_append_left _ old)⟩
  · have lost := contains (Finset.mem_filter.mpr ⟨List.mem_toFinset.mpr member, absent⟩)
    exact (Finset.mem_filter.mp lost).2 (.predict r e) (by simp) rfl

theorem missing_append_le {e i : Nat} (inside : e < chart.length) :
    p.missing (chart.append e a) i ≤ p.missing chart i := by
  apply Finset.card_le_card
  intro s kept
  simp only [Finset.mem_filter] at kept ⊢
  exact ⟨kept.1, fun b old => kept.2 b ((Chart.mem_arcsIn_append inside).mpr (Or.inl old))⟩

/-- A new arc in the cell of the cursor adds its weight to what is to be visited. -/
theorem load_append {work : Worklist} (inside : work.cell < work.chart.length)
    (front : work.index ≤ (work.chart.arcsIn work.cell).length) (serial : Nat) :
    p.load width { work with chart := work.chart.append work.cell a, serial := serial } =
      (((work.chart.arcsIn work.cell).drop work.index).map (p.weight width)).sum +
        p.weight width a + 2 * p.missing (work.chart.append work.cell a) work.cell := by
  rw [load, Chart.append_arcsIn_self inside, List.drop_append_of_le_length front, List.map_append,
    List.sum_append, List.map_singleton, List.sum_singleton]

/-- A proposal adds at most its cost to the load.  Scans must concern another
cell than that of the cursor, as they do. -/
theorem load_propose (width : Nat) {work work' : Worklist} (coherent : work.Coherent p) {m : Move}
    (grounded : m.Grounded p work.chart)
    (front : work.index ≤ (work.chart.arcsIn work.cell).length)
    (beyond : ∀ r pos token, m = .scan r pos token → pos + 1 ≠ (work.cell : Int))
    (run : work.propose m = .ok work') :
    p.load width work' ≤ p.load width work + p.cost width m := by
  rcases coherent.propose_cases grounded with ⟨e, stop, inside, ⟨_, run'⟩ | ⟨new, run'⟩⟩
  · rw [run, Except.ok.injEq] at run'
    subst run'
    exact Nat.le_add_right _ _
  · rw [run, Except.ok.injEq] at run'
    subst run'
    by_cases here : e = work.cell
    · subst here
      rw [load_append inside front, load]
      have fewer := missing_append_le (p := p) (a := m.arc work.serial) (i := work.cell) inside
      cases m with
      | predict r pos =>
          have position : pos = (work.cell : Int) := stop
          subst position
          have one : p.weight width (.predict r work.cell) = 1 :=
            weight_of_waiting (Arc.predict_isComplete r work.cell)
          have sound := (grounded.deduced work.serial).sound
          have less := missing_append_predict (r := r) coherent.charted inside sound.rule_mem new
          simp only [Move.arc, one, cost] at *
          omega
      | scan r pos token => exact absurd stop (beyond r pos token rfl)
      | extend b t =>
          have same : p.weight width (b.extend work.serial t) = p.weight width (b.extend 0 t) := rfl
          simp only [Move.arc, cost, same] at *
          omega
    · -- Nothing happens in the cell of the cursor.
      have untouched : (work.chart.append e (m.arc work.serial)).arcsIn work.cell =
          work.chart.arcsIn work.cell := Chart.append_arcsIn_of_ne (Ne.symm here)
      simp only [load, missing, untouched]
      exact Nat.le_add_right _ _

/-- Several proposals add at most their costs to the load. -/
theorem load_proposeAll (width : Nat) {work work' : Worklist} (coherent : work.Coherent p)
    {moves : List Move} (grounded : ∀ m ∈ moves, m.Grounded p work.chart)
    (front : work.index ≤ (work.chart.arcsIn work.cell).length)
    (beyond : ∀ r pos token, Move.scan r pos token ∈ moves → pos + 1 ≠ (work.cell : Int))
    (run : work.proposeAll moves = .ok work') :
    p.load width work' ≤ p.load width work + (moves.map (p.cost width)).sum := by
  induction moves generalizing work with
  | nil =>
      rw [Worklist.proposeAll, Except.ok.injEq] at run
      rw [run]
      exact Nat.le_add_right _ _
  | cons m moves ih =>
      rcases coherent.proposeAll_cons grounded run with
        ⟨next, first, rest, coherent', grounded', grows, cellEq, indexEq⟩
      have firstLoad := load_propose width coherent (grounded m (List.mem_cons_self ..))
        front (fun r pos token equal => beyond r pos token (equal ▸ List.mem_cons_self ..)) first
      have restLoad := ih coherent' grounded'
        (by
          rw [cellEq, indexEq]
          exact Nat.le_trans front (grows.extended work.cell).length_le)
        (fun r pos token member => by
          rw [cellEq]
          exact beyond r pos token (List.mem_cons_of_mem m member))
        rest
      rw [List.map_cons, List.sum_cons]
      omega

/-! ## The load under a visit -/

/-- A sum is less than the next power if it has few terms, all below the power. -/
theorem sum_lt_pow {costs : List Nat} {r : Nat} (few : costs.length ≤ width)
    (small : ∀ c ∈ costs, c ≤ (width + 1) ^ r) : costs.sum < (width + 1) ^ (r + 1) := by
  have bound := List.sum_le_card_nsmul costs _ small
  rw [Nat.nsmul_eq_mul] at bound
  have most := Nat.mul_le_mul_right ((width + 1) ^ r) few
  have one : 0 < (width + 1) ^ r := Nat.pow_pos (Nat.succ_pos width)
  rw [pow_succ, Nat.mul_comm, Nat.add_mul, Nat.one_mul]
  omega

/-- Every visit makes the load smaller. -/
theorem load_visit_lt (acyclic : p.grammar.UnaryAcyclic) {work work' : Worklist}
    (coherent : work.Coherent p) (current : work.current? = some a)
    (narrow : ∀ i < work.cell, (work.chart.arcsIn i).length ≤ width)
    (run : p.visit work a = .ok work') : p.load width work' < p.load width work := by
  rcases exists_visits coherent current run with ⟨moves, visits⟩
  rw [work.current?_eq] at current
  rcases List.getElem?_eq_some_iff.mp current with ⟨inside, entry⟩
  have charted := coherent.charted
  have deduced := charted.deduced work.cell a visits.member
  have after : p.load width { work with index := work.index + 1 } + p.weight width a =
      p.load width work := by
    simp only [load]
    rw [List.drop_eq_getElem_cons inside, entry, List.map_cons, List.sum_cons]
    omega
  have total := load_proposeAll width (p := p)
    (coherent.moved work.cell (work.index + 1)) visits.grounded inside
    (fun r pos token inMoves => by
      have stop := charted.tidy.located work.cell a visits.member
      cases visits.offers _ inMoves
      change a.span.stop + 1 ≠ (work.cell : Int)
      omega)
    visits.proposed
  suffices light : (moves.map (p.cost width)).sum < p.weight width a by omega
  cases built : a.built with
  | none =>
      have free : ∀ c ∈ moves.map (p.cost width), c = 0 := by
        intro c inCosts
        rcases List.mem_map.mp inCosts with ⟨m, inMoves, rfl⟩
        cases visits.offers m inMoves with
        | predict => rfl
        | scan => rfl
        | extend built' =>
            rw [built] at built'
            cases built'
      rw [List.sum_eq_zero free]
      exact Nat.pow_pos (Nat.succ_pos width)
  | some t =>
      rcases exists_start_cell charted deduced.sound with ⟨i, starts, _⟩
      have early := start_lt_of_built charted visits.member built starts
      -- The moves extend arcs of one earlier cell, so there are few of them.
      have few : (moves.map (p.cost width)).length ≤ width := by
        have movesEq := visits.moves_eq
        rw [moves_of_built charted deduced.sound built starts, Except.ok.injEq] at movesEq
        rw [← movesEq, List.length_map, List.length_map]
        exact (List.length_filter_le _ _).trans (narrow i early)
      have small : ∀ c ∈ moves.map (p.cost width), c ≤ (width + 1) ^ (p.rank a - 1) := by
        intro c inCosts
        rcases List.mem_map.mp inCosts with ⟨m, inMoves, rfl⟩
        cases visits.offers m inMoves with
        | predict => exact Nat.zero_le _
        | scan => exact Nat.zero_le _
        | @extend i' b t' built' starts' waits next =>
            have waiting := charted.deduced i' b waits
            have meets : b.span.stop = a.span.start :=
              (charted.tidy.located i' b waits).trans starts'.symm
            have less := rank_extend_lt acyclic deduced.sound waiting.sound built' next meets 0
            exact Nat.pow_le_pow_right (Nat.succ_pos width) (Nat.le_sub_one_of_lt less)
      have positive : p.rank a - 1 + 1 = p.rank a := by
        rw [rank, if_pos (deduced.sound.builds built).complete]
        rfl
      rw [weight, ← positive]
      exact sum_lt_pow few small

/-! ## The walk ends -/

variable {policy : Policy} {serial : Nat}

/-- The walk through a cell ends if unary rules form no cycle. -/
theorem exists_walkCell (acyclic : p.grammar.UnaryAcyclic) {σ : Type}
    (observe : Worklist → σ → σ) {work : Worklist} (reached : p.Reaches policy serial work)
    (seen : σ) : ∃ result, p.walkCell observe work seen = some result := by
  -- The cells before the cursor are final, so one bound serves for all visits.
  obtain ⟨width, narrow⟩ : ∃ width, ∀ i < work.cell, (work.chart.arcsIn i).length ≤ width :=
    ⟨(Finset.range work.cell).sup fun i => (work.chart.arcsIn i).length, fun i before =>
      Finset.le_sup (f := fun i => (work.chart.arcsIn i).length) (Finset.mem_range.mpr before)⟩
  induction measure : p.load width work using Nat.strong_induction_on generalizing work seen with
  | _ n ih =>
      rw [walkCell]
      cases current : work.current? with
      | none => exact ⟨_, rfl⟩
      | some a =>
          rcases exists_visit reached.coherent current with ⟨next, run, _, grows, _, cellEq, _⟩
          simp only [run]
          refine ih (p.load width next) ?_ (.visited reached current run) _ ?_ rfl
          · rw [← measure]
            exact load_visit_lt acyclic reached.coherent current narrow run
          · intro i before
            rw [cellEq] at before
            rw [grows.kept i before]
            exact narrow i before

/-- Under every policy, filling a chart comes to an end if unary rules form no
cycle and there is room for the sentence. -/
theorem exists_fill (acyclic : p.grammar.UnaryAcyclic) (policy : Policy)
    (fits : p.tokens.length < Chart.maxLength) : ∃ chart, p.fill policy = .ok chart := by
  apply exists_fill_of_walkCell fits
  intro work reached
  exact exists_walkCell acyclic _ reached ()

end Problem

theorem Parser.ends_of_acyclic {parser : Parser} {tokens : List Text}
    (acyclic : parser.grammar.UnaryAcyclic) (start : Symbol)
    (fits : tokens.length < Chart.maxLength) : parser.Ends start tokens :=
  Problem.exists_fill acyclic parser.policy fits

end ParseForest
