import ParseForest.Proofs.Worklist.Following
import ParseForest.Proofs.Worklist.Tally

namespace ParseForest

/-!
# Runs that keep step

Two runs keep step if they visit arcs of the same shapes at the same places.  They
need not be about the same sentence or the same grammar, and their trees need not
have the same numbers.  The first one may have fewer cells, as long as the cells
that both have hold arcs of the same shapes.

Shapes are enough to say what a proposal does to a cell.  Whether its arc is rejected
can be seen from shapes under every policy, because a tree that has just been built
has a number of its own.  So what several proposals make of a cell is a fold over
their shapes, and two lists of moves have the same effect if the folds are the same.

If arcs of the same shapes make moves with the same effect, then the first run ends
if the second does, and their charts agree.
-/

/-! ## What a cell rejects -/

namespace Policy

/-- The policy takes the arc for one of the list, if its tree is new. -/
def Rejects (policy : Policy) (arcs : List Arc) (a : Arc) : Prop :=
  (policy = .span ∨ policy = .shape ∨ a.built = none) ∧ ∃ b ∈ arcs, policy.kind a = policy.kind b

variable {policy : Policy} {arcs arcs' : List Arc} {a a' : Arc}

theorem Rejects.of_shapes (rejects : policy.Rejects arcs a)
    (cells : arcs.map Arc.shape = arcs'.map Arc.shape) (alike : a.shape = a'.shape) :
    policy.Rejects arcs' a' := by
  rcases rejects with ⟨looks, b, member, kinds⟩
  have found := List.mem_map_of_mem (f := Arc.shape) member
  rw [cells] at found
  rcases List.mem_map.mp found with ⟨b', member', shape⟩
  have trees : a.built.map Tree.shape = a'.built.map Tree.shape := congrArg Arc.built alike
  refine ⟨looks.imp_right (Or.imp_right fun unbuilt => ?_), b', member', ?_⟩
  · rw [unbuilt, Option.map_none, eq_comm, Option.map_eq_none_iff] at trees
    exact trees
  · rw [← policy.kind_eq_of_shape alike, kinds, policy.kind_eq_of_shape shape]

open Classical in
/-- What a proposal makes of cell `e`, up to numbering: its arc goes to the end if it
ends there and is not rejected. -/
noncomputable def offer (policy : Policy) (e : Nat) (arcs : List Arc) (a : Arc) : List Arc :=
  if a.span.stop = e ∧ ¬ policy.Rejects arcs a then arcs ++ [a] else arcs

/-- Up to numbering, the moves have the same effect on all cells up to `k`. -/
def OffersAlike (policy : Policy) (k : Nat) (moves moves' : List Move) : Prop :=
  ∀ e ≤ k, ∀ arcs, (moves.map fun m => (m.arc 0).shape).foldl (policy.offer e) arcs =
    (moves'.map fun m => (m.arc 0).shape).foldl (policy.offer e) arcs

theorem offersAlike_of_map_eq (policy : Policy) {k : Nat} {moves moves' : List Move}
    (alike : moves.map (fun m => (m.arc 0).shape) = moves'.map fun m => (m.arc 0).shape) :
    policy.OffersAlike k moves moves' := by
  intro e _ arcs
  rw [alike]

end Policy

namespace Worklist

variable {p : Problem} {work next : Worklist} {m : Move} {e : Nat}

theorem Coherent.merges_iff (coherent : work.Coherent p) (grounded : m.Grounded p work.chart)
    {b : Arc} (member : b ∈ work.chart.arcsIn e) :
    work.chart.policy.merges (m.arc work.serial) b = true ↔
      work.chart.policy.Rejects [b] (m.arc work.serial) := by
  have sound := (grounded.deduced work.serial).sound
  have sound' := coherent.charted.sound member
  have agree : ∀ t u, (m.arc work.serial).built = some t → b.built = some u → t.Agree u :=
    fun t u built built' => coherent.numbered.agree grounded built member built'
  simp only [Policy.Rejects, List.mem_singleton, exists_eq_left]
  by_cases looks : work.chart.policy = .span ∨ work.chart.policy = .shape
  · rw [Policy.merges_iff_kind looks sound sound' agree, ← or_assoc]
    exact ⟨fun kinds => ⟨Or.inl looks, kinds⟩, And.right⟩
  · rw [← or_assoc]
    cases built : (m.arc work.serial).built with
    | some t =>
        rw [coherent.merges_eq_false (not_or.mp looks) built member]
        simp [looks]
    | none =>
        constructor
        · intro merged
          exact ⟨Or.inr rfl, Policy.kind_eq_iff.mpr (Policy.repeats_of_merges merged agree)⟩
        · rintro ⟨_, kinds⟩
          rcases Policy.kind_eq_iff.mp kinds with ⟨keys, trees⟩
          have unbuilt := trees (not_or.mp looks).1
          rw [built, Option.map_none, eq_comm, Option.map_eq_none_iff] at unbuilt
          exact Policy.merges_of_unbuilt keys built unbuilt

theorem Coherent.any_merges_iff (coherent : work.Coherent p) (grounded : m.Grounded p work.chart) :
    (work.chart.arcsIn e).any (work.chart.policy.merges (m.arc work.serial)) = true ↔
      work.chart.policy.Rejects ((work.chart.arcsIn e).map Arc.shape) (m.arc 0).shape := by
  have alike : (m.arc work.serial).shape = (m.arc 0).shape.shape := by
    rw [m.arc_shape, Arc.shape_shape]
  have cells : (work.chart.arcsIn e).map Arc.shape =
      ((work.chart.arcsIn e).map Arc.shape).map Arc.shape := by
    rw [List.map_map]
    exact List.map_congr_left fun a _ => a.shape_shape.symm
  rw [List.any_eq_true]
  constructor
  · rintro ⟨b, member, merged⟩
    rcases (coherent.merges_iff grounded member).mp merged with ⟨looks, c, only, kinds⟩
    rw [List.mem_singleton.mp only] at kinds
    exact Policy.Rejects.of_shapes ⟨looks, b, member, kinds⟩ cells alike
  · intro rejects
    rcases rejects.of_shapes cells.symm alike.symm with ⟨looks, b, member, kinds⟩
    exact ⟨b, member, (coherent.merges_iff grounded member).mpr
      ⟨looks, b, List.mem_singleton_self b, kinds⟩⟩

theorem Coherent.shapes_propose (coherent : work.Coherent p) (grounded : m.Grounded p work.chart)
    (run : work.propose m = .ok next) (e : Nat) :
    (next.chart.arcsIn e).map Arc.shape =
      work.chart.policy.offer e ((work.chart.arcsIn e).map Arc.shape) (m.arc 0).shape := by
  have alike := m.arc_shape work.serial
  have stops : (m.arc 0).shape.span.stop = (m.arc work.serial).span.stop :=
    congrArg (·.span.stop) alike.symm
  rw [Policy.offer, ← coherent.any_merges_iff grounded, stops]
  rcases coherent.propose_cases grounded with ⟨i, stop, inside, effect⟩
  simp only [stop, Int.natCast_inj]
  rcases effect with ⟨merged, run'⟩ | ⟨new, run'⟩
  · rw [run, Except.ok.injEq] at run'
    rw [run', if_neg]
    rintro ⟨rfl, new⟩
    exact new merged
  · rw [run, Except.ok.injEq] at run'
    rw [run']
    by_cases here : i = e
    · subst here
      rw [Chart.append_arcsIn_self inside, new, if_pos ⟨rfl, Bool.false_ne_true⟩, List.map_append,
        List.map_singleton, alike]
    · rw [Chart.append_arcsIn_of_ne (Ne.symm here), if_neg fun both => here both.1]

/-- What several proposals make of a cell can be seen from shapes. -/
theorem Coherent.shapes_proposeAll {moves : List Move} (coherent : work.Coherent p)
    (grounded : ∀ m ∈ moves, m.Grounded p work.chart) (run : work.proposeAll moves = .ok next)
    (e : Nat) : (next.chart.arcsIn e).map Arc.shape =
      (moves.map fun m => (m.arc 0).shape).foldl (work.chart.policy.offer e)
        ((work.chart.arcsIn e).map Arc.shape) := by
  induction moves generalizing work with
  | nil =>
      rw [Worklist.proposeAll, Except.ok.injEq] at run
      rw [run]
      rfl
  | cons m moves ih =>
      rcases coherent.proposeAll_cons grounded run with
        ⟨middle, proposed, rest, coherentNext, groundedNext, grows, _⟩
      rw [ih coherentNext groundedNext rest, grows.policy_eq, List.map_cons, List.foldl_cons,
        coherent.shapes_propose (grounded m (List.mem_cons_self ..)) proposed]

end Worklist

/-! ## Charts that agree up to a cell -/

/-- Up to numbering, the charts have the same arcs in all cells up to `k`. -/
def Chart.AgreeUpTo (k : Nat) (chart chart' : Chart) : Prop :=
  ∀ e ≤ k, (chart.arcsIn e).map Arc.shape = (chart'.arcsIn e).map Arc.shape

theorem Chart.AgreeUpTo.proposeAll {p p' : Problem} {work work' next next' : Worklist} {k : Nat}
    {moves moves' : List Move} (agree : AgreeUpTo k work.chart work'.chart)
    (coherent : work.Coherent p) (coherent' : work'.Coherent p')
    (policies : work'.chart.policy = work.chart.policy)
    (grounded : ∀ m ∈ moves, m.Grounded p work.chart)
    (grounded' : ∀ m ∈ moves', m.Grounded p' work'.chart)
    (alike : work.chart.policy.OffersAlike k moves moves')
    (run : work.proposeAll moves = .ok next) (run' : work'.proposeAll moves' = .ok next') :
    AgreeUpTo k next.chart next'.chart := by
  intro e upTo
  rw [coherent.shapes_proposeAll grounded run, coherent'.shapes_proposeAll grounded' run',
    policies, agree e upTo]
  exact alike e upTo _

namespace Problem

/-- A walk leaves the cells before its first one alone. -/
theorem walk_grows {p : Problem} {policy : Policy} {serial cells : Nat} {work last : Worklist}
    {σ : Type} {observe : Worklist → σ → σ} {seen seen' : σ}
    (run : p.walk observe cells work seen = some (.ok (last, seen')))
    (reached : p.Reaches policy serial work) : work.chart.Grows work.cell last.chart := by
  rcases walk_observed run reached with ⟨visited, passes, _⟩
  exact passes.grows reached

/-! ## Two machines -/

/-- The second machine keeps step with the first, as far as the first one goes. -/
structure KeepsStep (p p' : Problem) (policy : Policy) (work work' : Worklist) : Prop where
  reached : p.Reaches policy 0 work
  reached' : p'.Reaches policy 0 work'
  agree : Chart.AgreeUpTo p.tokens.length work.chart work'.chart
  cell_eq : work'.cell = work.cell
  index_eq : work'.index = work.index

variable {p p' : Problem} {policy : Policy} {work work' next' : Worklist} {a a' : Arc}

theorem KeepsStep.current_eq (both : p.KeepsStep p' policy work work')
    (upTo : work.cell ≤ p.tokens.length) :
    work.current?.map Arc.shape = work'.current?.map Arc.shape := by
  rw [work.current?_eq, work'.current?_eq, both.cell_eq, both.index_eq, ← List.getElem?_map,
    ← List.getElem?_map, both.agree work.cell upTo]

theorem KeepsStep.advance (both : p.KeepsStep p' policy work work')
    (done : work.current? = none) (done' : work'.current? = none) :
    p.KeepsStep p' policy work.advance work'.advance where
  reached := .advanced both.reached done
  reached' := .advanced both.reached' done'
  agree := both.agree
  cell_eq := congrArg (· + 1) both.cell_eq
  index_eq := rfl

/-- Complete arcs of one shape are offered to the same arcs. -/
theorem KeepsStep.map_moves_of_complete (both : p.KeepsStep p' policy work work') {e : Nat}
    (upTo : e ≤ p.tokens.length) (member : a ∈ work.chart.arcsIn e)
    (member' : a' ∈ work'.chart.arcsIn e) (alike : a.shape = a'.shape)
    (nothing : a.rule.rhs[a.dot]? = none) {moves moves' : List Move}
    (movesEq : p.moves work.chart a = .ok moves) (movesEq' : p'.moves work'.chart a' = .ok moves') :
    moves.map (fun m => (m.arc 0).shape) = moves'.map fun m => (m.arc 0).shape := by
  have charted := both.reached.coherent.charted
  have charted' := both.reached'.coherent.charted
  refine Chart.map_moves_of_complete charted charted' (charted.sound member)
    (charted'.sound member') alike nothing ?_ movesEq movesEq'
  intro i starts head
  have before : i ≤ p.tokens.length := by
    have order := (charted.sound member).start_le
    rw [charted.tidy.located e a member, starts] at order
    omega
  rw [Chart.map_filter_waiting, Chart.map_filter_waiting, both.agree i before]

/-- As far as the first problem goes, the other one makes the same moves. -/
structure Paces (p p' : Problem) (policy : Policy) : Prop where
  shorter : p.tokens.length ≤ p'.tokens.length
  seeds : policy.OffersAlike p.tokens.length p.seeds p'.seeds
  moves : ∀ {work work' : Worklist} {a a' : Arc} {e : Nat} {moves moves' : List Move},
    p.KeepsStep p' policy work work' → e ≤ p.tokens.length → a ∈ work.chart.arcsIn e →
      a' ∈ work'.chart.arcsIn e → a.shape = a'.shape → p.moves work.chart a = .ok moves →
        p'.moves work'.chart a' = .ok moves' → policy.OffersAlike p.tokens.length moves moves'

/-- While the second machine visits an arc, the first one visits an arc of the same
shape, and afterwards they still keep step. -/
theorem KeepsStep.visit (both : p.KeepsStep p' policy work work') (paces : p.Paces p' policy)
    (upTo : work.cell ≤ p.tokens.length) (current' : work'.current? = some a')
    (run' : p'.visit work' a' = .ok next') :
    ∃ a next, work.current? = some a ∧ p.visit work a = .ok next ∧ next.cell = work.cell ∧
      p.KeepsStep p' policy next next' := by
  rcases both.reached.invariant with ⟨coherent, policyEq, _⟩
  rcases both.reached'.invariant with ⟨coherent', policyEq', _⟩
  have shapes := both.current_eq upTo
  rw [current', Option.map_some, Option.map_eq_some_iff] at shapes
  rcases shapes with ⟨a, current, alike⟩
  rcases exists_visit coherent current with ⟨next, run, _⟩
  rcases exists_visits coherent current run with ⟨moves, visits⟩
  rcases exists_visits coherent' current' run' with ⟨moves', visits'⟩
  have member' := visits'.member
  rw [both.cell_eq] at member'
  have offers := paces.moves both upTo visits.member member' alike visits.moves_eq visits'.moves_eq
  refine ⟨a, next, current, run, visits.cell_eq, .visited both.reached current run,
    .visited both.reached' current' run', ?_, ?_, ?_⟩
  · refine Chart.AgreeUpTo.proposeAll ?_ (coherent.moved work.cell (work.index + 1))
      (coherent'.moved work'.cell (work'.index + 1)) ?_ visits.grounded visits'.grounded
      ?_ visits.proposed visits'.proposed
    · exact both.agree
    · exact policyEq'.trans policyEq.symm
    · exact policyEq.symm ▸ offers
  · rw [visits'.cell_eq, visits.cell_eq, both.cell_eq]
  · rw [visits'.index_eq, visits.index_eq, both.index_eq]

theorem Paces.seeded (paces : p.Paces p' policy) {first first' : Worklist}
    (run : p.seeded policy 0 = .ok first) (run' : p'.seeded policy 0 = .ok first') :
    p.KeepsStep p' policy first first' := by
  have start := Seeded.of_run run
  have start' := Seeded.of_run run'
  refine ⟨.seeded run, .seeded run', ?_, start'.cell_eq.trans start.cell_eq.symm,
    start'.index_eq.trans start.index_eq.symm⟩
  rw [seeded_eq policy 0 (fits_of_seeded run)] at run
  rw [seeded_eq policy 0 (fits_of_seeded run')] at run'
  refine Chart.AgreeUpTo.proposeAll ?_ (blank_coherent (p := p)) (blank_coherent (p := p')) rfl
    (fun m member => grounded_of_mem_seeds member) (fun m member => grounded_of_mem_seeds member)
    paces.seeds run run'
  intro e _
  rw [blank_arcsIn, blank_arcsIn]

/-! ## Whole runs -/

theorem KeepsStep.walkCell (both : p.KeepsStep p' policy work work') (paces : p.Paces p' policy)
    (upTo : work.cell ≤ p.tokens.length) {result : Except Fault (Worklist × Unit)}
    (run' : p'.walkCell (fun _ seen => seen) work' () = some result) :
    ∃ last last', result = .ok (last', ()) ∧
      p.walkCell (fun _ seen => seen) work () = some (.ok (last, ())) ∧
      last.current? = none ∧ last'.current? = none ∧ last.cell = work.cell ∧
      p.KeepsStep p' policy last last' := by
  -- By induction on the second run, which is the one that is known to end.
  revert work both upTo
  refine walkCell.partial_correctness p' (fun _ seen => seen) (fun work' _ result =>
    ∀ {work}, p.KeepsStep p' policy work work' → work.cell ≤ p.tokens.length →
      ∃ last last', result = .ok (last', ()) ∧
        p.walkCell (fun _ seen => seen) work () = some (.ok (last, ())) ∧
        last.current? = none ∧ last'.current? = none ∧ last.cell = work.cell ∧
        p.KeepsStep p' policy last last') ?_ work' () result run'
  intro approx ih work' _ result run' work both upTo
  cases current' : work'.current? with
  | none =>
      have done := both.current_eq upTo
      rw [current', Option.map_none, Option.map_eq_none_iff] at done
      simp only [current', Option.some.injEq] at run'
      refine ⟨work, work', run'.symm, ?_, done, current', rfl, both⟩
      rw [Problem.walkCell, done]
  | some a' =>
      rcases exists_visit both.reached'.coherent current' with ⟨next', visited', _⟩
      simp only [current', visited'] at run'
      rcases both.visit paces upTo current' visited' with
        ⟨a, next, current, visited, cellEq, both'⟩
      rcases ih next' _ result run' both' (cellEq.symm ▸ upTo) with
        ⟨last, last', equal, walked, done, done', lastEq, bothLast⟩
      refine ⟨last, last', equal, ?_, done, done', lastEq.trans cellEq, bothLast⟩
      rw [Problem.walkCell, current]
      simp only [visited]
      exact walked

/-- The first run ends with its last cell.  Whatever the second one goes on to do
concerns later cells. -/
theorem KeepsStep.walk (both : p.KeepsStep p' policy work work') (paces : p.Paces p' policy)
    {cells more : Nat} (left : work.cell + cells = p.tokens.length + 1) {last' : Worklist}
    (run' : p'.walk (fun _ seen => seen) (cells + more) work' () = some (.ok (last', ()))) :
    ∃ last, p.walk (fun _ seen => seen) cells work () = some (.ok (last, ())) ∧
      Chart.AgreeUpTo p.tokens.length last.chart last'.chart := by
  induction cells generalizing work work' with
  | zero =>
      have grows := walk_grows run' both.reached'
      refine ⟨work, rfl, fun e upTo => ?_⟩
      rw [grows.kept e (by rw [both.cell_eq]; omega)]
      exact both.agree e upTo
  | succ cells ih =>
      rw [Nat.add_right_comm] at run'
      cases walked' : p'.walkCell (fun _ seen => seen) work' () with
      | none => simp [Problem.walk, walked'] at run'
      | some inner =>
          rcases both.walkCell paces (by omega) walked' with
            ⟨middle, middle', rfl, walked, done, done', cellEq, bothMiddle⟩
          simp only [Problem.walk, walked'] at run'
          simp only [Problem.walk, walked]
          refine ih (bothMiddle.advance done done') ?_ run'
          change middle.cell + 1 + cells = p.tokens.length + 1
          omega

/-- If the second run ends, then so does the first, with a chart that agrees with
that of the second. -/
theorem Paces.exists_fill (paces : p.Paces p' policy) {whole : Chart}
    (run' : p'.fill policy = .ok whole) :
    ∃ chart, p.fill policy = .ok chart ∧ Chart.AgreeUpTo p.tokens.length chart whole := by
  have shorter := paces.shorter
  have fits' := fits_of_fill run'
  rcases fill_eq_ok_iff.mp run' with ⟨first', last', seeded', walked', rfl⟩
  rcases exists_seeded policy 0 (Nat.lt_of_le_of_lt shorter fits') with ⟨first, run, start⟩
  have room : first'.chart.length =
      first.chart.length + (p'.tokens.length - p.tokens.length) := by
    rw [(Reaches.seeded run).length_eq, (Reaches.seeded seeded').length_eq]
    omega
  rw [room] at walked'
  rcases (paces.seeded run seeded').walk paces
    (by rw [start.cell_eq, (Reaches.seeded run).length_eq, Nat.zero_add]) walked' with
    ⟨last, walked, agree⟩
  exact ⟨last.chart, fill_eq_ok_iff.mpr ⟨first, last, run, walked, rfl⟩, agree⟩

end Problem
end ParseForest
