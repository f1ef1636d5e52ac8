import ParseForest.Proofs.Chart.Firsts
import ParseForest.Proofs.Worklist.Visits

namespace ParseForest

/-!
# A run under a coarse policy follows one under a fine policy

Both runs fill a chart for the same sentence, and the fine one visits more arcs.
When it visits the first arc of a kind, the other run has an arc of the same
shape under its cursor and visits it.  The two arcs make moves that are alike,
because arcs that wait are first arcs under every policy.  When the fine run
visits a later arc of some kind, the other run stays where it is: everything
that the arc offers is of a known kind, since an arc of its own kind has been
visited before in the same cell.

So the coarse run ends if the fine one does, and its chart has the first arc of
each kind, in the same order.
-/

namespace Chart

variable {p : Problem} {chart chart' : Chart} {coarse : Policy}

/-- Arcs that wait are among the first arcs. -/
theorem filter_waiting_firsts (charted : p.Charted chart) (coarse : Policy) (e : Nat)
    (head : Symbol) :
    (chart.firsts coarse e).filter (fun b => b.rule.rhs[b.dot]? = some head) =
      (chart.arcsIn e).filter fun b => b.rule.rhs[b.dot]? = some head := by
  apply filter_eraseDupsBy
  refine (charted.waiting_distinct e).imp ?_
  intro a b distinct awaits
  apply Bool.eq_false_iff.mpr
  intro merged
  have waits := Arc.isComplete_of_awaits (of_decide_eq_true awaits)
  exact distinct waits (Policy.key_eq_of_merges merged)

theorem map_filter_waiting (arcs : List Arc) (head : Symbol) :
    (arcs.filter fun b => b.rule.rhs[b.dot]? = some head).map Arc.shape =
      (arcs.map Arc.shape).filter fun b => b.rule.rhs[b.dot]? = some head := by
  have forget : (fun b : Arc => decide (b.rule.rhs[b.dot]? = some head)) =
      (fun b => decide (b.rule.rhs[b.dot]? = some head)) ∘ Arc.shape := by
    funext b
    rw [Function.comp_apply, Arc.shape_dot]
    rfl
  conv => lhs; rw [forget, ← List.filter_map]

theorem SameFirsts.waiting (first : SameFirsts coarse chart chart') (charted : p.Charted chart)
    (charted' : p.Charted chart') (e : Nat) (head : Symbol) :
    ((chart.arcsIn e).filter fun b => b.rule.rhs[b.dot]? = some head).map Arc.shape =
      ((chart'.arcsIn e).filter fun b => b.rule.rhs[b.dot]? = some head).map Arc.shape := by
  rw [← filter_waiting_firsts charted coarse, ← filter_waiting_firsts charted' coarse,
    map_filter_waiting, map_filter_waiting, first e]

/-- Arcs of the same shapes have extensions of the same shapes. -/
theorem map_extend_shape {arcs arcs' : List Arc} {t t' : Tree}
    (cells : arcs.map Arc.shape = arcs'.map Arc.shape) (trees : t.shape = t'.shape) :
    (arcs.map (Move.extend · t)).map (fun m => (m.arc 0).shape) =
      (arcs'.map (Move.extend · t')).map fun m => (m.arc 0).shape := by
  have extended : ∀ u : Tree, (fun m : Move => (m.arc 0).shape) ∘ (Move.extend · u) =
      (fun b => b.extend 0 u.shape) ∘ Arc.shape := by
    intro u
    funext b
    exact Arc.shape_extend 0 b u
  rw [List.map_map, List.map_map, extended, extended, ← List.map_map, ← List.map_map, cells, trees]

/-- Complete arcs of one shape make moves that are alike if the same arcs waited
where they begin. -/
theorem map_moves_of_complete {p' : Problem} (charted : p.Charted chart)
    (charted' : p'.Charted chart') {a a' : Arc} (sound : a.Sound p) (sound' : a'.Sound p')
    (alike : a.shape = a'.shape) (nothing : a.rule.rhs[a.dot]? = none)
    (waiting : ∀ i : Nat, a.span.start = i → ∀ head : Symbol,
      ((chart.arcsIn i).filter fun b => b.rule.rhs[b.dot]? = some head).map Arc.shape =
        ((chart'.arcsIn i).filter fun b => b.rule.rhs[b.dot]? = some head).map Arc.shape)
    {moves moves' : List Move} (movesEq : p.moves chart a = .ok moves)
    (movesEq' : p'.moves chart' a' = .ok moves') :
    moves.map (fun m => (m.arc 0).shape) = moves'.map fun m => (m.arc 0).shape := by
  rcases sound.exists_tree (sound.isComplete_of_none nothing) with ⟨t, built⟩
  have trees : a.built.map Tree.shape = a'.built.map Tree.shape := congrArg Arc.built alike
  rw [built, Option.map_some, eq_comm, Option.map_eq_some_iff] at trees
  rcases trees with ⟨t', built', shape⟩
  rcases Problem.exists_start_cell charted sound with ⟨i, starts, _⟩
  have starts' : a'.span.start = i := by
    rw [← (Arc.key_eq.mp (Arc.key_eq_of_shape alike)).1]
    exact starts
  rw [Problem.moves_of_built charted sound built starts, Except.ok.injEq] at movesEq
  rw [Problem.moves_of_built charted' sound' built' starts', Except.ok.injEq,
    Tree.head_eq_of_shape shape] at movesEq'
  rw [← movesEq, ← movesEq']
  exact map_extend_shape (waiting i starts t.head) shape.symm

/-- Arcs of one shape make moves that are alike. -/
theorem SameFirsts.moves (first : SameFirsts coarse chart chart') (charted : p.Charted chart)
    (charted' : p.Charted chart') {a a' : Arc} (sound : a.Sound p) (sound' : a'.Sound p)
    (alike : a.shape = a'.shape) {moves moves' : List Move}
    (movesEq : p.moves chart a = .ok moves) (movesEq' : p.moves chart' a' = .ok moves') :
    moves.map (fun m => (m.arc 0).shape) = moves'.map fun m => (m.arc 0).shape := by
  cases awaits : a.rule.rhs[a.dot]? with
  | some awaited =>
      rcases Arc.key_eq.mp (Arc.key_eq_of_shape alike) with ⟨span, rule, dot⟩
      rw [Problem.moves_of_waiting sound awaits, Except.ok.injEq] at movesEq
      rw [rule, dot] at awaits
      rw [Problem.moves_of_waiting sound' awaits, Except.ok.injEq] at movesEq'
      rw [← movesEq, ← movesEq', span]
  | none =>
      exact map_moves_of_complete charted charted' sound sound' alike awaits
        (fun i _ => first.waiting charted charted' i) movesEq movesEq'

end Chart

namespace Problem

variable {p : Problem} {policy coarse : Policy} {work work' next : Worklist} {a : Arc}

/-! ## Later arcs of a kind -/

theorem kind_extend_eq {t u : Tree} (stops : t.span.stop = u.span.stop)
    (shapes : coarse ≠ .span → t.shape = u.shape) (b : Arc) :
    coarse.kind (b.extend 0 t) = coarse.kind (b.extend 0 u) := by
  apply Policy.kind_eq_iff.mpr
  constructor
  · rw [Arc.extend_key, Arc.extend_key, stops]
  · intro different
    have same : (b.extend 0 t).shape = (b.extend 0 u).shape := by
      rw [Arc.shape_extend, Arc.shape_extend, shapes different]
    exact congrArg Arc.built same

/-- What an arc offers is known if an arc of its kind has been visited before in
the cell of the cursor. -/
theorem Settled.knows (settled : p.Settled work) (coherent : work.Coherent p)
    (refines : work.chart.policy.Refines coarse) (current : work.current? = some a) {b : Arc}
    (visited : b ∈ (work.chart.arcsIn work.cell).take work.index)
    (kinds : coarse.kind b = coarse.kind a) {m : Move} (offer : p.Offers work.chart a m) :
    work.chart.Knows coarse m := by
  rw [work.current?_eq] at current
  rcases List.mem_take_iff_getElem.mp visited with ⟨j, before, entry⟩
  have found : (work.chart.arcsIn work.cell)[j]? = some b := by
    rw [← entry]
    exact List.getElem?_eq_getElem _
  have keys : b.key = a.key := congrArg Prod.fst kinds
  have sound := coherent.charted.sound (List.mem_of_getElem? current)
  have sound' := coherent.charted.sound (List.mem_of_getElem? found)
  -- Two arcs that wait would be one and the same.
  have complete : a.isComplete = true := by
    apply Bool.not_eq_false _ |>.mp
    intro waits
    rcases List.getElem?_eq_some_iff.mp current with ⟨inside, here⟩
    rcases List.getElem?_eq_some_iff.mp found with ⟨inside', there⟩
    have apart := List.pairwise_iff_getElem.mp (coherent.charted.waiting_distinct work.cell)
      j work.index inside' inside (by omega)
    rw [here, there] at apart
    exact apart waits keys.symm
  have full : a.rule.rhs[a.dot]? = none :=
    List.getElem?_eq_none (Nat.le_of_eq (Arc.isComplete_iff.mp complete).symm)
  cases offer with
  | predict next _ _ =>
      rw [sound.next_eq, full] at next
      cases next
  | scan next _ _ _ _ =>
      rw [sound.next_eq, full] at next
      cases next
  | @extend i w t built starts waits next =>
      rcases sound'.exists_tree ((Arc.isComplete_eq_of_key keys).trans complete) with ⟨u, built'⟩
      have builds := sound.builds built
      have builds' := sound'.builds built'
      rcases Arc.key_eq.mp keys with ⟨span, rule, _⟩
      have heads : u.head = t.head := by rw [builds.applies.1, builds'.applies.1, rule]
      have spans : u.span = t.span := by rw [builds.span_eq, builds'.span_eq, span]
      rcases settled.visited work.cell j b (Or.inr ⟨rfl, by omega⟩) found _
        (.extend built' (span ▸ starts) waits (heads ▸ next)) with ⟨e, d, member, repeated⟩
      refine ⟨e, d, member, ?_⟩
      rw [← refines.kind_eq repeated]
      apply kind_extend_eq (congrArg Span.stop spans)
      intro different
      have shapes := (Policy.kind_eq_iff.mp kinds).2 different
      rw [built, built', Option.map_some, Option.map_some, Option.some.injEq] at shapes
      exact shapes

/-! ## Single steps -/

/-- The second machine, which runs under the coarse policy, follows the first. -/
structure Follows (p : Problem) (policy coarse : Policy) (work work' : Worklist) : Prop where
  reached : p.Reaches policy 0 work
  reached' : p.Reaches coarse 0 work'
  firsts : Chart.SameFirsts coarse work.chart work'.chart
  cell_eq : work'.cell = work.cell
  /-- The cursor stands behind the first arcs of what the other one has passed. -/
  index_eq : work'.index =
    (((work.chart.arcsIn work.cell).take work.index).eraseDupsBy coarse.merges).length

theorem Follows.arcsIn_shapes (follows : p.Follows policy coarse work work') (e : Nat) :
    (work'.chart.arcsIn e).map Arc.shape = (work.chart.firsts coarse e).map Arc.shape := by
  rcases follows.reached'.invariant with ⟨coherent, policyEq, _⟩
  have all := coherent.charted.tidy.firsts_eq e
  rw [policyEq] at all
  rw [follows.firsts e, all]

/-- Where the fine run has the first arc of a kind, the other run has an arc of
the same shape. -/
theorem Follows.exists_current (follows : p.Follows policy coarse work work')
    (current : work.current? = some a)
    (first : ((work.chart.arcsIn work.cell).take work.index ++ [a]).eraseDupsBy coarse.merges =
      ((work.chart.arcsIn work.cell).take work.index).eraseDupsBy coarse.merges ++ [a]) :
    ∃ a', work'.current? = some a' ∧ a.shape = a'.shape := by
  have split : (work.chart.arcsIn work.cell).take work.index ++ [a] ++
      (work.chart.arcsIn work.cell).drop (work.index + 1) = work.chart.arcsIn work.cell := by
    rw [← Worklist.take_visit current (.refl work.cell work.chart), List.take_append_drop]
  have begins := eraseDupsBy_prefix coarse.merges
    ((work.chart.arcsIn work.cell).take work.index ++ [a])
    ((work.chart.arcsIn work.cell).drop (work.index + 1))
  rw [split, first] at begins
  rcases begins with ⟨rest, whole⟩
  have entry : ((work'.chart.arcsIn work.cell).map Arc.shape)[work'.index]? = some a.shape := by
    rw [follows.arcsIn_shapes, Chart.firsts, ← whole, follows.index_eq]
    simp
  rw [List.getElem?_map, Option.map_eq_some_iff] at entry
  rcases entry with ⟨a', found, shape⟩
  refine ⟨a', ?_, shape.symm⟩
  rw [work'.current?_eq, follows.cell_eq]
  exact found

/-- Up to the cursor, the visited arc is a first arc if its kind is new. -/
theorem firsts_visit (coherent : work.Coherent p) (looks : coarse = .span ∨ coarse = .shape)
    (member : a ∈ work.chart.arcsIn work.cell) :
    ((∃ b ∈ (work.chart.arcsIn work.cell).take work.index, coarse.kind b = coarse.kind a) →
      ((work.chart.arcsIn work.cell).take work.index ++ [a]).eraseDupsBy coarse.merges =
        ((work.chart.arcsIn work.cell).take work.index).eraseDupsBy coarse.merges) ∧
    ((¬ ∃ b ∈ (work.chart.arcsIn work.cell).take work.index, coarse.kind b = coarse.kind a) →
      ((work.chart.arcsIn work.cell).take work.index ++ [a]).eraseDupsBy coarse.merges =
        ((work.chart.arcsIn work.cell).take work.index).eraseDupsBy coarse.merges ++ [a]) := by
  apply eraseDupsBy_concat_of_kinds
  have inside : ∀ b ∈ (work.chart.arcsIn work.cell).take work.index ++ [a],
      b ∈ work.chart.arcsIn work.cell := by
    intro b found
    rcases List.mem_append.mp found with old | new
    · exact List.mem_of_mem_take old
    · rw [List.mem_singleton.mp new]
      exact member
  intro b found c found'
  exact coherent.merges_iff_kind looks b (inside b found) c (inside c found')

/-- While the fine run visits a later arc of a kind, the other run stays. -/
theorem Follows.stay (follows : p.Follows policy coarse work work')
    (refines : policy.Refines coarse) (current : work.current? = some a)
    (run : p.visit work a = .ok next)
    (repeated : ∃ b ∈ (work.chart.arcsIn work.cell).take work.index,
      coarse.kind b = coarse.kind a) : p.Follows policy coarse next work' := by
  rcases follows.reached.invariant with ⟨coherent, policyEq, settled⟩
  rcases exists_visits coherent current run with ⟨moves, visits⟩
  have fine : work.chart.policy.Refines coarse := policyEq.symm ▸ refines
  have known : ∀ m ∈ moves, work.chart.Knows coarse m := by
    rcases repeated with ⟨b, visited, same⟩
    intro m inMoves
    exact settled.knows coherent fine current visited same (visits.offers m inMoves)
  have unchanged := Chart.firsts_proposeAll_of_known
    (coherent.moved work.cell (work.index + 1)) fine visits.grounded known visits.proposed
  refine ⟨.visited follows.reached current run, follows.reached', ?_,
    follows.cell_eq.trans visits.cell_eq.symm, ?_⟩
  · intro e
    rw [unchanged e]
    exact follows.firsts e
  · rw [visits.cell_eq, visits.index_eq, Worklist.take_visit current visits.grows,
      (firsts_visit coherent refines.looks visits.member).1 repeated]
    exact follows.index_eq

/-- While the fine run visits the first arc of a kind, the other run visits an arc
of that kind too. -/
theorem Follows.step (follows : p.Follows policy coarse work work')
    (refines : policy.Refines coarse) (current : work.current? = some a)
    (run : p.visit work a = .ok next)
    (new : ¬ ∃ b ∈ (work.chart.arcsIn work.cell).take work.index,
      coarse.kind b = coarse.kind a) :
    ∃ a' next', work'.current? = some a' ∧ p.visit work' a' = .ok next' ∧
      p.Follows policy coarse next next' := by
  rcases follows.reached.invariant with ⟨coherent, policyEq, _⟩
  rcases follows.reached'.invariant with ⟨coherent', policyEq', _⟩
  rcases exists_visits coherent current run with ⟨moves, visits⟩
  have first := (firsts_visit coherent refines.looks visits.member).2 new
  rcases follows.exists_current current first with ⟨a', current', alike⟩
  rcases exists_visit coherent' current' with ⟨next', run', _⟩
  rcases exists_visits coherent' current' run' with ⟨moves', visits'⟩
  have same : Chart.SameFirsts coarse next.chart next'.chart := by
    refine Chart.SameFirsts.proposeAll ?_ (coherent.moved work.cell (work.index + 1))
      (coherent'.moved work'.cell (work'.index + 1)) ?_ ?_ visits.grounded visits'.grounded ?_
      visits.proposed visits'.proposed
    · exact follows.firsts
    · change work.chart.policy.Refines coarse
      exact policyEq.symm ▸ refines
    · change work'.chart.policy.Refines coarse
      exact policyEq'.symm ▸ ⟨refines.looks, id⟩
    · exact follows.firsts.moves coherent.charted coherent'.charted
        (coherent.charted.sound visits.member) (coherent'.charted.sound visits'.member) alike
        visits.moves_eq visits'.moves_eq
  refine ⟨a', next', current', run', .visited follows.reached current run,
    .visited follows.reached' current' run', same, ?_, ?_⟩
  · rw [visits'.cell_eq, visits.cell_eq, follows.cell_eq]
  · rw [visits'.index_eq, visits.cell_eq, visits.index_eq,
      Worklist.take_visit current visits.grows, first, List.length_append, List.length_singleton,
      follows.index_eq]

theorem Follows.current_eq_none (follows : p.Follows policy coarse work work')
    (done : work.current? = none) : work'.current? = none := by
  rw [work.current?_eq, List.getElem?_eq_none_iff] at done
  have lengths := congrArg List.length (follows.arcsIn_shapes work.cell)
  rw [List.length_map, List.length_map, Chart.firsts] at lengths
  rw [work'.current?_eq, List.getElem?_eq_none_iff, follows.cell_eq, follows.index_eq,
    List.take_of_length_le done]
  exact Nat.le_of_eq lengths

theorem Follows.advance (follows : p.Follows policy coarse work work')
    (done : work.current? = none) : p.Follows policy coarse work.advance work'.advance where
  reached := .advanced follows.reached done
  reached' := .advanced follows.reached' (follows.current_eq_none done)
  firsts := follows.firsts
  cell_eq := congrArg (· + 1) follows.cell_eq
  index_eq := rfl

/-! ## Whole runs -/

theorem Follows.walkCell (follows : p.Follows policy coarse work work')
    (refines : policy.Refines coarse) {result : Except Fault (Worklist × Unit)}
    (run : p.walkCell (fun _ seen => seen) work () = some result) :
    ∃ last last', result = .ok (last, ()) ∧
      p.walkCell (fun _ seen => seen) work' () = some (.ok (last', ())) ∧
      last.current? = none ∧ p.Follows policy coarse last last' := by
  revert work' follows
  refine walkCell.partial_correctness p (fun _ seen => seen) (fun work _ result =>
    ∀ {work'}, p.Follows policy coarse work work' → ∃ last last', result = .ok (last, ()) ∧
      p.walkCell (fun _ seen => seen) work' () = some (.ok (last', ())) ∧
      last.current? = none ∧ p.Follows policy coarse last last') ?_ work () result run
  intro approx ih work _ result run work' follows
  cases current : work.current? with
  | none =>
      simp only [current, Option.some.injEq] at run
      refine ⟨work, work', run.symm, ?_, current, follows⟩
      rw [Problem.walkCell, follows.current_eq_none current]
  | some a =>
      rcases exists_visit follows.reached.coherent current with ⟨next, visited, _⟩
      simp only [current, visited] at run
      by_cases repeated : ∃ b ∈ (work.chart.arcsIn work.cell).take work.index,
          coarse.kind b = coarse.kind a
      · exact ih next _ result run (follows.stay refines current visited repeated)
      · rcases follows.step refines current visited repeated with
          ⟨a', next', current', run', both⟩
        rw [Problem.walkCell, current']
        simp only [run']
        exact ih next _ result run both

theorem Follows.walk (follows : p.Follows policy coarse work work')
    (refines : policy.Refines coarse) {cells : Nat} {last : Worklist}
    (run : p.walk (fun _ seen => seen) cells work () = some (.ok (last, ()))) :
    ∃ last', p.walk (fun _ seen => seen) cells work' () = some (.ok (last', ())) ∧
      p.Follows policy coarse last last' := by
  induction cells generalizing work work' with
  | zero =>
      simp only [Problem.walk, Option.some.injEq, Except.ok.injEq, Prod.mk.injEq,
        and_true] at run
      subst run
      exact ⟨work', rfl, follows⟩
  | succ cells ih =>
      cases walked : p.walkCell (fun _ seen => seen) work () with
      | none => simp [Problem.walk, walked] at run
      | some inner =>
          rcases follows.walkCell refines walked with
            ⟨middle, middle', rfl, walked', done, both⟩
          simp only [Problem.walk, walked] at run
          simp only [Problem.walk, walked']
          exact ih (both.advance done) run

theorem Follows.seeded {first first' : Worklist} (refines : policy.Refines coarse)
    (fits : p.tokens.length < Chart.maxLength) (run : p.seeded policy 0 = .ok first)
    (run' : p.seeded coarse 0 = .ok first') : p.Follows policy coarse first first' := by
  have start := Seeded.of_run run
  have start' := Seeded.of_run run'
  refine ⟨.seeded run, .seeded run', ?_, start'.cell_eq.trans start.cell_eq.symm, ?_⟩
  · rw [seeded_eq policy 0 fits] at run
    rw [seeded_eq coarse 0 fits] at run'
    refine Chart.SameFirsts.proposeAll ?_ blank_coherent blank_coherent refines
      ⟨refines.looks, id⟩ (fun m member => grounded_of_mem_seeds member)
      (fun m member => grounded_of_mem_seeds member) rfl run run'
    intro e
    rw [Chart.firsts, Chart.firsts, blank_arcsIn, blank_arcsIn]
  · rw [start'.index_eq, start.index_eq]
    rfl

/-- If a chart is filled under a fine policy, then it is filled under a coarse
one, and up to numbering the coarse chart keeps the first arc of each kind. -/
theorem exists_fill_of_refines {chart : Chart} (refines : policy.Refines coarse)
    (run : p.fill policy = .ok chart) :
    ∃ chart', p.fill coarse = .ok chart' ∧ ∀ e, (chart'.arcsIn e).map Arc.shape =
      ((chart.arcsIn e).eraseDupsBy coarse.merges).map Arc.shape := by
  have fits := fits_of_fill run
  rcases fill_eq_ok_iff.mp run with ⟨first, last, seeded, walked, rfl⟩
  rcases exists_seeded coarse 0 fits with ⟨first', seeded', _⟩
  have lengths : first.chart.length = first'.chart.length := by
    rw [(Reaches.seeded seeded).length_eq, (Reaches.seeded seeded').length_eq]
  rcases (Follows.seeded refines fits seeded seeded').walk refines walked with
    ⟨last', walked', follows⟩
  rw [lengths] at walked'
  exact ⟨last'.chart, fill_eq_ok_iff.mpr ⟨first', last', seeded', walked', rfl⟩,
    follows.arcsIn_shapes⟩

end Problem
end ParseForest
