import ParseForest.Proofs.Forest.Soundness
import ParseForest.Proofs.Worklist.Following
import ParseForest.Proofs.Worklist.Steps

namespace ParseForest

/-!
# The policies are filters of one another

Where unary rules form no cycle, the chart that keeps every tree it builds can
be filled, and the charts of the other policies can be read off from it: the
coarsest one keeps the first arc of each key in every cell, the one that
compares shapes keeps the first arc of each key and shape.  Nothing else is
lost and the order is the same.

The same holds of the forests.  A root has a key that is known from its label
and the labels of its children, so the forest of the coarsest policy is that of
the other one with the first tree of each root rule.
-/

namespace Chart

variable {p : Problem} {chart : Chart} {a b : Arc} {e : Nat} {t u : Tree} {start : Symbol}

theorem arcsAt_map {β : Type} {chart chart' : Chart} (lengths : chart.length = chart'.length)
    {f f' : List Arc → β} (cells : ∀ e, f (chart.arcsIn e) = f' (chart'.arcsIn e)) (i : Int) :
    (chart.arcsAt i).map f = (chart'.arcsAt i).map f' := by
  have sizes : chart.cells.size = chart'.cells.size := lengths
  simp only [arcsAt, locate, sizes]
  by_cases inside : 0 ≤ i ∧ i.toNat < chart'.cells.size
  · simp only [if_pos inside, Except.map]
    rw [← cellAt, ← cellAt, ← arcsIn, ← arcsIn, cells]
  · simp only [if_neg inside, Except.map]

/-- Whether an arc has a root can be seen from its key. -/
theorem rootOf_isSome (sound : a.Sound p) : (rootOf start a).isSome = true ↔
    a.span.start = 0 ∧ a.dot = a.rule.rhs.length ∧ a.rule.head = start := by
  rw [Option.isSome_iff_exists]
  constructor
  · rintro ⟨t, root⟩
    rcases rootOf_eq_some.mp root with ⟨first, built, head⟩
    have builds := sound.builds built
    exact ⟨first, Arc.isComplete_iff.mp builds.complete, builds.applies.1.symm.trans head⟩
  · rintro ⟨first, complete, head⟩
    rcases sound.exists_tree (Arc.isComplete_iff.mpr complete) with ⟨t, built⟩
    refine ⟨t, rootOf_eq_some.mpr ⟨first, built, ?_⟩⟩
    exact (sound.builds built).applies.1.trans head

theorem rootOf_of_key (charted : p.Charted chart) (member : a ∈ chart.arcsIn e)
    (member' : b ∈ chart.arcsIn e) (keys : a.key = b.key) (root : rootOf start a = some t) :
    ∃ u, rootOf start b = some u := by
  have known := (rootOf_isSome (charted.sound member)).mp (Option.isSome_of_eq_some root)
  rcases Arc.key_eq.mp keys with ⟨span, rule, dot⟩
  rw [span, rule, dot] at known
  exact Option.isSome_iff_exists.mp ((rootOf_isSome (charted.sound member')).mpr known)

/-- Two roots come from arcs of one key if they apply the same rule. -/
theorem span_merges_iff_production (charted : p.Charted chart) (member : a ∈ chart.arcsIn e)
    (member' : b ∈ chart.arcsIn e) (root : rootOf start a = some t) :
    Policy.span.merges a b = true ↔
      ∃ u, rootOf start b = some u ∧ decide (t.production = u.production) = true := by
  have sound := charted.sound member
  have sound' := charted.sound member'
  rw [sound.span_merges_iff sound']
  rcases rootOf_eq_some.mp root with ⟨first, built, _⟩
  constructor
  · intro keys
    rcases rootOf_of_key charted member member' keys root with ⟨u, root'⟩
    rcases rootOf_eq_some.mp root' with ⟨first', built', _⟩
    refine ⟨u, root', decide_eq_true ?_⟩
    exact (key_eq_iff_production charted member member' (first.trans first'.symm) built
      built').mp keys
  · rintro ⟨u, root', equal⟩
    rcases rootOf_eq_some.mp root' with ⟨first', built', _⟩
    exact (key_eq_iff_production charted member member' (first.trans first'.symm) built
      built').mpr (of_decide_eq_true equal)

/-- Two roots come from arcs that are merged by shape if they have the same
shape. -/
theorem shape_merges_iff_same {bound : Nat} (charted : p.Charted chart)
    (numbered : chart.Numbered bound) (member : a ∈ chart.arcsIn e)
    (member' : b ∈ chart.arcsIn e) (root : rootOf start a = some t) :
    Policy.shape.merges a b = true ↔ ∃ u, rootOf start b = some u ∧ t.same u = true := by
  rcases rootOf_eq_some.mp root with ⟨first, built, _⟩
  constructor
  · intro merged
    have keys := Policy.key_eq_of_merges merged
    rcases rootOf_of_key charted member member' keys root with ⟨u, root'⟩
    have built' := (rootOf_eq_some.mp root').2.1
    refine ⟨u, root', ?_⟩
    have trees := (Bool.and_eq_true_iff.mp merged).2
    simpa only [built, built'] using trees
  · rintro ⟨u, root', equal⟩
    have built' := (rootOf_eq_some.mp root').2.1
    have agree := numbered.agree_of_mem member member' built built'
    exact merges_of_shape charted numbered member member' built built'
      ((Tree.same_iff_shape t u agree).mp equal)

theorem map_rootOf (start : Symbol) (a : Arc) :
    (rootOf start a).map Tree.shape = rootOf start a.shape := by
  have same : a.shape.span = a.span := rfl
  rw [rootOf, rootOf, same]
  split
  · cases built : a.built with
    | none => simp [Arc.shape, built]
    | some t => by_cases head : t.head = start <;> simp [Arc.shape, built, Option.filter_some, head]
  · rfl

/-- The shapes of the roots depend on the shapes of the arcs only. -/
theorem map_filterMap_rootOf (start : Symbol) (arcs : List Arc) :
    (arcs.filterMap (rootOf start)).map Tree.shape =
      (arcs.map Arc.shape).filterMap (rootOf start) := by
  rw [List.map_filterMap, List.filterMap_map]
  apply List.filterMap_congr
  intro a _
  exact map_rootOf start a

end Chart

namespace Problem

variable {p : Problem} {policy coarse : Policy} {chart chart' : Chart}

/-- If a cell keeps the first arc of each kind, then the forest keeps the first
tree of each kind. -/
theorem roots_thinned {alike : Tree → Tree → Bool}
    (thinned : (chart'.arcsIn p.tokens.length).map Arc.shape =
      ((chart.arcsIn p.tokens.length).eraseDupsBy coarse.merges).map Arc.shape)
    (respects : ∀ a ∈ chart.arcsIn p.tokens.length, ∀ b ∈ chart.arcsIn p.tokens.length, ∀ t,
      Chart.rootOf p.start a = some t → (coarse.merges a b = true ↔
        ∃ u, Chart.rootOf p.start b = some u ∧ alike t u = true)) :
    (p.roots chart').map Tree.shape = ((p.roots chart).eraseDupsBy alike).map Tree.shape := by
  rw [roots, Chart.map_filterMap_rootOf, thinned, ← Chart.map_filterMap_rootOf,
    filterMap_eraseDupsBy respects, roots]

theorem parse_eq_roots (run : p.fill policy = .ok chart) :
    p.parse policy = .ok (p.roots chart) := by
  rw [parse, run]
  exact Chart.forest_eq p.start (Filled.of_fill run).charted

theorem length_eq_of_fill (run : p.fill policy = .ok chart) :
    chart.length = p.tokens.length + 1 :=
  (Filled.of_fill run).charted.length_eq

end Problem

namespace Parser

open Problem in
/-- The charts and the forests of the coarser policies are those of the finest
one with repetitions erased: the first arc of each key, or of each key and
shape, is kept in every cell, the first tree of each shape in the forest, and of
these the first tree of each root rule. -/
theorem fill_policies_nested (g : Grammar) (start : Symbol) (tokens : List Text)
    (acyclic : g.UnaryAcyclic) :
    (Chart.maxLength ≤ tokens.length ∧
      ∀ policy, (Parser.mk g policy).fill start tokens = .error .badLength) ∨
    (∃ spans shapes all,
      (Parser.mk g .span).fill start tokens = .ok spans ∧
      (Parser.mk g .shape).fill start tokens = .ok shapes ∧
      (Parser.mk g .identity).fill start tokens = .ok all ∧
      (∀ i, (spans.arcsAt i).map (·.map Arc.shape) = (all.arcsAt i).map fun arcs =>
        (arcs.eraseDupsBy fun a b => a.key = b.key).map Arc.shape) ∧
      (∀ i, (shapes.arcsAt i).map (·.map Arc.shape) = (all.arcsAt i).map fun arcs =>
        (arcs.eraseDupsBy Policy.shape.merges).map Arc.shape)) ∧
    ∃ first distinct every,
      (Parser.mk g .span).parse start tokens = .ok first ∧
      (Parser.mk g .shape).parse start tokens = .ok distinct ∧
      (Parser.mk g .identity).parse start tokens = .ok every ∧
      distinct.map Tree.shape = (every.eraseDupsBy Tree.same).map Tree.shape ∧
      first.map Tree.shape =
        (distinct.eraseDupsBy fun t u => t.production = u.production).map Tree.shape := by
  rcases Nat.lt_or_ge tokens.length Chart.maxLength with fits | long
  · have finest : Policy.identity.Refines .shape := ⟨Or.inr rfl, by decide⟩
    have coarsest : ∀ {policy : Policy}, policy.Refines .span :=
      ⟨Or.inl rfl, fun _ => rfl⟩
    rcases exists_fill (p := ⟨g, start, tokens⟩) acyclic .identity fits with ⟨all, run⟩
    rcases exists_fill_of_refines finest run with ⟨shapes, runShapes, shapesEq⟩
    rcases exists_fill_of_refines coarsest run with ⟨spans, runSpans, spansEq⟩
    rcases exists_fill_of_refines coarsest runShapes with ⟨spans', runSpans', spansEq'⟩
    -- The coarsest chart is compared with the finest for its cells, and with the
    -- other one for its forest.
    rw [runSpans, Except.ok.injEq] at runSpans'
    subst runSpans'
    have charted := (Filled.of_fill run).charted
    have chartedShapes := (Filled.of_fill runShapes).charted
    rcases (Filled.of_fill run).numbered with ⟨bound, numbered⟩
    refine Or.inr ⟨⟨spans, shapes, all, runSpans, runShapes, run, ?_, ?_⟩, _, _, _,
      parse_eq_roots runSpans, parse_eq_roots runShapes, parse_eq_roots run, ?_, ?_⟩
    · refine Chart.arcsAt_map (by rw [length_eq_of_fill runSpans, length_eq_of_fill run]) ?_
      intro e
      rw [spansEq e, eraseDupsBy_congr]
      intro a member b member'
      rw [Bool.eq_iff_iff, decide_eq_true_eq]
      exact (charted.sound member).span_merges_iff (charted.sound member')
    · exact Chart.arcsAt_map (by rw [length_eq_of_fill runShapes, length_eq_of_fill run]) shapesEq
    · apply roots_thinned (shapesEq _)
      intro a member b member' t root
      exact Chart.shape_merges_iff_same charted numbered member member' root
    · apply roots_thinned (spansEq' _)
      intro a member b member' t root
      exact Chart.span_merges_iff_production chartedShapes member member' root
  · exact Or.inl ⟨long, fun policy => fill_eq_badLength policy long⟩

/-- The forests of a row of nouns under three policies. -/
theorem fill_policies_nested_rows :
    ∃ first distinct every,
      (Parser.mk nounRows .span).parse (.nonterminal "np") ["fish", "fish", "fish"] =
        .ok first ∧
      (Parser.mk nounRows .shape).parse (.nonterminal "np") ["fish", "fish", "fish"] =
        .ok distinct ∧
      (Parser.mk nounRows .identity).parse (.nonterminal "np") ["fish", "fish", "fish"] =
        .ok every ∧
      first ≠ [] ∧ distinct.map Tree.shape = (every.eraseDupsBy Tree.same).map Tree.shape ∧
      first.map Tree.shape =
        (distinct.eraseDupsBy fun t u => t.production = u.production).map Tree.shape := by
  rcases fill_policies_nested nounRows (.nonterminal "np") ["fish", "fish", "fish"]
    nounRows_acyclic with ⟨long, _⟩ | ⟨_, forests⟩
  · exact absurd long (by decide)
  · rcases forests with ⟨first, distinct, every, parsed, parsed', parsed'', nested, nested'⟩
    have some := ne_nil_of_nounRow (fun _ => id) 1 parsed
    exact ⟨first, distinct, every, parsed, parsed', parsed'', some, nested, nested'⟩

end Parser
end ParseForest
