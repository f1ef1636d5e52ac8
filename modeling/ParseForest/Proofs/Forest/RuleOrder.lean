import Mathlib.Algebra.BigOperators.Group.List.Basic
import Mathlib.Data.List.Perm.Basic
import Mathlib.Data.Multiset.Defs
import ParseForest.Proofs.Forest.Policies
import ParseForest.Proofs.Worklist.Steps
import ParseForest.Proofs.Worklist.Tally

namespace ParseForest

/-!
# The order of the rules changes no counts

If the rules of a grammar are put into another order, arcs are proposed in
another order too.  Which of several arcs comes first may change, and with it
the trees that later arcs carry.  But no key occurs more or less often.

Whether a key occurs at all depends on what can be deduced, and deductions do
not know the order of the rules.  This settles keys that occur once at most.  Any
other key belongs to complete arcs and occurs as often as the arcs of the chart
propose it, which depends on how often keys of higher rank occur.  So all counts
agree by induction, from the highest rank down.
-/

section Counting

variable {α : Type} [DecidableEq α] {xs ys : List α}

theorem filter_perm_of_count {P : α → Bool}
    (counts : ∀ x, P x = true → xs.count x = ys.count x) : (xs.filter P).Perm (ys.filter P) := by
  apply List.perm_iff_count.mpr
  intro x
  cases holds : P x with
  | true => rw [List.count_filter holds, List.count_filter holds, counts x holds]
  | false =>
      have absent : ∀ zs : List α, (zs.filter P).count x = 0 := by
        intro zs
        apply List.count_eq_zero_of_not_mem
        intro member
        rw [(List.mem_filter.mp member).2] at holds
        cases holds
      rw [absent, absent]

/-- A sum depends on how often the entries occur that contribute to it. -/
theorem sum_eq_of_count {f : α → Nat} (counts : ∀ x, f x ≠ 0 → xs.count x = ys.count x) :
    (xs.map f).sum = (ys.map f).sum := by
  have nonzero : ∀ zs : List α, ((zs.filter (f · ≠ 0)).map f).sum = (zs.map f).sum := by
    intro zs
    induction zs with
    | nil => rfl
    | cons z zs ih =>
        by_cases zero : f z = 0
        · rw [List.filter_cons_of_neg (by simp [zero]), ih, List.map_cons, List.sum_cons, zero,
            Nat.zero_add]
        · rw [List.filter_cons_of_pos (by simp [zero]), List.map_cons, List.map_cons,
            List.sum_cons, List.sum_cons, ih]
  rw [← nonzero xs, ← nonzero ys]
  have perm := filter_perm_of_count (P := (f · ≠ 0)) fun x holds =>
    counts x (of_decide_eq_true holds)
  exact (perm.map f).sum_eq

end Counting

namespace Chart

variable {chart chart' : Chart}

/-- A sum over all arcs depends on how often the keys occur that contribute to
it. -/
theorem sum_arcs_eq (tidy : chart.Tidy) (tidy' : chart'.Tidy)
    (lengths : chart.length = chart'.length) {f : ArcKey → Nat}
    (counts : ∀ k, f k ≠ 0 → chart.tally k = chart'.tally k) :
    (chart.arcs.map fun a => f a.key).sum = (chart'.arcs.map fun a => f a.key).sum := by
  have cells : ∀ e, ((chart.arcsIn e).map fun a => f a.key).sum =
      ((chart'.arcsIn e).map fun a => f a.key).sum := by
    intro e
    have keys : ∀ k, f k ≠ 0 → ((chart.arcsIn e).map Arc.key).count k =
        ((chart'.arcsIn e).map Arc.key).count k := by
      intro k contributes
      rw [count_keys tidy, count_keys tidy', counts k contributes]
    have sums := sum_eq_of_count keys
    rwa [List.map_map, List.map_map] at sums
  rw [sum_map_arcs, sum_map_arcs, lengths]
  apply congrArg List.sum
  apply List.map_congr_left
  intro e _
  exact cells e

end Chart

/-! ## Which keys occur -/

namespace Problem

variable {p p' : Problem} {policy : Policy} {chart chart' : Chart} {a b : Arc} {e : Nat}
  {k : ArcKey}

theorem Filled.awaited_of_key (filled : p.Filled policy chart) (sound : a.Sound p)
    {awaited : Symbol} (next : a.next = .ok (some awaited)) (member : b ∈ chart.arcsIn e)
    (keys : b.key = a.key) : Awaited chart awaited e ∧ a.span.stop = e := by
  rcases Arc.key_eq.mp keys with ⟨span, rule, dot⟩
  refine ⟨⟨b, member, ?_⟩, ?_⟩
  · rw [(filled.charted.sound member).next_eq, rule, dot, ← sound.next_eq, next]
  · rw [← span, filled.charted.tidy.located e b member]

/-- A filled chart has the key of everything that can be deduced. -/
theorem Filled.exists_key (filled : p.Filled policy chart) (deduced : p.Deduced a) :
    ∃ e, ∃ b ∈ chart.arcsIn e, b.key = a.key := by
  induction deduced with
  | seed r member head =>
      rcases filled.seeded member head with ⟨b, inCell, key⟩
      exact ⟨0, b, inCell, key⟩
  | @predict a awaited waiting next r member head ih =>
      rcases ih with ⟨e, b, inCell, keys⟩
      rcases filled.awaited_of_key waiting.sound next inCell keys with ⟨waits, stop⟩
      rcases filled.predicted waits member head with ⟨c, found, key⟩
      refine ⟨e, c, found, key.trans ?_⟩
      rw [stop]
      rfl
  | @scan a awaited waiting next r member head serial token lexical found ih =>
      rcases ih with ⟨e, b, inCell, keys⟩
      rcases filled.awaited_of_key waiting.sound next inCell keys with ⟨waits, stop⟩
      rw [stop, tokenAt?, if_pos (Int.natCast_nonneg e), Int.toNat_natCast] at found
      rcases filled.scanned waits member head lexical found with ⟨c, inNext, key⟩
      refine ⟨e + 1, c, inNext, key.trans ?_⟩
      rw [stop]
      rfl
  | @extend a b t waiting finished built next meets serial waitingIh finishedIh =>
      rcases waitingIh with ⟨i, b', inCell, keys⟩
      rcases finishedIh with ⟨e, a', inEnd, keys'⟩
      rcases filled.awaited_of_key waiting.sound next inCell keys with ⟨_, stop⟩
      have builds := finished.sound.builds built
      have complete := (Arc.isComplete_eq_of_key keys').trans builds.complete
      rcases (filled.charted.sound inEnd).exists_tree complete with ⟨t', built'⟩
      have builds' := (filled.charted.sound inEnd).builds built'
      rcases Arc.key_eq.mp keys with ⟨span, rule, dot⟩
      rcases Arc.key_eq.mp keys' with ⟨span', rule', _⟩
      have heads : t'.head = t.head := by rw [builds'.applies.1, rule', ← builds.applies.1]
      have next' : b'.next = .ok (some t'.head) := by
        rw [(filled.charted.sound inCell).next_eq, rule, dot, ← waiting.sound.next_eq, next, heads]
      have starts : a'.span.start = i := by rw [span', ← meets, stop]
      rcases filled.extended inEnd built' starts inCell next' with ⟨c, inEnd', repeated⟩
      refine ⟨e, c, inEnd', repeated.1.symm.trans ?_⟩
      rw [Arc.extend_key, Arc.extend_key, span, rule, dot, builds.span_eq, builds'.span_eq, span']

/-- The second problem is the first with its rules in another order. -/
structure Reorders (p p' : Problem) : Prop where
  rules : p.grammar.rules.Perm p'.grammar.rules
  start_eq : p'.start = p.start
  tokens_eq : p'.tokens = p.tokens

theorem Reorders.symm (reorders : p.Reorders p') : p'.Reorders p :=
  ⟨reorders.rules.symm, reorders.start_eq.symm, reorders.tokens_eq.symm⟩

theorem Reorders.tokenAt?_eq (reorders : p.Reorders p') (pos : Int) :
    p'.tokenAt? pos = p.tokenAt? pos := by
  rw [tokenAt?, tokenAt?, reorders.tokens_eq]

/-- Deductions do not know the order of the rules. -/
theorem Reorders.deduced (reorders : p.Reorders p') (deduced : p.Deduced a) : p'.Deduced a := by
  induction deduced with
  | seed r member head =>
      exact .seed r (reorders.rules.mem_iff.mp member) (head.trans reorders.start_eq.symm)
  | predict waiting next r member head ih =>
      exact .predict ih next r (reorders.rules.mem_iff.mp member) head
  | scan waiting next r member head serial token lexical found ih =>
      exact .scan ih next r (reorders.rules.mem_iff.mp member) head serial token lexical
        ((reorders.tokenAt?_eq _).trans found)
  | extend waiting finished built next meets serial waitingIh finishedIh =>
      exact .extend waitingIh finishedIh built next meets serial

theorem Reorders.tally_pos (reorders : p.Reorders p') (filled : p.Filled policy chart)
    (filled' : p'.Filled policy chart') (occurs : 0 < chart.tally k) : 0 < chart'.tally k := by
  rcases (Chart.tally_pos_iff filled.charted.tidy).mp occurs with ⟨e, a, member, rfl⟩
  apply (Chart.tally_pos_iff filled'.charted.tidy).mpr
  exact filled'.exists_key (reorders.deduced (filled.charted.deduced e a member))

/-- It is enough to compare the keys that occur in one of the charts. -/
theorem Reorders.tally_eq_of_occurs (reorders : p.Reorders p') (filled : p.Filled policy chart)
    (filled' : p'.Filled policy chart')
    (equal : ∀ e, ∀ a ∈ chart.arcsIn e, a.key = k → chart.tally k = chart'.tally k) :
    chart.tally k = chart'.tally k := by
  rcases Nat.eq_zero_or_pos (chart.tally k) with nowhere | occurs
  · have nowhere' : ¬ 0 < chart'.tally k := by
      intro occurs'
      exact Nat.ne_of_gt (reorders.symm.tally_pos filled' filled occurs') nowhere
    omega
  · rcases (Chart.tally_pos_iff filled.charted.tidy).mp occurs with ⟨e, a, member, key⟩
    exact equal e a member key

/-- A key that occurs once at most occurs in both charts or in none. -/
theorem Reorders.tally_eq_of_le (reorders : p.Reorders p') (filled : p.Filled policy chart)
    (filled' : p'.Filled policy chart') (once : chart.tally k ≤ 1) (once' : chart'.tally k ≤ 1) :
    chart.tally k = chart'.tally k := by
  have there : 0 < chart.tally k → 0 < chart'.tally k := reorders.tally_pos filled filled'
  have back : 0 < chart'.tally k → 0 < chart.tally k := reorders.symm.tally_pos filled' filled
  omega

theorem Reorders.tally_eq_of_waiting (reorders : p.Reorders p') (filled : p.Filled policy chart)
    (filled' : p'.Filled policy chart') (waits : k.dot ≠ k.rule.rhs.length) :
    chart.tally k = chart'.tally k :=
  reorders.tally_eq_of_le filled filled' (filled.charted.tally_le_of_waiting waits)
    (filled'.charted.tally_le_of_waiting waits)

theorem Charted.tally_le_of_span (charted : p.Charted chart) (coarse : chart.policy = .span) :
    chart.tally k ≤ 1 :=
  List.nodup_iff_count_le_one.mp (charted.keys_nodup coarse _) k

/-! ## Other keys -/

theorem Reorders.predictions_perm (reorders : p.Reorders p') (awaited : Symbol) (pos : Int) :
    (p.predictions awaited pos).Perm (p'.predictions awaited pos) := by
  rw [predictions, predictions, Grammar.rulesFor_eq_filter, Grammar.rulesFor_eq_filter,
    reorders.tokenAt?_eq]
  exact (reorders.rules.filter _).flatMap_right _

theorem Reorders.waiting_perm (reorders : p.Reorders p') (filled : p.Filled policy chart)
    (filled' : p'.Filled policy chart') (e : Nat) :
    (((chart.arcsIn e).map Arc.key).filter fun k => k.dot ≠ k.rule.rhs.length).Perm
      (((chart'.arcsIn e).map Arc.key).filter fun k => k.dot ≠ k.rule.rhs.length) := by
  apply filter_perm_of_count
  intro k holds
  have waits : k.dot ≠ k.rule.rhs.length := of_decide_eq_true holds
  rw [Chart.count_keys filled.charted.tidy, Chart.count_keys filled'.charted.tidy,
    reorders.tally_eq_of_waiting filled filled' waits]

theorem countP_waiting {P : ArcKey → Prop} [DecidablePred P]
    (waits : ∀ k, P k → k.dot ≠ k.rule.rhs.length) (arcs : List Arc) :
    (arcs.countP fun b => P b.key) =
      ((arcs.map Arc.key).filter fun k => k.dot ≠ k.rule.rhs.length).countP fun k => P k := by
  rw [List.countP_filter, List.countP_map]
  apply List.countP_congr
  intro b _
  simp only [Function.comp_apply, decide_eq_true_eq, Bool.and_eq_true]
  constructor
  · intro holds
    exact ⟨holds, waits b.key holds⟩
  · rintro ⟨holds, _⟩
    exact holds

/-- What an arc proposes depends on its key only. -/
theorem Reorders.gain_eq (reorders : p.Reorders p') (filled : p.Filled policy chart)
    (filled' : p'.Filled policy chart') (target k : ArcKey) :
    p.gain chart target k = p'.gain chart' target k := by
  unfold gain
  cases awaits : k.rule.rhs[k.dot]? with
  | some awaited => exact (reorders.predictions_perm awaited k.span.stop).countP_eq _
  | none =>
      -- Only keys that wait are counted.
      have waits : ∀ b, k.Completes target b → b.dot ≠ b.rule.rhs.length := by
        rintro b ⟨awaits, _⟩
        exact Nat.ne_of_lt (List.getElem?_eq_some_iff.mp awaits).1
      change List.countP _ _ = List.countP _ _
      rw [countP_waiting waits, countP_waiting waits]
      exact (reorders.waiting_perm filled filled' k.span.start.toNat).countP_eq _

theorem rank_eq_of_key (keys : a.key = b.key) : p.rank a = p.rank b := by
  rcases Arc.key_eq.mp keys with ⟨span, rule, _⟩
  rw [rank, rank, Arc.isComplete_eq_of_key keys, span, rule]

theorem rank_le (sound : a.Sound p) :
    p.rank a ≤ p.tokens.length * (p.grammar.rules.length + 1) + p.grammar.rules.length + 1 := by
  have climb := p.grammar.climb_le a.rule.head
  have before : a.span.start.toNat ≤ p.tokens.length := by
    have order := Int.le_trans sound.start_le sound.stop_le
    omega
  have product := Nat.mul_le_mul_right (p.grammar.rules.length + 1) before
  unfold rank
  split <;> omega

/-- A complete arc has a higher rank than what it proposes. -/
theorem rank_lt_of_gain (acyclic : p.grammar.UnaryAcyclic) (charted : p.Charted chart)
    (member : a ∈ chart.arcsIn e) (full : a.isComplete = true) {c : Arc}
    (gains : p.gain chart c.key a.key ≠ 0) : p.rank c < p.rank a := by
  have sound := charted.sound member
  rcases sound.exists_tree full with ⟨t, built⟩
  rcases exists_start_cell charted sound with ⟨i, starts, _⟩
  rcases (gain_ne_zero_iff charted member built starts).mp gains with ⟨b, waiting, awaits, keys⟩
  have sound' := charted.sound waiting
  rw [← rank_eq_of_key keys]
  refine rank_extend_lt acyclic sound sound' built (sound'.next_eq_some.mpr awaits) ?_ 0
  rw [starts, charted.tidy.located i b waiting]

/-- A key occurs equally often if all keys do whose arcs propose it. -/
theorem Reorders.tally_eq_of_gains (reorders : p.Reorders p') (run : p.fill policy = .ok chart)
    (run' : p'.fill policy = .ok chart') (finer : policy ≠ .span)
    (equal : ∀ l, p.gain chart k l ≠ 0 → chart.tally l = chart'.tally l) :
    chart.tally k = chart'.tally k := by
  have filled := Filled.of_fill run
  have filled' := Filled.of_fill run'
  by_cases complete : k.dot = k.rule.rhs.length
  case neg => exact reorders.tally_eq_of_waiting filled filled' complete
  by_cases tagged : policy = .shape ∧ k.rule.isLexical = true
  · rcases tagged with ⟨rfl, lexical⟩
    exact reorders.tally_eq_of_le filled filled' (filled.tally_le_of_tag complete lexical)
      (filled'.tally_le_of_tag complete lexical)
  · have untagged : policy = .shape → k.rule.isLexical = false := by
      intro shapes
      exact Bool.eq_false_iff.mpr fun lexical => tagged ⟨shapes, lexical⟩
    rw [tally_eq_sum run finer complete untagged, tally_eq_sum run' finer complete untagged]
    simp only [← reorders.gain_eq filled filled']
    apply Chart.sum_arcs_eq filled.charted.tidy filled'.charted.tidy ?_ equal
    rw [length_eq_of_fill run, length_eq_of_fill run', reorders.tokens_eq]

/-- No key of the one chart occurs more or less often in the other. -/
theorem Reorders.tally_eq_of_mem (reorders : p.Reorders p') (acyclic : p.grammar.UnaryAcyclic)
    (run : p.fill policy = .ok chart) (run' : p'.fill policy = .ok chart') (finer : policy ≠ .span)
    {c : Arc} (member : c ∈ chart.arcsIn e) : chart.tally c.key = chart'.tally c.key := by
  have filled := Filled.of_fill run
  have filled' := Filled.of_fill run'
  -- On the rank, from its bound down.
  induction height : p.tokens.length * (p.grammar.rules.length + 1) + p.grammar.rules.length + 1 -
    p.rank c using Nat.strong_induction_on generalizing c e with
  | _ n ih =>
      apply reorders.tally_eq_of_gains run run' finer
      intro l gains
      apply reorders.tally_eq_of_occurs filled filled'
      rintro i a inCell rfl
      cases full : a.isComplete with
      | false =>
          have waits : a.key.dot ≠ a.key.rule.rhs.length := Arc.isComplete_eq_false_iff.mp full
          exact reorders.tally_eq_of_waiting filled filled' waits
      | true =>
          have higher := rank_lt_of_gain acyclic filled.charted inCell full gains
          have bounded := rank_le (filled.charted.sound inCell)
          exact ih _ (by omega) inCell rfl

theorem Reorders.tally_eq (reorders : p.Reorders p')
    (ends : policy = .span ∨ p.grammar.UnaryAcyclic) (run : p.fill policy = .ok chart)
    (run' : p'.fill policy = .ok chart') (k : ArcKey) : chart.tally k = chart'.tally k := by
  have filled := Filled.of_fill run
  have filled' := Filled.of_fill run'
  by_cases coarse : policy = .span
  · exact reorders.tally_eq_of_le filled filled'
      (filled.charted.tally_le_of_span (filled.policy_eq.trans coarse))
      (filled'.charted.tally_le_of_span (filled'.policy_eq.trans coarse))
  · refine reorders.tally_eq_of_occurs filled filled' ?_
    rintro e a member rfl
    exact reorders.tally_eq_of_mem (ends.resolve_left coarse) run run' coarse member

/-! ## Charts and forests -/

theorem Reorders.keys_perm (reorders : p.Reorders p')
    (ends : policy = .span ∨ p.grammar.UnaryAcyclic) (run : p.fill policy = .ok chart)
    (run' : p'.fill policy = .ok chart') (e : Nat) :
    ((chart.arcsIn e).map Arc.key).Perm ((chart'.arcsIn e).map Arc.key) := by
  apply List.perm_iff_count.mpr
  intro k
  rw [Chart.count_keys (Filled.of_fill run).charted.tidy,
    Chart.count_keys (Filled.of_fill run').charted.tidy, reorders.tally_eq ends run run']

theorem size_eq_of_keys (lengths : chart.length = chart'.length)
    (keys : ∀ e, ((chart.arcsIn e).map Arc.key).Perm ((chart'.arcsIn e).map Arc.key)) :
    chart.size = chart'.size := by
  rw [Chart.size_eq, Chart.size_eq, Chart.arcs, Chart.arcs, List.length_flatMap,
    List.length_flatMap, lengths]
  apply congrArg List.sum
  apply List.map_congr_left
  intro e _
  have cells := (keys e).length_eq
  rwa [List.length_map, List.length_map] at cells

/-- The number of roots can be read off from the keys of the last cell. -/
theorem length_roots (charted : p.Charted chart) :
    (p.roots chart).length = ((chart.arcsIn p.tokens.length).map Arc.key).countP fun k =>
      k.span.start = 0 ∧ k.dot = k.rule.rhs.length ∧ k.rule.head = p.start := by
  rw [roots, List.length_filterMap_eq_countP, List.countP_map]
  apply List.countP_congr
  intro a member
  rw [Chart.rootOf_isSome (charted.sound member), Function.comp_apply, decide_eq_true_eq]
  rfl

theorem Reorders.length_roots_eq (reorders : p.Reorders p')
    (ends : policy = .span ∨ p.grammar.UnaryAcyclic) (run : p.fill policy = .ok chart)
    (run' : p'.fill policy = .ok chart') : (p.roots chart).length = (p'.roots chart').length := by
  rw [length_roots (Filled.of_fill run).charted, length_roots (Filled.of_fill run').charted,
    reorders.tokens_eq, reorders.start_eq]
  exact (reorders.keys_perm ends run run' _).countP_eq _

theorem Reorders.unaryAcyclic (reorders : p.Reorders p') (acyclic : p.grammar.UnaryAcyclic) :
    p'.grammar.UnaryAcyclic := by
  have unary : p'.grammar.Unary ≤ p.grammar.Unary := by
    rintro first second ⟨r, member, leads⟩
    exact ⟨r, reorders.rules.mem_iff.mpr member, leads⟩
  intro s loop
  exact acyclic s (Relation.TransGen.mono unary s s loop)

theorem exists_fill_of_ends (ends : policy = .span ∨ p.grammar.UnaryAcyclic)
    (fits : p.tokens.length < Chart.maxLength) : ∃ chart, p.fill policy = .ok chart := by
  rcases ends with rfl | acyclic
  · exact exists_fill_span fits
  · exact exists_fill acyclic policy fits

end Problem

namespace Parser

/-- If the rules of a grammar are put into another order, every key occurs as
often as before in every cell, so the chart has as many arcs and the forest as
many trees. -/
theorem fill_reordered (g g' : Grammar) (policy : Policy) (start : Symbol) (tokens : List Text)
    (reordered : g.rules.Perm g'.rules) (ends : policy = .span ∨ g.UnaryAcyclic) :
    (Chart.maxLength ≤ tokens.length ∧
      (Parser.mk g policy).fill start tokens = .error .badLength ∧
      (Parser.mk g' policy).fill start tokens = .error .badLength) ∨
    ∃ chart chart' trees trees',
      (Parser.mk g policy).fill start tokens = .ok chart ∧
      (Parser.mk g' policy).fill start tokens = .ok chart' ∧
      (∀ i, (chart.arcsAt i).map (fun arcs => Multiset.ofList (arcs.map Arc.key)) =
        (chart'.arcsAt i).map fun arcs => Multiset.ofList (arcs.map Arc.key)) ∧
      chart.size = chart'.size ∧
      (Parser.mk g policy).parse start tokens = .ok trees ∧
      (Parser.mk g' policy).parse start tokens = .ok trees' ∧
      trees.length = trees'.length := by
  have reorders : Problem.Reorders ⟨g, start, tokens⟩ ⟨g', start, tokens⟩ := ⟨reordered, rfl, rfl⟩
  rcases Nat.lt_or_ge tokens.length Chart.maxLength with fits | long
  · have ends' : policy = .span ∨ g'.UnaryAcyclic := ends.imp_right reorders.unaryAcyclic
    rcases Problem.exists_fill_of_ends (p := ⟨g, start, tokens⟩) ends fits with ⟨chart, run⟩
    rcases Problem.exists_fill_of_ends (p := ⟨g', start, tokens⟩) ends' fits with ⟨chart', run'⟩
    have keys := reorders.keys_perm ends run run'
    have lengths : chart.length = chart'.length := by
      rw [Problem.length_eq_of_fill run, Problem.length_eq_of_fill run']
    refine Or.inr ⟨chart, chart', _, _, run, run', ?_, Problem.size_eq_of_keys lengths keys,
      Problem.parse_eq_roots run, Problem.parse_eq_roots run',
      reorders.length_roots_eq ends run run'⟩
    apply Chart.arcsAt_map lengths
    intro e
    exact Multiset.coe_eq_coe.mpr (keys e)
  · exact Or.inl ⟨long, Problem.fill_eq_badLength policy long,
      Problem.fill_eq_badLength policy long⟩

/-- A row of nouns is grouped in as many ways if the rules are read from the
last. -/
theorem fill_reordered_rows :
    ∃ chart chart' trees trees',
      (Parser.mk nounRows .shape).fill (.nonterminal "np") ["fish", "fish", "fish"] =
        .ok chart ∧
      (Parser.mk (.ofRules nounRows.rules.reverse) .shape).fill (.nonterminal "np")
        ["fish", "fish", "fish"] = .ok chart' ∧
      chart.size = chart'.size ∧
      (Parser.mk nounRows .shape).parse (.nonterminal "np") ["fish", "fish", "fish"] =
        .ok trees ∧
      (Parser.mk (.ofRules nounRows.rules.reverse) .shape).parse (.nonterminal "np")
        ["fish", "fish", "fish"] = .ok trees' ∧
      trees ≠ [] ∧ trees.length = trees'.length := by
  rcases fill_reordered nounRows (.ofRules nounRows.rules.reverse) .shape (.nonterminal "np")
    ["fish", "fish", "fish"] (List.reverse_perm _).symm (Or.inr nounRows_acyclic) with
    ⟨long, _⟩ | ⟨chart, chart', trees, trees', run, run', _, sizes, parsed, parsed', lengths⟩
  · exact absurd long (by decide)
  · have some := ne_nil_of_nounRow (fun _ => id) 1 parsed
    exact ⟨chart, chart', trees, trees', run, run', sizes, parsed, parsed', some, lengths⟩

end Parser
end ParseForest
