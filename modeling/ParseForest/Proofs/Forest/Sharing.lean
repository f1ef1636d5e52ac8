import Mathlib.Data.List.Dedup
import Mathlib.Data.List.Pairwise
import ParseForest.Proofs.Forest.Distinct

namespace ParseForest

/-!
# How much the trees of a forest share

A phrase in a tree of the forest was built by an arc of the chart, and whatever
tree it occurs in, it is the node that this arc has built.  So two phrases are one
node if the chart has one arc for both.  Where trees are told apart by shape, this
is so whenever the phrases have the same shape.  Where the first arc of a key stands
for all, it is so as soon as they apply the same rule over the same span.

In the second case there are no more phrases than rules applied to spans that are
not empty, however many trees the forest has and however large these are.  Tokens
are left out: a token has a leaf for each of its tags.
-/

namespace Tree

mutual

/-- The phrases in a tree, the tree itself first. -/
def phrases : Tree → List Tree
  | .leaf _ _ _ => []
  | .node serial span label children =>
    .node serial span label children :: phrasesAll children

/-- The phrases in several trees. -/
def phrasesAll : List Tree → List Tree
  | [] => []
  | t :: ts => phrases t ++ phrasesAll ts

end

mutual

theorem mem_phrases : (t u : Tree) → (u ∈ t.phrases ↔ u.Within t ∧ u.isLeaf = false)
  | .leaf serial span token, u => by
      rw [phrases, within_leaf]
      constructor
      · intro member
        cases member
      · rintro ⟨rfl, phrase⟩
        cases phrase
  | .node serial span label children, u => by
      rw [phrases, List.mem_cons, mem_phrasesAll children u, within_node]
      constructor
      · rintro (rfl | ⟨c, member, part, phrase⟩)
        · exact ⟨Or.inl rfl, rfl⟩
        · exact ⟨Or.inr ⟨c, member, part⟩, phrase⟩
      · rintro ⟨rfl | ⟨c, member, part⟩, phrase⟩
        · exact Or.inl rfl
        · exact Or.inr ⟨c, member, part, phrase⟩

theorem mem_phrasesAll : (ts : List Tree) → (u : Tree) →
    (u ∈ phrasesAll ts ↔ ∃ t ∈ ts, u.Within t ∧ u.isLeaf = false)
  | [], u => by simp [phrasesAll]
  | t :: ts, u => by simp [phrasesAll, mem_phrases t u, mem_phrasesAll ts u]

end

theorem Derivation.head_isTerminal {g : Grammar} {tokens : List Text} {t : Tree}
    (derived : t.Derivation g tokens) (phrase : t.isLeaf = false) : t.head.isTerminal = false := by
  cases derived with
  | leaf => cases phrase
  | node serial span r children => exact r.head_isTerminal

end Tree

namespace Problem

/-- Some arc of the chart has built the tree. -/
def Built (chart : Chart) (t : Tree) : Prop :=
  ∃ e, ∃ c ∈ chart.arcsIn e, c.built = some t

variable {p : Problem} {policy : Policy} {chart : Chart} {a b : Arc} {e : Nat} {t u : Tree}

/-- Every phrase in a forest was built by an arc of the chart. -/
theorem Charted.built_of_mem_phrases (charted : p.Charted chart)
    (member : u ∈ Tree.phrasesAll (p.roots chart)) : Built chart u := by
  rcases (Tree.mem_phrasesAll _ u).mp member with ⟨t, inForest, part, phrase⟩
  rcases mem_roots.mp inForest with ⟨a, inCell, _, built, _⟩
  have derived := ((charted.sound inCell).builds built).derived.within part
  exact charted.built_of_within inCell built part (derived.head_isTerminal phrase)

theorem Built.contains (built : Built chart t) : chart.Contains t := by
  rcases built with ⟨e, c, inCell, tree⟩
  exact ⟨e, c, inCell, Or.inr ⟨t, tree, .self t⟩⟩

/-! ## Phrases built by one arc -/

/-- Trees over one span were built by arcs over that span, in one cell. -/
theorem Charted.exists_cell (charted : p.Charted chart) (first : Built chart t)
    (second : Built chart u) (spans : t.span = u.span) :
    ∃ e, ∃ a ∈ chart.arcsIn e, ∃ b ∈ chart.arcsIn e, a.span = b.span ∧ a.built = some t ∧
      b.built = some u := by
  rcases first with ⟨e, a, member, built⟩
  rcases second with ⟨e', b, member', built'⟩
  have arcs : a.span = b.span := by
    rw [← ((charted.sound member).builds built).span_eq,
      ← ((charted.sound member').builds built').span_eq, spans]
  have same := charted.cell_eq member member' arcs
  subst same
  exact ⟨e, a, member, b, member', arcs, built, built'⟩

theorem Filled.eq_of_shape (filled : p.Filled .shape chart) (first : Built chart t)
    (second : Built chart u) (shapes : t.shape = u.shape) : t = u := by
  rcases filled.charted.exists_cell first second (Tree.span_eq_of_shape shapes) with
    ⟨e, a, member, b, member', _, built, built'⟩
  by_cases same : a = b
  · rw [same, built', Option.some.injEq] at built
    exact built.symm
  · have symm : Std.Symm fun a b : Arc =>
        ∀ t u, a.built = some t → b.built = some u → t.shape ≠ u.shape :=
      ⟨fun _ _ apart t u built built' shapes => apart u t built' built shapes.symm⟩
    exact absurd shapes
      ((filled.shapes_distinct e).forall member member' same t u built built')

/-- The comparison of trees in a chart is one of shapes. -/
theorem Filled.eq_of_same (filled : p.Filled .shape chart) (first : Built chart t)
    (second : Built chart u) (equal : t.same u = true) : t = u := by
  rcases filled.numbered with ⟨bound, numbered⟩
  rcases id first with ⟨e, a, member, built⟩
  rcases id second with ⟨e', b, member', built'⟩
  have agree := numbered.agree_of_mem member member' built built'
  exact filled.eq_of_shape first second ((Tree.same_iff_shape t u agree).mp equal)

theorem Filled.eq_of_alike (filled : p.Filled .span chart) (first : Built chart t)
    (second : Built chart u) (alike : t.Alike u) : t = u := by
  have charted := filled.charted
  rcases charted.exists_cell first second alike.span_eq with
    ⟨e, a, member, b, member', spans, built, built'⟩
  have keys : a.key = b.key :=
    (Chart.key_eq_iff_production charted member member' (congrArg Span.start spans) built
      built').mpr (Prod.ext alike.head_eq alike.heads_eq)
  have arcs := List.inj_on_of_nodup_map (charted.keys_nodup filled.policy_eq e) member member' keys
  subst arcs
  exact Option.some.inj (built.symm.trans built')

/-! ## The number of phrases -/

/-- The keys of complete arcs: a rule over a span that is not empty. -/
def phraseKeys (p : Problem) : List ArcKey :=
  p.grammar.rules.flatMap fun r => (List.range (p.tokens.length + 1)).flatMap fun (e : Nat) =>
    (List.range e).map fun (s : Nat) => ⟨⟨s, e⟩, r, r.rhs.length⟩

theorem two_mul_sum_range (n : Nat) : 2 * (List.range (n + 1)).sum = n * (n + 1) := by
  induction n with
  | zero => rfl
  | succ n ih =>
      rw [List.range_succ, List.sum_append, List.sum_singleton, Nat.mul_add, ih]
      ring

theorem length_phraseKeys (p : Problem) : (p.phraseKeys).length =
    p.grammar.size * p.tokens.length * (p.tokens.length + 1) / 2 := by
  have spans := two_mul_sum_range p.tokens.length
  have total : p.phraseKeys.length =
      p.grammar.size * (List.range (p.tokens.length + 1)).sum := by
    simp only [phraseKeys, List.length_flatMap, List.length_map, List.length_range, List.map_id',
      List.map_const', List.sum_replicate_nat, Grammar.size]
  rw [total, Nat.mul_assoc, ← spans, Nat.mul_left_comm, Nat.mul_div_cancel_left _ (by decide)]

theorem key_mem_phraseKeys (charted : p.Charted chart) (member : a ∈ chart.arcsIn e)
    (built : a.built = some t) : a.key ∈ p.phraseKeys := by
  have sound := charted.sound member
  have builds := sound.builds built
  rcases exists_start_cell charted sound with ⟨s, starts, _⟩
  have before := start_lt_of_built charted member built starts
  have inside := Chart.lt_length_of_mem member
  rw [charted.length_eq] at inside
  simp only [phraseKeys, List.mem_flatMap, List.mem_map, List.mem_range]
  refine ⟨a.rule, sound.rule_mem, e, inside, s, before, ?_⟩
  rw [Arc.key, Arc.isComplete_iff.mp builds.complete, ← starts,
    ← charted.tidy.located e a member]

/-- Where the first arc of a key stands for all, the chart has built at most one
tree for each rule and span. -/
theorem Charted.length_built_le (charted : p.Charted chart) (coarse : chart.policy = .span) :
    (chart.arcs.filterMap Arc.built).length ≤
      p.grammar.size * p.tokens.length * (p.tokens.length + 1) / 2 := by
  rw [List.length_filterMap_eq_countP, List.countP_eq_length_filter, ← length_phraseKeys,
    ← List.length_map (f := Arc.key)]
  apply List.Subperm.length_le
  apply List.subperm_of_subset
  · exact (charted.all_keys_nodup coarse).sublist (List.filter_sublist.map Arc.key)
  · intro k found
    rcases List.mem_map.mp found with ⟨a, complete, rfl⟩
    rcases List.mem_filter.mp complete with ⟨inChart, tree⟩
    rcases Option.isSome_iff_exists.mp tree with ⟨t, built⟩
    rcases List.mem_flatMap.mp inChart with ⟨e, _, member⟩
    exact key_mem_phraseKeys charted member built

theorem Filled.length_phrases_le (filled : p.Filled .span chart) :
    ((Tree.phrasesAll (p.roots chart)).map Tree.serial).dedup.length ≤
      p.grammar.size * p.tokens.length * (p.tokens.length + 1) / 2 := by
  refine Nat.le_trans ?_ (filled.charted.length_built_le filled.policy_eq)
  rw [← List.length_map (f := Tree.serial)]
  apply List.Subperm.length_le
  apply List.subperm_of_subset (List.nodup_dedup _)
  intro serial found
  rcases List.mem_map.mp (List.mem_dedup.mp found) with ⟨u, member, rfl⟩
  rcases filled.charted.built_of_mem_phrases member with ⟨e, c, inCell, built⟩
  refine List.mem_map_of_mem (List.mem_filterMap.mpr ⟨c, ?_, built⟩)
  exact List.mem_flatMap.mpr ⟨e, List.mem_range.mpr (Chart.lt_length_of_mem inCell), inCell⟩

end Problem

namespace Parser

/-- In a forest a number belongs to one phrase.  Where trees are told apart by
shape, phrases that are compared as the same have the same number; where the first
arc of a key stands for all, so do phrases that apply one rule over one span, and
then there are at most as many phrases as rules over spans. -/
theorem parse_shares (parser : Parser) (start : Symbol) (tokens : List Text)
    (ends : parser.Ends start tokens) :
    ∃ trees : List Tree, parser.parse start tokens = .ok trees ∧
      (∀ u ∈ Tree.phrasesAll trees, ∀ v ∈ Tree.phrasesAll trees,
        u.serial = v.serial → u = v) ∧
      (parser.policy = .shape → ∀ u ∈ Tree.phrasesAll trees, ∀ v ∈ Tree.phrasesAll trees,
        u.same v = true → u.serial = v.serial) ∧
      (parser.policy = .span →
        (∀ u ∈ Tree.phrasesAll trees, ∀ v ∈ Tree.phrasesAll trees,
          u.head = v.head → u.span = v.span → u.children.map Tree.head = v.children.map Tree.head →
          u.serial = v.serial) ∧
        ((Tree.phrasesAll trees).map Tree.serial).dedup.length ≤
          parser.grammar.size * tokens.length * (tokens.length + 1) / 2) := by
  rcases ends.parse_eq with ⟨chart, filled, parsed⟩
  have source : ∀ u ∈ Tree.phrasesAll ((parser.problem start tokens).roots chart),
      Problem.Built chart u := fun u member => filled.charted.built_of_mem_phrases member
  refine ⟨_, parsed, ?_, ?_, ?_⟩
  · intro u first v second numbers
    rcases filled.numbered with ⟨bound, numbered⟩
    exact numbered.unique u v (source u first).contains (source v second).contains numbers
  · intro shapes u first v second equal
    rw [shapes] at filled
    rw [filled.eq_of_same (source u first) (source v second) equal]
  · intro coarse
    rw [coarse] at filled
    refine ⟨fun u first v second heads spans labels => ?_, filled.length_phrases_le⟩
    rw [filled.eq_of_alike (source u first) (source v second) ⟨spans, heads, labels⟩]

/-- What the groupings of four nouns share, by shape and by span. -/
theorem parse_shares_rows :
    (∃ trees : List Tree, (Parser.mk nounRows .shape).parse (.nonterminal "np")
        ["fish", "fish", "fish", "fish"] = .ok trees ∧
      trees ≠ [] ∧ ∀ u ∈ Tree.phrasesAll trees, ∀ v ∈ Tree.phrasesAll trees,
        u.same v = true → u.serial = v.serial) ∧
    ∃ trees : List Tree, (Parser.mk nounRows .span).parse (.nonterminal "np")
        ["fish", "fish", "fish", "fish"] = .ok trees ∧
      trees ≠ [] ∧
      (∀ u ∈ Tree.phrasesAll trees, ∀ v ∈ Tree.phrasesAll trees,
        u.head = v.head → u.span = v.span → u.children.map Tree.head = v.children.map Tree.head →
        u.serial = v.serial) ∧
      ((Tree.phrasesAll trees).map Tree.serial).dedup.length ≤ 30 := by
  constructor
  · rcases parse_shares (Parser.mk nounRows .shape) (.nonterminal "np")
      ["fish", "fish", "fish", "fish"] (ends_of_acyclic nounRows_acyclic _ (by decide)) with
      ⟨trees, parsed, _, shapes, _⟩
    exact ⟨trees, parsed, ne_nil_of_nounRow (fun _ => id) 2 parsed, shapes rfl⟩
  · rcases parse_shares (Parser.mk nounRows .span) (.nonterminal "np")
      ["fish", "fish", "fish", "fish"] (ends_of_acyclic nounRows_acyclic _ (by decide)) with
      ⟨trees, parsed, _, _, spans⟩
    exact ⟨trees, parsed, ne_nil_of_nounRow (fun _ => id) 2 parsed, spans rfl⟩

end Parser
end ParseForest
