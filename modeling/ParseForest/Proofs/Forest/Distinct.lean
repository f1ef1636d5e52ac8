import ParseForest.Proofs.Forest.Ambiguity
import ParseForest.Proofs.Worklist.Steps
import ParseForest.Proofs.Worklist.Tally

namespace ParseForest

/-!
# Forests without repetitions

Where trees are told apart by shape, a forest lists no shape twice.  Insertion
compares a new tree only with those of arcs that have its key.  But the shape of
a tree shows the rule at its root and the span that it covers, so two trees of
one shape come from arcs with one key, no matter how often the rule stands in the
grammar and how many arcs have waited for the last child.

Together with what is known about lost readings this tells when a forest is exact.
If nothing before the last symbol of a rule is ambiguous, every reading of the
sentence is listed once.  Ambiguity in the last symbols does no harm: all of it
shows in the forest.
-/

namespace Problem

variable {p : Problem} {policy : Policy} {chart : Chart}

theorem Filled.roots_shapes_nodup (filled : p.Filled .shape chart) :
    ((p.roots chart).map Tree.shape).Nodup := by
  rw [List.Nodup, List.pairwise_map]
  refine List.Pairwise.filterMap _ ?_ (filled.shapes_distinct p.tokens.length)
  intro a b distinct t root u root'
  exact distinct t u (Chart.rootOf_eq_some.mp root).2.1 (Chart.rootOf_eq_some.mp root').2.1

/-- The shapes of a forest determine the positions of its trees. -/
theorem Filled.index_eq_of_shape (filled : p.Filled .shape chart) {i j : Nat} {t u : Tree}
    (first : (p.roots chart)[i]? = some t) (second : (p.roots chart)[j]? = some u)
    (shapes : t.shape = u.shape) : i = j := by
  have inside : i < ((p.roots chart).map Tree.shape).length := by
    rw [List.length_map]
    exact (List.getElem?_eq_some_iff.mp first).1
  apply (List.getElem?_inj inside filled.roots_shapes_nodup).mp
  rw [List.getElem?_map, List.getElem?_map, first, second, Option.map_some, Option.map_some, shapes]

/-- Among the trees of a forest the comparison is one of shapes. -/
theorem Filled.same_iff_of_roots (filled : p.Filled policy chart) {t u : Tree}
    (first : t ∈ p.roots chart) (second : u ∈ p.roots chart) :
    t.same u = true ↔ t.shape = u.shape := by
  rcases filled.numbered with ⟨bound, numbered⟩
  rcases mem_roots.mp first with ⟨a, inCell, _, built, _⟩
  rcases mem_roots.mp second with ⟨b, inCell', _, built', _⟩
  exact Tree.same_iff_shape t u (numbered.agree_of_mem inCell inCell' built built')

end Problem

namespace Parser

/-- Where trees are told apart by shape, trees at different places of the forest
are different, and a tree is taken for no other than itself. -/
theorem parse_distinct (g : Grammar) (start : Symbol) (tokens : List Text)
    (ends : (Parser.mk g .shape).Ends start tokens) :
    ∃ trees : List Tree, (Parser.mk g .shape).parse start tokens = .ok trees ∧
      ∀ (i j : Nat) (t u : Tree), trees[i]? = some t → trees[j]? = some u →
        (t.same u = true ↔ i = j) := by
  rcases ends.parse_eq with ⟨chart, filled, parsed⟩
  refine ⟨_, parsed, fun i j t u first second => ?_⟩
  rw [filled.same_iff_of_roots (List.mem_of_getElem? first) (List.mem_of_getElem? second)]
  constructor
  · exact filled.index_eq_of_shape first second
  · rintro rfl
    rw [first, Option.some.injEq] at second
    rw [second]

/-- Rows of nouns under a grammar that has each of its rules twice. -/
theorem parse_distinct_twice :
    ∃ trees : List Tree, (Parser.mk (.ofRules (nounRows.rules ++ nounRows.rules)) .shape).parse
        (.nonterminal "np") ["fish", "fish", "fish", "fish"] = .ok trees ∧
      trees ≠ [] ∧ ∀ (i j : Nat) (t u : Tree), trees[i]? = some t → trees[j]? = some u →
        (t.same u = true ↔ i = j) := by
  have acyclic : (Grammar.ofRules (nounRows.rules ++ nounRows.rules)).UnaryAcyclic :=
    Grammar.unaryAcyclic_of_rank (fun s => if s = .nonterminal "np" then 1 else 0) (by decide)
  rcases parse_distinct (.ofRules (nounRows.rules ++ nounRows.rules)) (.nonterminal "np")
    ["fish", "fish", "fish", "fish"] (ends_of_acyclic acyclic _ (by decide)) with
    ⟨trees, parsed, distinct⟩
  exact ⟨trees, parsed, ne_nil_of_nounRow (by decide) 2 parsed, distinct⟩

/-- Where unary rules form no cycle and nothing before the last symbol of a rule is
ambiguous over the sentence, the forest of shapes has every reading once. -/
theorem parse_exact (g : Grammar) (start : Symbol) (tokens : List Text)
    (acyclic : g.UnaryAcyclic) (unambiguous : g.PrefixesUnambiguous tokens) :
    (Chart.maxLength ≤ tokens.length ∧
      (Parser.mk g .shape).parse start tokens = .error .badLength) ∨
    ∃ trees : List Tree, (Parser.mk g .shape).parse start tokens = .ok trees ∧
      ∀ t, Problem.Reading ⟨g, start, tokens⟩ t →
        ∃! i : Nat, ∃ u : Tree, trees[i]? = some u ∧ u.shape = t.shape := by
  rcases Nat.lt_or_ge tokens.length Chart.maxLength with fits | long
  · have ends : (Parser.mk g .shape).Ends start tokens := ends_of_acyclic acyclic start fits
    rcases ends.parse_eq with ⟨chart, filled, parsed⟩
    refine Or.inr ⟨_, parsed, fun t reading => ?_⟩
    have unique := Problem.frontsUnique_of_prefixes (p := ⟨g, start, tokens⟩) unambiguous
    have finer : Policy.shape ≠ .span := by decide
    rcases filled.kept_reading finer unique reading with ⟨u, inForest, same⟩
    rcases List.mem_iff_getElem?.mp inForest with ⟨i, found⟩
    refine ⟨i, ⟨u, found, same⟩, ?_⟩
    rintro j ⟨v, found', same'⟩
    exact filled.index_eq_of_shape found' found (same'.trans same.symm)
  · exact Or.inl ⟨long, Problem.parse_eq_badLength .shape long⟩

open Grammar (phrase word)

/-- Rows of one token that can be tagged in two ways. -/
def twoTags : Grammar :=
  .ofRules
    [phrase "s" ["a", "s"],
      phrase "s" ["b", "s"],
      phrase "s" ["a"],
      phrase "s" ["b"],
      word "a" "t",
      word "b" "t"]

/-- The reading of a row from position `k` on that has the given tags. -/
def tagging (k : Nat) (tag : Text) : List Text → Tree
  | [] => .node 0 ⟨k, k + 1⟩ (.nonterminal "s") [tagOf k tag]
  | next :: rest =>
    .node 0 ⟨k, k + rest.length + 2⟩ (.nonterminal "s") [tagOf k tag, tagging (k + 1) next rest]
where
  /-- The tag of the token at `k`. -/
  tagOf (k : Nat) (tag : Text) : Tree :=
    .node 0 ⟨k, k + 1⟩ (.nonterminal tag) [.leaf 0 ⟨k, k + 1⟩ "t"]

theorem tagging_head (k : Nat) (tag : Text) (tags : List Text) :
    (tagging k tag tags).head = .nonterminal "s" := by
  cases tags <;> rfl

theorem tagging_span (k : Nat) (tag : Text) (tags : List Text) :
    (tagging k tag tags).span = ⟨k, k + tags.length + 1⟩ := by
  cases tags with
  | nil => simp [tagging]
  | cons next rest =>
      simp [tagging]
      omega

theorem twoTags_rules {tag : Text} (known : tag ∈ (["a", "b"] : List Text)) :
    word tag "t" ∈ twoTags.rules ∧ phrase "s" [tag] rfl ∈ twoTags.rules ∧
      phrase "s" [tag, "s"] rfl ∈ twoTags.rules := by
  rcases List.mem_pair.mp known with rfl | rfl <;> decide

theorem tagging_derivation {tokens : List Text} {k : Nat} {tag : Text} {tags : List Text}
    (known : ∀ x ∈ tag :: tags, x ∈ (["a", "b"] : List Text))
    (found : ∀ i ≤ tags.length, tokens[k + i]? = some ("t" : Text)) :
    (tagging k tag tags).Derivation twoTags tokens := by
  induction tags generalizing k tag with
  | nil =>
      rcases twoTags_rules (known tag (List.mem_cons_self ..)) with ⟨lexical, single, _⟩
      have leaf := Tree.Derivation.leaf (g := twoTags) 0 k "t" (found 0 (Nat.le_refl 0))
      exact derivation_unary single rfl rfl (derivation_unary lexical rfl rfl leaf)
  | cons next rest ih =>
      rcases twoTags_rules (known tag (List.mem_cons_self ..)) with ⟨lexical, _, pair⟩
      have leaf := Tree.Derivation.leaf (g := twoTags) 0 k "t" (found 0 (Nat.zero_le _))
      have first := derivation_unary lexical rfl rfl leaf
      have others : (tagging (k + 1) next rest).Derivation twoTags tokens := by
        refine ih (fun x inside => known x (List.mem_cons_of_mem tag inside)) ?_
        intro i inside
        rw [Nat.add_assoc, Nat.add_comm 1 i]
        exact found (i + 1) (Nat.succ_le_succ inside)
      refine .node 0 _ (phrase "s" [tag, "s"] rfl) _ pair ?_ ?_ ?_
      · rw [List.map_cons, List.map_singleton, tagging_head]
        rfl
      · rw [Tree.tiled_cons, Tree.tiled_cons, Tree.tiled_nil, tagging_span]
        refine ⟨rfl, rfl, ?_⟩
        change ((k + 1 : Nat) : Int) + rest.length + 1 = k + rest.length + 2
        omega
      · intro c inside
        rcases List.mem_pair.mp inside with equal | equal
        · exact equal ▸ first
        · exact equal ▸ others

theorem tagging_shape (k : Nat) (tag : Text) (tags : List Text) :
    (tagging k tag tags).shape = tagging k tag tags := by
  induction tags generalizing k tag with
  | nil => rfl
  | cons next rest ih =>
      rw [tagging, Tree.shape_node, List.map_cons, List.map_singleton, ih]
      rfl

/-- All eight readings of three tokens are listed, each once. -/
theorem parse_exact_twoTags :
    ∃ trees : List Tree,
      (Parser.mk twoTags .shape).parse (.nonterminal "s") ["t", "t", "t"] = .ok trees ∧
      ∀ x ∈ (["a", "b"] : List Text), ∀ y ∈ (["a", "b"] : List Text),
        ∀ z ∈ (["a", "b"] : List Text),
          ∃! i : Nat, ∃ u : Tree, trees[i]? = some u ∧ u.shape = tagging 0 x [y, z] := by
  have acyclic : twoTags.UnaryAcyclic :=
    Grammar.unaryAcyclic_of_rank (fun s => if s = .nonterminal "s" then 1 else 0) (by decide)
  rcases parse_exact twoTags (.nonterminal "s") ["t", "t", "t"] acyclic
    (Grammar.prefixesUnambiguous_of_tags (by decide)) with ⟨long, _⟩ | ⟨trees, parsed, once⟩
  · exact absurd long (by decide)
  · refine ⟨trees, parsed, fun x knownX y knownY z knownZ => ?_⟩
    have found : ∀ i ≤ 2, (["t", "t", "t"] : List Text)[0 + i]? = some ("t" : Text) := by decide
    have known : ∀ tag ∈ [x, y, z], tag ∈ (["a", "b"] : List Text) := by
      intro tag inside
      simp only [List.mem_cons, List.not_mem_nil, or_false] at inside
      rcases inside with rfl | rfl | rfl <;> assumption
    have derived := tagging_derivation known found
    have reading : Problem.Reading ⟨twoTags, .nonterminal "s", ["t", "t", "t"]⟩
        (tagging 0 x [y, z]) :=
      ⟨derived, rfl, _, (twoTags_rules knownX).2.2, rfl, rfl, rfl, rfl⟩
    rw [← tagging_shape]
    exact once _ reading

end Parser
end ParseForest
