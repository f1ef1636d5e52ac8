import ParseForest.Proofs.Forest.Soundness

namespace ParseForest

/-!
# Every root rule that derives the sentence is found

For a syntactic rule of the start symbol the forest has a tree that applies it
at the root exactly if the right-hand side derives the sentence.  Where every
key occurs once, there is exactly one such tree, since all of them would come
from arcs with one and the same key.

Lexical rules of the start symbol are left out.  Seeding does not scan, so
whether these are found depends on what the rest of the grammar awaits.
-/

namespace Problem

variable {p : Problem} {policy : Policy} {chart : Chart}

/-- Where keys occur once, no two roots apply the same rule. -/
theorem Filled.roots_distinct (filled : p.Filled .span chart) (r : Rule) :
    (p.roots chart).Pairwise fun t u => ¬ (t.Applies r ∧ u.Applies r) := by
  refine List.Pairwise.filterMap _ ?_
    (List.Pairwise.and_mem.mp (filled.charted.tidy.distinct p.tokens.length))
  rintro a b ⟨inCell, inCell', distinct⟩ t root u root' ⟨applies, applies'⟩
  rcases Chart.rootOf_eq_some.mp root with ⟨first, built, _⟩
  rcases Chart.rootOf_eq_some.mp root' with ⟨first', built', _⟩
  have builds := (filled.charted.sound inCell).builds built
  have builds' := (filled.charted.sound inCell').builds built'
  have rules : b.rule = a.rule :=
    (builds'.applies.unique applies').trans (applies.unique builds.applies)
  have spans : b.span = a.span := by
    have last := filled.charted.tidy.located _ a inCell
    have last' := filled.charted.tidy.located _ b inCell'
    cases spanA : a.span
    cases spanB : b.span
    simp_all
  have dots : b.dot = a.dot := by
    rw [Arc.isComplete_iff.mp builds.complete, Arc.isComplete_iff.mp builds'.complete, rules]
  rw [filled.policy_eq] at distinct
  simp [Policy.merges, Arc.key, spans, rules, dots, built, built'] at distinct

end Problem

/-- Exactly one entry has a property that some entry has and no two share. -/
theorem countP_eq_one {α : Type} {P : α → Bool} {entries : List α}
    (distinct : entries.Pairwise fun x y => ¬ (P x = true ∧ P y = true))
    (found : ∃ x ∈ entries, P x = true) : entries.countP P = 1 := by
  induction entries with
  | nil =>
      rcases found with ⟨x, member, _⟩
      cases member
  | cons x rest ih =>
      rcases List.pairwise_cons.mp distinct with ⟨apart, distinctRest⟩
      by_cases here : P x = true
      · have none : rest.countP P = 0 :=
          List.countP_eq_zero.mpr fun y member both => apart y member ⟨here, both⟩
        rw [List.countP_cons_of_pos here, none]
      · rw [List.countP_cons_of_neg here]
        rcases found with ⟨y, member, holds⟩
        rcases List.mem_cons.mp member with first | later
        · exact absurd (first ▸ holds) here
        · exact ih distinctRest ⟨y, later, holds⟩

namespace Parser

/-- A syntactic rule of the start symbol is applied at the root of some tree
exactly if its right-hand side derives the sentence; where the first arc of a
key stands for all, it is then applied at the root of exactly one tree. -/
theorem parse_complete (parser : Parser) (start : Symbol) (tokens : List Text)
    (ends : parser.Ends start tokens) (r : Rule) (member : r ∈ parser.grammar.rules)
    (syntactic : r.isLexical = false) (head : r.head = start) :
    ∃ trees, parser.parse start tokens = .ok trees ∧
      ((∃ t ∈ trees, t.Applies r) ↔ parser.grammar.Derives r.rhs (tokens.map .terminal)) ∧
      (parser.policy = .span → parser.grammar.Derives r.rhs (tokens.map .terminal) →
        trees.countP (fun t => t.Applies r) = 1) := by
  rcases ends.parse_eq with ⟨chart, filled, parsed⟩
  have complete : parser.grammar.Derives r.rhs (tokens.map .terminal) →
      ∃ t ∈ (parser.problem start tokens).roots chart, t.Applies r :=
    filled.exists_root_of_derives member syntactic head
  refine ⟨_, parsed, ⟨?_, complete⟩, ?_⟩
  · rintro ⟨t, inForest, applies⟩
    rcases filled.root_derivation inForest with ⟨derived, _, span⟩
    have tiled := derived.tiled (applies.1 ▸ r.head_isTerminal)
    rw [span] at tiled
    exact Tree.derives_tokens_iff.mpr
      ⟨t.children, applies.2, tiled, fun c inChildren => derived.parts_of_mem inChildren⟩
  · intro coarse run
    rw [coarse] at filled
    rcases complete run with ⟨t, inForest, applies⟩
    apply countP_eq_one
    · exact (filled.roots_distinct r).imp fun apart both =>
        apart ⟨of_decide_eq_true both.1, of_decide_eq_true both.2⟩
    · exact ⟨t, inForest, decide_eq_true applies⟩

open Grammar (phrase word)

/-- Rows of nouns, which group from either end. -/
def compounds : Grammar :=
  .ofRules
    [phrase "np" ["noun"],
      phrase "np" ["np", "noun"],
      phrase "np" ["noun", "np"],
      word "noun" "apple",
      word "noun" "worm",
      word "noun" "gate"]

/-- The left branching rule is found once, although two trees apply it. -/
theorem parse_complete_compounds :
    ∃ trees, (Parser.mk compounds .span).parse (.nonterminal "np") ["apple", "worm", "gate"] =
        .ok trees ∧
      (∃ t ∈ trees, t.Applies (phrase "np" ["np", "noun"])) ∧
      trees.countP (fun t => t.Applies (phrase "np" ["np", "noun"])) = 1 := by
  have acyclic : compounds.UnaryAcyclic :=
    Grammar.unaryAcyclic_of_rank (fun s => if s = .nonterminal "np" then 1 else 0) (by decide)
  have run : compounds.Derives [.nonterminal "np", .nonterminal "noun"]
      [.terminal "apple", .terminal "worm", .terminal "gate"] := by
    have noun : ∀ token : Text, word "noun" token ∈ compounds.rules →
        compounds.Derives [.nonterminal "noun"] [.terminal token] :=
      fun _ member => Grammar.Derives.of_rule member
    have single : compounds.Derives [.nonterminal "np"] [.nonterminal "noun"] :=
      Grammar.Derives.of_rule (r := phrase "np" ["noun"]) (by decide)
    have pair : compounds.Derives [.nonterminal "np"] [.nonterminal "np", .nonterminal "noun"] :=
      Grammar.Derives.of_rule (r := phrase "np" ["np", "noun"]) (by decide)
    have first : compounds.Derives [.nonterminal "np"] [.terminal "apple"] :=
      single.trans (noun "apple" (by decide))
    have front : compounds.Derives [.nonterminal "np"] [.terminal "apple", .terminal "worm"] :=
      pair.trans (first.append (noun "worm" (by decide)))
    exact front.append (noun "gate" (by decide))
  rcases parse_complete (Parser.mk compounds .span)
    (.nonterminal "np") ["apple", "worm", "gate"] (ends_of_acyclic acyclic _ (by decide))
    (phrase "np" ["np", "noun"]) (by decide) (by decide) rfl with ⟨trees, parsed, found, once⟩
  exact ⟨trees, parsed, found.mpr run, once rfl run⟩

end Parser
end ParseForest
