import ParseForest.Grammar.English
import ParseForest.Proofs.Worklist.Saturation
import ParseForest.Proofs.Worklist.Termination

namespace ParseForest

/-!
# Every parse is a derivation

Whatever the policy, a tree of the forest comes from a complete arc over the
whole sentence, and such an arc is sound.  So the tree is a derivation tree of
the sentence from the start symbol.  The statement spells out what this means at
every node of the tree.
-/

namespace Tree

/-- The tree derives the sentence from the start symbol. -/
structure IsParse (g : Grammar) (start : Symbol) (tokens : List Text) (t : Tree) : Prop where
  head_eq : t.head = start
  span_eq : t.span = ⟨0, tokens.length⟩
  leaves_eq : t.leaves = tokens
  /-- A node with children is labelled, together with them, as a rule says. -/
  rule_at : ∀ u : Tree, u.Within t → u.children ≠ [] →
    ∃ r ∈ g.rules, u.head = r.head ∧ u.children.map head = r.rhs
  /-- The children lie end to end over the span of their node. -/
  tiled_at : ∀ u : Tree, u.Within t → u.children ≠ [] →
    Tiled u.span.start u.children u.span.stop
  /-- A node without children is the token at its position. -/
  token_at : ∀ u : Tree, u.Within t → u.children = [] →
    ∃ k : Nat, ∃ token, tokens[k]? = some token ∧ u.head = .terminal token ∧ u.span = ⟨k, k + 1⟩

variable {g : Grammar} {tokens : List Text}

theorem Derivation.isParse {t : Tree} (derived : t.Derivation g tokens)
    (span : t.span = ⟨0, tokens.length⟩) : t.IsParse g t.head tokens where
  head_eq := rfl
  span_eq := span
  leaves_eq := derived.leaves_eq_tokens span
  rule_at u part inner := by
    cases derived.within part with
    | leaf => exact absurd rfl inner
    | node serial span r children member labels tiled parts => exact ⟨r, member, rfl, labels⟩
  tiled_at u part inner := by
    cases derived.within part with
    | leaf => exact absurd rfl inner
    | node serial span r children member labels tiled parts => exact tiled
  token_at u part childless := by
    cases derived.within part with
    | leaf serial k token found => exact ⟨k, token, found, rfl, rfl⟩
    | node serial span r children member labels tiled parts =>
        rw [children_node] at childless
        rw [childless] at labels
        exact absurd labels.symm r.rhs_ne_nil

end Tree

namespace Problem

variable {p : Problem} {policy : Policy} {chart : Chart}

/-- The roots of a filled chart are derivation trees of the whole sentence. -/
theorem Filled.root_derivation (filled : p.Filled policy chart) {t : Tree}
    (member : t ∈ p.roots chart) :
    t.Derivation p.grammar p.tokens ∧ t.head = p.start ∧ t.span = ⟨0, p.tokens.length⟩ := by
  rcases mem_roots.mp member with ⟨a, inCell, first, built, head⟩
  have builds := (filled.charted.sound inCell).builds built
  have last := filled.charted.tidy.located _ a inCell
  refine ⟨builds.derived, head, ?_⟩
  rw [builds.span_eq, ← first, ← last]

end Problem

namespace Parser

/-- Every tree that a parse returns derives the sentence from the start symbol,
whatever the policy. -/
theorem parse_sound (parser : Parser) (start : Symbol) (tokens : List Text)
    (ends : parser.Ends start tokens) :
    ∃ trees, parser.parse start tokens = .ok trees ∧
      ∀ t ∈ trees, t.IsParse parser.grammar start tokens := by
  rcases ends.parse_eq with ⟨chart, filled, parsed⟩
  refine ⟨_, parsed, fun t member => ?_⟩
  rcases filled.root_derivation member with ⟨derived, head, span⟩
  change t.head = start at head
  exact head ▸ derived.isParse span

/-- The built-in grammar has no unary rules over nonterminals. -/
theorem english_acyclic : Grammar.englishWithNounAttachment.grammar.UnaryAcyclic :=
  Grammar.unaryAcyclic_of_rank (fun _ => 0) (by decide)

open Grammar (phrase word)

theorem derives_english :
    Grammar.englishWithNounAttachment.grammar.Derives [.nonterminal "np", .nonterminal "vp"]
      (["the", "boy", "hits", "a", "dog", "with", "a", "long", "rod"].map .terminal) := by
  have tag (name token : Text)
      (known : word name token ∈ Grammar.englishWithNounAttachment.grammar.rules) :
      Grammar.englishWithNounAttachment.grammar.Derives [.nonterminal name] [.terminal token] :=
    .of_rule known
  have boy := Grammar.Derives.of_parts (r := phrase "np" ["det", "noun"] rfl) (by decide)
    ((tag "det" "the" (by decide)).append (tag "noun" "boy" (by decide)))
  have dog := Grammar.Derives.of_parts (r := phrase "np" ["det", "noun"] rfl) (by decide)
    ((tag "det" "a" (by decide)).append (tag "noun" "dog" (by decide)))
  have rod := Grammar.Derives.of_parts (r := phrase "np" ["det", "adj", "noun"] rfl) (by decide)
    ((tag "det" "a" (by decide)).append
      ((tag "adj" "long" (by decide)).append (tag "noun" "rod" (by decide))))
  have hits := Grammar.Derives.of_parts (r := phrase "vp" ["verb", "np"] rfl) (by decide)
    ((tag "verb" "hits" (by decide)).append dog)
  have means := Grammar.Derives.of_parts (r := phrase "pp" ["prep", "np"] rfl) (by decide)
    ((tag "prep" "with" (by decide)).append rod)
  exact boy.append (.of_parts (r := phrase "vp" ["vp", "pp"] rfl) (by decide) (hits.append means))

/-- An ambiguous sentence, under the policy that keeps every tree it builds. -/
theorem parse_sound_english :
    ∃ trees, (Parser.mk Grammar.englishWithNounAttachment.grammar .identity).parse
        Grammar.englishWithNounAttachment.start
        ["the", "boy", "hits", "a", "dog", "with", "a", "long", "rod"] = .ok trees ∧
      trees ≠ [] ∧ ∀ t ∈ trees, t.IsParse Grammar.englishWithNounAttachment.grammar
        Grammar.englishWithNounAttachment.start
        ["the", "boy", "hits", "a", "dog", "with", "a", "long", "rod"] := by
  rcases parse_sound (Parser.mk Grammar.englishWithNounAttachment.grammar .identity)
    Grammar.englishWithNounAttachment.start
    ["the", "boy", "hits", "a", "dog", "with", "a", "long", "rod"]
    (ends_of_acyclic english_acyclic _ (by decide)) with ⟨trees, parsed, sound⟩
  have some := ne_nil_of_derives parsed (r := phrase "sentence" ["np", "vp"] rfl) (by decide)
    (by decide) rfl derives_english
  exact ⟨trees, parsed, some, sound⟩

end Parser
end ParseForest
