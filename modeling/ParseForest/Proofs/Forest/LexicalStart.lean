import ParseForest.Proofs.Forest.Soundness
import ParseForest.Proofs.Worklist.Saturation

namespace ParseForest

/-!
# Lexical rules of the start symbol

Seeds are arcs that have matched nothing yet.  A token is scanned only when an
arc waits for one of its tags, and a seed waits for the first symbol of its rule
and not for its head.  So a sentence of one token that the start symbol tags is
found exactly if some arc of the first cell waits for the start symbol, that is,
if the first symbols of rules lead from the start symbol back to it.
-/

namespace Grammar

/-- Some rule for the first symbol begins with the second. -/
def LeftCorner (g : Grammar) (first second : Symbol) : Prop :=
  ∃ r ∈ g.rules, r.head = first ∧ r.rhs[0]? = some second

/-- Left corners do not lead to a symbol that no rule begins with. -/
theorem not_leftCorner_of_forall {g : Grammar} {first second : Symbol}
    (never : ∀ r ∈ g.rules, r.rhs[0]? ≠ some second) :
    ¬ Relation.TransGen g.LeftCorner first second := by
  intro chain
  rcases Relation.TransGen.tail'_iff.mp chain with ⟨_, _, r, member, _, begins⟩
  exact never r member begins

end Grammar

namespace Problem

variable {p : Problem} {policy : Policy} {chart : Chart}

/-! ## What is awaited in the first cell -/

/-- An arc that ends where the sentence begins has matched nothing, and left
corners lead from the start symbol to its head. -/
theorem Deduced.leftCorner {a : Arc} (deduced : p.Deduced a) (first : a.span.stop = 0) :
    a.dot = 0 ∧ Relation.ReflTransGen p.grammar.LeftCorner p.start a.rule.head := by
  induction deduced with
  | seed r member head =>
      refine ⟨rfl, ?_⟩
      rw [Arc.predict, head]
  | predict waiting next r member head ih =>
      rcases ih first with ⟨dot, chain⟩
      have awaited := waiting.sound.next_eq_some.mp next
      rw [dot] at awaited
      exact ⟨rfl, chain.tail ⟨_, waiting.sound.rule_mem, rfl, head ▸ awaited⟩⟩
  | scan waiting next r member head serial token lexical found ih =>
      have lower := Int.le_trans waiting.sound.start_nonneg waiting.sound.start_le
      change _ + 1 = (0 : Int) at first
      omega
  | extend waiting finished built next meets serial _ _ =>
      have bounds := (finished.sound.builds built).derived.span_bounds
      change Span.stop (Tree.span _) = 0 at first
      omega

/-- What left corners lead to from the start symbol is awaited in the first
cell. -/
theorem Filled.awaited_of_leftCorner (filled : p.Filled policy chart) {s : Symbol}
    (chain : Relation.TransGen p.grammar.LeftCorner p.start s) : Awaited chart s 0 := by
  have waits : ∀ {r : Rule} {b : Arc}, b ∈ chart.arcsIn 0 → b.key = ⟨⟨0, 0⟩, r, 0⟩ →
      ∀ {s : Symbol}, r.rhs[0]? = some s → Awaited chart s 0 := by
    intro r b inCell key s begins
    rcases Arc.key_eq.mp key with ⟨_, rule, dot⟩
    refine ⟨b, inCell, (filled.charted.sound inCell).next_eq_some.mpr ?_⟩
    rw [rule, dot, begins]
  induction chain with
  | single step =>
      rcases step with ⟨r, member, head, begins⟩
      rcases filled.seeded member head with ⟨b, inCell, key⟩
      exact waits inCell key begins
  | tail _ step ih =>
      rcases step with ⟨r, member, head, begins⟩
      rcases filled.predicted ih member head with ⟨b, inCell, key⟩
      exact waits inCell key begins

/-! ## Tagged tokens -/

/-- A token is tagged only where the tag is awaited. -/
theorem Deduced.awaited_of_tagged {c : Arc} (deduced : p.Deduced c) {token : Text}
    (lexical : c.rule.rhs = [.terminal token]) (complete : c.isComplete = true) :
    ∃ a, p.Deduced a ∧ a.next = .ok (some c.rule.head) ∧ a.span.stop = c.span.start := by
  cases deduced with
  | seed r member head =>
      rw [Arc.isComplete_iff, lexical] at complete
      cases complete
  | predict waiting next r member head =>
      rw [Arc.isComplete_iff, lexical] at complete
      cases complete
  | scan waiting next r member head serial token lexical found =>
      exact ⟨_, waiting, head ▸ next, rfl⟩
  | @extend _ b t waiting finished built next meets serial =>
      -- The rule awaits a token, and no tree that an arc has built is a token.
      have awaited := waiting.sound.next_eq_some.mp next
      have applies := (finished.sound.builds built).applies
      change b.rule.rhs = [.terminal token] at lexical
      rw [lexical] at awaited
      have label : t.head = .terminal token :=
        List.mem_singleton.mp (List.mem_of_getElem? awaited)
      have phrase := applies.1 ▸ Rule.head_isTerminal _
      rw [label] at phrase
      cases phrase

/-- The forest of a single token has its tag by the start symbol exactly if left
corners lead from the start symbol back to it. -/
theorem Filled.tagged_iff (filled : p.Filled policy chart) {r : Rule}
    (member : r ∈ p.grammar.rules) (head : r.head = p.start) {token : Text}
    (lexical : r.rhs = [.terminal token]) (single : p.tokens = [token]) :
    (∃ m n : Nat, Tree.node n ⟨0, 1⟩ p.start [.leaf m ⟨0, 1⟩ token] ∈ p.roots chart) ↔
      Relation.TransGen p.grammar.LeftCorner p.start p.start := by
  constructor
  · rintro ⟨m, n, inForest⟩
    rcases mem_roots.mp inForest with ⟨c, inCell, first, built, _⟩
    have deduced := filled.charted.deduced _ c inCell
    have builds := deduced.sound.builds built
    have begins : c.rule.rhs = [.terminal token] := builds.applies.2.symm
    rcases deduced.awaited_of_tagged begins builds.complete with ⟨a, waiting, next, meets⟩
    rcases waiting.leftCorner (meets.trans first) with ⟨dot, chain⟩
    have awaited := waiting.sound.next_eq_some.mp next
    rw [dot, ← builds.applies.1] at awaited
    exact Relation.TransGen.tail' chain ⟨_, waiting.sound.rule_mem, rfl, awaited⟩
  · intro cycle
    have waits := filled.awaited_of_leftCorner cycle
    have found : p.tokens[0]? = some token := by rw [single, List.getElem?_cons_zero]
    rcases filled.scanned waits member head lexical found with ⟨c, inCell, key⟩
    have full : c.key = ⟨⟨0, 1⟩, r, r.rhs.length⟩ := by rw [key, lexical]; rfl
    rcases filled.charted.exists_tree_of_key inCell full with ⟨u, built, span, applies⟩
    have derived := ((filled.charted.sound inCell).builds built).derived
    rcases derived.eq_tagged applies lexical with ⟨m, k, _, spanEq, children⟩
    rcases derived.exists_rule (applies.1 ▸ r.head_isTerminal) with ⟨r', _, applies', n, node⟩
    have first : (k : Int) = 0 := congrArg Span.start (spanEq.symm.trans span)
    rw [span, applies'.unique applies, head, children, first] at node
    have begins : c.span.start = 0 := congrArg (·.span.start) key
    have last : c ∈ chart.arcsIn p.tokens.length := by
      rw [single]
      exact inCell
    exact ⟨m, n, node ▸ mem_roots.mpr ⟨c, last, begins, built, applies.1.trans head⟩⟩

end Problem

namespace Parser

/-- A lexical rule of the start symbol gives a parse of its token exactly if the
start symbol is a left corner of itself. -/
theorem parse_tagged_iff (parser : Parser) (start : Symbol) (token : Text)
    (tags : ∃ r ∈ parser.grammar.rules, r.head = start ∧ r.rhs = [.terminal token])
    (ends : parser.Ends start [token]) :
    ∃ trees, parser.parse start [token] = .ok trees ∧
      ((∃ m n : Nat, Tree.node n ⟨0, 1⟩ start [.leaf m ⟨0, 1⟩ token] ∈ trees) ↔
        Relation.TransGen parser.grammar.LeftCorner start start) := by
  rcases tags with ⟨r, member, head, lexical⟩
  rcases ends.parse_eq with ⟨chart, filled, parsed⟩
  exact ⟨_, parsed, filled.tagged_iff member head lexical rfl⟩

open Grammar (phrase word)

/-- Where the start symbol begins one of its own rules, its tag is found. -/
theorem parse_tagged_recursive :
    ∃ trees, (Parser.mk (.ofRules [phrase "s" ["s", "x"], word "s" "a", word "x" "b"])
        .identity).parse (.nonterminal "s") ["a"] = .ok trees ∧
      ∃ m n : Nat, Tree.node n ⟨0, 1⟩ (.nonterminal "s") [.leaf m ⟨0, 1⟩ "a"] ∈ trees := by
  have acyclic : (Grammar.ofRules
      [phrase "s" ["s", "x"], word "s" "a", word "x" "b"]).UnaryAcyclic :=
    Grammar.unaryAcyclic_of_rank (fun _ => 0) (by decide)
  rcases parse_tagged_iff
    (Parser.mk (.ofRules [phrase "s" ["s", "x"], word "s" "a", word "x" "b"]) .identity)
    (.nonterminal "s") "a" ⟨word "s" "a", by decide, rfl, rfl⟩
    (ends_of_acyclic acyclic _ (by decide)) with ⟨trees, parsed, found⟩
  refine ⟨trees, parsed, found.mpr (.single ?_)⟩
  exact ⟨phrase "s" ["s", "x"], by decide, rfl, rfl⟩

/-- With one lexical rule and no other, its token has no parse that applies it. -/
theorem parse_misses_tag :
    ∃ trees, (Parser.mk (.ofRules [word "s" "a"]) .span).parse (.nonterminal "s") ["a"] =
        .ok trees ∧
      ¬ ∃ m n : Nat, Tree.node n ⟨0, 1⟩ (.nonterminal "s") [.leaf m ⟨0, 1⟩ "a"] ∈ trees := by
  have acyclic : (Grammar.ofRules [word "s" "a"]).UnaryAcyclic :=
    Grammar.unaryAcyclic_of_rank (fun _ => 0) (by decide)
  have ends : (Parser.mk (.ofRules [word "s" "a"]) .span).Ends (.nonterminal "s") ["a"] :=
    ends_of_acyclic acyclic _ (by decide)
  rcases ends.parse_eq with ⟨chart, filled, parsed⟩
  refine ⟨_, parsed, fun found => ?_⟩
  have member : word "s" "a" ∈ (Grammar.ofRules [word "s" "a"]).rules := List.mem_singleton_self _
  have cycle := (filled.tagged_iff member rfl rfl rfl).mp found
  exact Grammar.not_leftCorner_of_forall (by decide) cycle

end Parser
end ParseForest
