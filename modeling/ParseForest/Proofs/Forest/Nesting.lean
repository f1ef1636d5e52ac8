import ParseForest.Proofs.Forest.Completeness
import ParseForest.Proofs.Worklist.Steps
import ParseForest.Tree.Json

namespace ParseForest

/-!
# Trees as deep as their sentence is long

In some grammars only the first part of a phrase can be longer than one token.  There a phrase
lacks at most one token of what it is part of, so that a tree is as deep as its
sentence is long.  Since nodes are nested in JSON, and only so far, a long sentence of such a
grammar has no tree that can be encoded.
-/

namespace Grammar

/-- A phrase has two parts at most, and the second of them is one token. -/
def LeansLeft (g : Grammar) : Prop :=
  ∀ r ∈ g.rules, r.rhs.length ≤ 2 ∧
    ∀ s ∈ r.rhs.tail, ∀ r' ∈ g.rules, r'.head = s → r'.isLexical = true

instance (g : Grammar) : Decidable g.LeansLeft :=
  inferInstanceAs (Decidable (∀ r ∈ g.rules, _ ∧ ∀ s ∈ r.rhs.tail, ∀ r' ∈ g.rules, _ → _))

end Grammar

namespace Tree

variable {g : Grammar} {tokens : List Text} {t : Tree}

/-- A tree is one token wide if only lexical rules have its label. -/
theorem Derivation.stop_eq_of_tag (derived : t.Derivation g tokens)
    (tag : ∀ r ∈ g.rules, r.head = t.head → r.isLexical = true) :
    t.span.stop = t.span.start + 1 := by
  cases derived with
  | leaf => rfl
  | node serial span r children member labels tiled parts =>
      rcases r.isLexical_iff.mp (tag r member rfl) with ⟨token, lexical⟩
      have derived := Derivation.node serial span r children member labels tiled parts
      rcases derived.eq_tagged ⟨rfl, labels⟩ lexical with ⟨_, _, _, spans, _⟩
      rw [spans]

/-- A tree of a grammar that leans to the left is at least as deep as it is wide. -/
theorem Derivation.width_le_jsonDepth (leans : g.LeansLeft) (derived : t.Derivation g tokens) :
    2 * (t.span.stop - t.span.start) ≤ t.jsonDepth := by
  induction derived with
  | leaf serial k token found =>
      change 2 * ((k + 1 : Int) - k) ≤ 2
      omega
  | node serial span r children member labels tiled parts ih =>
      rcases leans r member with ⟨few, tags⟩
      rw [← labels, List.length_map] at few
      rw [← labels] at tags
      rw [jsonDepth, span_node]
      rcases children with _ | ⟨c, _ | ⟨d, _ | ⟨e, others⟩⟩⟩
      · exact absurd labels.symm r.rhs_ne_nil
      · have first := ih c List.mem_cons_self
        rcases tiled with ⟨starts, stops⟩
        rw [tiled_nil] at stops
        rw [jsonDepthAll]
        omega
      · have first := ih c List.mem_cons_self
        have inRow : d ∈ [c, d] := List.mem_cons_of_mem c List.mem_cons_self
        have second := (parts d inRow).stop_eq_of_tag (tags d.head List.mem_cons_self)
        rcases tiled with ⟨starts, starts', stops⟩
        rw [tiled_nil] at stops
        rw [jsonDepthAll]
        omega
      · simp only [List.length_cons] at few
        omega

end Tree

namespace Parser

open Grammar (phrase word)

/-- Rows of one word that grow at their end. -/
def growing : Grammar :=
  .ofRules [phrase "s" ["s", "n"] rfl, phrase "s" ["n"] rfl, word "n" "x"]

theorem growing_acyclic : growing.UnaryAcyclic :=
  Grammar.unaryAcyclic_of_rank (fun s => if s = .nonterminal "s" then 1 else 0) (by decide)

theorem growing_leansLeft : growing.LeansLeft := by
  decide

/-- One word, repeated. -/
def row (n : Nat) : List Text :=
  List.replicate n "x"

theorem length_row (n : Nat) : (row n).length = n :=
  List.length_replicate

theorem row_succ (n : Nat) : row (n + 1) = row n ++ [.ofString "x"] :=
  List.replicate_succ'

theorem derives_growing (n : Nat) :
    growing.Derives [.nonterminal "s"] ((row (n + 1)).map .terminal) := by
  have tags : growing.Derives [.nonterminal "n"] [.terminal "x"] :=
    Grammar.Derives.of_rule (r := word "n" "x") (by decide)
  induction n with
  | zero => exact .of_parts (r := phrase "s" ["n"] rfl) (by decide) tags
  | succ n ih =>
      rw [row_succ, List.map_append]
      exact .of_parts (r := phrase "s" ["s", "n"] rfl) (by decide) (ih.append tags)

/-- Only a row of one word does without a shorter row. -/
theorem applies_growing {tokens : List Text} {t : Tree} (derived : t.Derivation growing tokens)
    (head : t.head = .nonterminal "s") (several : t.span.start + 1 < t.span.stop) :
    t.Applies (phrase "s" ["s", "n"] rfl) := by
  have phrase : t.head.isTerminal = false := congrArg Symbol.isTerminal head
  rcases derived.exists_rule phrase with ⟨r, member, applies, _⟩
  have rules : growing.rules = [Grammar.phrase "s" ["s", "n"] rfl, Grammar.phrase "s" ["n"] rfl,
      word "n" "x"] := by decide
  rw [rules] at member
  rcases List.mem_cons.mp member with rfl | member
  · exact applies
  rcases List.mem_cons.mp member with rfl | member
  · -- The row would be as wide as its word.
    rcases List.map_eq_singleton_iff.mp applies.2 with ⟨c, only, label⟩
    have tiled := derived.tiled phrase
    rw [only] at tiled
    have tag : ∀ r ∈ growing.rules, r.head = c.head → r.isLexical = true := by
      rw [label]
      decide
    have narrow := (derived.parts_of_mem (only ▸ List.mem_singleton_self c)).stop_eq_of_tag tag
    rcases tiled with ⟨starts, stops⟩
    rw [Tree.tiled_nil] at stops
    omega
  · rw [List.mem_singleton.mp member] at applies
    exact absurd (head.symm.trans applies.1) (by decide)

/-- A row of more than one word has exactly one tree, and it is as deep as the row is long. -/
theorem exists_parse_growing {n : Nat} (several : 2 ≤ n) (fits : n < Chart.maxLength) :
    ∃ t, (Parser.mk growing .span).parse (.nonterminal "s") (row n) = .ok [t] ∧
      2 * n ≤ t.jsonDepth := by
  have growth : phrase "s" ["s", "n"] rfl ∈ growing.rules := by decide
  have ends : (Parser.mk growing .span).Ends (.nonterminal "s") (row n) :=
    ends_of_acyclic growing_acyclic _ ((length_row n).symm ▸ fits)
  rcases ends.parse_eq with ⟨chart, filled, parsed⟩
  have grown {t : Tree}
      (root : t ∈ ((Parser.mk growing .span).problem (.nonterminal "s") (row n)).roots chart) :
      t.Applies (phrase "s" ["s", "n"] rfl) ∧ 2 * n ≤ t.jsonDepth := by
    rcases filled.root_derivation root with ⟨derived, head, span⟩
    have width := derived.width_le_jsonDepth growing_leansLeft
    have start : t.span.start = 0 := congrArg Span.start span
    have stop : t.span.stop = n := (congrArg Span.stop span).trans (congrArg Nat.cast (length_row n))
    exact ⟨applies_growing derived head (by omega), by omega⟩
  have derives : growing.Derives (phrase "s" ["s", "n"] rfl).rhs ((row n).map .terminal) := by
    obtain ⟨k, rfl⟩ := Nat.exists_eq_add_of_le several
    rw [Nat.add_comm, row_succ, List.map_append]
    exact (derives_growing k).append (Grammar.Derives.of_rule (r := word "n" "x") (by decide))
  rcases filled.exists_root_of_derives growth (by decide) rfl derives with ⟨t, root, applies⟩
  have one := countP_eq_one (P := fun t => decide (t.Applies (phrase "s" ["s", "n"] rfl)))
    (by simpa only [decide_eq_true_eq] using filled.roots_distinct _)
    ⟨t, root, decide_eq_true applies⟩
  rw [List.countP_eq_length.mpr fun t root => decide_eq_true (grown root).1] at one
  rcases List.length_eq_one_iff.mp one with ⟨u, only⟩
  exact ⟨u, only ▸ parsed, (grown (only ▸ List.mem_singleton_self u)).2⟩

end Parser
end ParseForest
