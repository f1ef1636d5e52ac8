import ParseForest.Tree.Format
import ParseForest.Proofs.Ebnf.Names
import ParseForest.Proofs.Forest.Ambiguity
import ParseForest.Proofs.Forest.Completeness
import ParseForest.Proofs.Tree.Layout

namespace ParseForest

/-!
# Trees of a sentence are written differently

A token is written as it is, so what is written for a tree could be read in many
ways.  But the trees of a sentence have its tokens in common, and with these in
hand both renderings for people can be read in one way only.  It does not matter
that the trees come from different grammars.
-/

open Text (byte)

/-- The sigil is neither a space nor a line feed. -/
theorem Symbol.not_mem_text {s : Symbol} {b : UInt8} (plain : b ∉ s.name)
    (other : b ≠ Symbol.sigil) : b ∉ s.text := by
  cases s with
  | terminal token => exact plain
  | nonterminal name =>
      intro member
      exact (List.mem_cons.mp member).elim other plain

namespace Grammar

variable {g : Grammar} {r : Rule}

theorem HasPlainNames.space_not_mem (plain : g.HasPlainNames) (member : r ∈ g.rules) :
    byte ' ' ∉ r.head.text :=
  Symbol.not_mem_text (plain r member).1 (by decide)

theorem HasPlainNames.lineEnd_not_mem (plain : g.HasPlainNames) (member : r ∈ g.rules) :
    byte '\n' ∉ r.head.text :=
  Symbol.not_mem_text (plain r member).2 (by decide)

end Grammar

namespace Tree

variable {g g' : Grammar} {tokens : List Text} {t u : Tree}

theorem Derivation.shape_eq_of_text (plain : g.HasPlainNames) (plain' : g'.HasPlainNames)
    (derived : t.Derivation g tokens) (derived' : u.Derivation g' tokens)
    (starts : t.span.start = u.span.start) (same : t.text = u.text) : t.shape = u.shape := by
  apply Layout.readable_oneLine.shape_eq (fun _ => plain.space_not_mem)
    (fun _ => plain'.space_not_mem) derived derived' starts
  rw [Layout.oneLine_write, Layout.oneLine_write, same]

theorem Derivation.shape_eq_of_indented (plain : g.HasPlainNames) (plain' : g'.HasPlainNames)
    (derived : t.Derivation g tokens) (derived' : u.Derivation g' tokens)
    (starts : t.span.start = u.span.start) (same : t.indented = u.indented) :
    t.shape = u.shape := by
  apply Layout.readable_manyLines.shape_eq (fun _ => plain.lineEnd_not_mem)
    (fun _ => plain'.lineEnd_not_mem) derived derived' starts
  rw [Layout.manyLines_write, Layout.manyLines_write]
  exact same

/-- A tree whose label only tags one token is written as that token and its tag. -/
theorem Derivation.text_of_tag (derived : t.Derivation g tokens) {tag : Symbol} {token : Text}
    (phrase : tag.isTerminal = false) (head : t.head = tag)
    (only : ∀ r ∈ g.rules, r.head = tag → r.rhs = [.terminal token]) :
    t.text = "(" ++ tag.text ++ (" '" ++ token ++ "'" ++ ")") := by
  rcases derived.exists_rule (head ▸ phrase) with ⟨r, member, applies, serial, node⟩
  have label : r.head = tag := applies.1.symm.trans head
  rcases derived.eq_tagged applies (only r member label) with ⟨_, _, _, _, children⟩
  rw [node, children, label]
  simp [text, textAll, show Text.ofString " '" = Text.ofString " " ++ Text.ofString "'" from rfl]

end Tree

namespace Parser

theorem derivation_of_parse {parser : Parser} {start : Symbol} {tokens : List Text}
    {trees : List Tree} (run : parser.parse start tokens = .ok trees) {t : Tree}
    (member : t ∈ trees) : t.Derivation parser.grammar tokens ∧ t.span.start = 0 := by
  rcases (Ends.of_parse run).parse_eq with ⟨chart, filled, run'⟩
  rw [run, Except.ok.injEq] at run'
  rcases filled.root_derivation (run' ▸ member) with ⟨derived, _, span⟩
  exact ⟨derived, by rw [span]⟩

/-- Trees of one sentence that are written alike, on one line or on many, are the
same.  They may come from different grammars and policies, and the tokens may
have any bytes in them.  The labels must be plain, as they are in every grammar that
is read from a file. -/
theorem parse_told_apart {parser parser' : Parser} {start start' : Symbol} {tokens : List Text}
    {trees trees' : List Tree} (run : parser.parse start tokens = .ok trees)
    (run' : parser'.parse start' tokens = .ok trees')
    (plain : parser.grammar.HasPlainNames ∨ parser.grammar.IsLoaded)
    (plain' : parser'.grammar.HasPlainNames ∨ parser'.grammar.IsLoaded) {t u : Tree}
    (member : t ∈ trees) (member' : u ∈ trees')
    (alike : t.text = u.text ∨ Format.bracketed.render t = Format.bracketed.render u ∨
      Format.indented.render t = Format.indented.render u) :
    t.shape = u.shape ∧ t.same u = true := by
  rcases derivation_of_parse run member with ⟨derived, starts⟩
  rcases derivation_of_parse run' member' with ⟨derived', starts'⟩
  have together := starts.trans starts'.symm
  have plain := plain.elim id Grammar.IsLoaded.hasPlainNames
  have plain' := plain'.elim id Grammar.IsLoaded.hasPlainNames
  have shapes : t.shape = u.shape := by
    rcases alike with line | line | lines
    · exact derived.shape_eq_of_text plain plain' derived' together line
    · exact derived.shape_eq_of_text plain plain' derived' together
        (List.append_cancel_right (Except.ok.inj line))
    · exact derived.shape_eq_of_indented plain plain' derived' together (Except.ok.inj lines)
  exact ⟨shapes, t.same_of_shape u shapes⟩

open Grammar (phrase word)

/-- Tokens that look like parts of a rendering. -/
def misleading : List Text :=
  ["') ($y '", "')\n    )"]

/-- A grammar for the misleading tokens. -/
def misleadingPair : Grammar :=
  .ofRules
    [phrase "s" ["x", "y"] rfl, word "x" "') ($y '", word "y" "')\n    )"]

/-- Another grammar for them, in which sentences also have sentences as parts. -/
def misleadingRows : Grammar :=
  .ofRules
    [phrase "s" ["s", "s"] rfl, word "y" "')\n    )", word "x" "') ($y '",
      phrase "s" ["x", "y"] rfl]

/-- The grammar has the tags of the misleading tokens and no others for them. -/
def TagsMisleading (g : Grammar) : Prop :=
  (phrase "s" ["x", "y"] rfl ∈ g.rules ∧ word "x" "') ($y '" ∈ g.rules ∧
    word "y" "')\n    )" ∈ g.rules) ∧
  ∀ r ∈ g.rules, (r.head = .nonterminal "x" → r.rhs = [.terminal "') ($y '"]) ∧
    (r.head = .nonterminal "y" → r.rhs = [.terminal "')\n    )"])

instance (g : Grammar) : Decidable (TagsMisleading g) :=
  inferInstanceAs (Decidable (_ ∧ ∀ r ∈ g.rules, _))

/-- The tag of a token of the misleading ones. -/
def misleadingTag (k : Nat) (tag token : Text) : Tree :=
  .node 0 ⟨k, k + 1⟩ (.nonterminal tag) [.leaf 0 ⟨k, k + 1⟩ token]

theorem exists_misleading {g : Grammar} (policy : Policy) (acyclic : g.UnaryAcyclic)
    (tags : TagsMisleading g) :
    ∃ trees, (Parser.mk g policy).parse (.nonterminal "s") misleading = .ok trees ∧
      ∃ t ∈ trees, t.text = "($s ($x '') ($y '') ($y '')\n    )'))" := by
  rcases tags with ⟨⟨pair, first, second⟩, only⟩
  have ends : (Parser.mk g policy).Ends (.nonterminal "s") misleading :=
    ends_of_acyclic acyclic _ (by decide)
  rcases ends.parse_eq with ⟨chart, filled, run⟩
  have left : (misleadingTag 0 "x" "') ($y '").Derivation g misleading :=
    derivation_unary first rfl rfl (.leaf 0 0 _ rfl)
  have right : (misleadingTag 1 "y" "')\n    )").Derivation g misleading :=
    derivation_unary second rfl rfl (.leaf 0 1 _ rfl)
  have tiled : Tree.Tiled 0 [misleadingTag 0 "x" "') ($y '", misleadingTag 1 "y" "')\n    )"] 2 :=
    ⟨rfl, rfl, rfl⟩
  have root : ∃ t ∈ Problem.roots _ chart, t.Applies (phrase "s" ["x", "y"] rfl) :=
    filled.exists_root pair (by decide) rfl rfl tiled
      (List.forall_mem_cons.mpr ⟨left, List.forall_mem_singleton.mpr right⟩)
  rcases root with ⟨t, inForest, applies⟩
  refine ⟨_, run, t, inForest, ?_⟩
  have derived : t.Derivation g misleading := (filled.root_derivation inForest).1
  rcases derived.exists_rule (by rw [applies.1]; rfl) with ⟨r, _, applies', serial, node⟩
  rw [applies'.unique applies] at node
  rcases List.map_eq_cons_iff.mp applies.2 with ⟨c, others, children, head, labels⟩
  rcases List.map_eq_singleton_iff.mp labels with ⟨d, rfl, head'⟩
  have inside := fun x (member : x ∈ t.children) => derived.parts_of_mem member
  rw [children] at inside
  have text := (inside c (List.mem_cons_self ..)).text_of_tag rfl head
    fun r member => (only r member).1
  have text' := (inside d (List.mem_cons_of_mem c (List.mem_cons_self ..))).text_of_tag rfl head'
    fun r member => (only r member).2
  rw [node, children]
  simp only [Tree.text, Tree.textAll, text, text']
  rfl

/-- The parses of the misleading tokens in two grammars and under two policies. -/
theorem parse_told_apart_misleading :
    ∃ trees trees', (Parser.mk misleadingPair .span).parse (.nonterminal "s") misleading =
        .ok trees ∧
      (Parser.mk misleadingRows .identity).parse (.nonterminal "s") misleading = .ok trees' ∧
      ∃ t ∈ trees, ∃ u ∈ trees', t.text = "($s ($x '') ($y '') ($y '')\n    )'))" ∧
        t.text = u.text ∧ t.shape = u.shape ∧ t.same u = true := by
  have plain : misleadingPair.HasPlainNames ∧ misleadingRows.HasPlainNames := by decide
  rcases exists_misleading (g := misleadingPair) .span
    (Grammar.unaryAcyclic_of_rank (fun _ => 0) (by decide)) (by decide) with
    ⟨trees, run, t, member, text⟩
  rcases exists_misleading (g := misleadingRows) .identity
    (Grammar.unaryAcyclic_of_rank (fun _ => 0) (by decide)) (by decide) with
    ⟨trees', run', u, member', text'⟩
  have alike : t.text = u.text := text.trans text'.symm
  exact ⟨trees, trees', run, run', t, member, u, member', text, alike,
    parse_told_apart run run' (Or.inl plain.1) (Or.inl plain.2) member member' (Or.inl alike)⟩

end Parser
end ParseForest
