import ParseForest.Proofs.Forest.Completeness
import ParseForest.Proofs.Output
import ParseForest.Proofs.Tree.Json
import ParseForest.Tree.Format

namespace ParseForest

/-!
# Reading the trees of a forest back

The trees of a forest are derivation trees, so a part without children is a
token and a part with children is a phrase.  That is what the value printed for
a tree has to tell apart, and with it the whole tree comes back.
-/

namespace Tree

/-- The tree is one of those that some parse returns. -/
def IsParsed (t : Tree) : Prop :=
  ∃ (parser : Parser) (start : Symbol) (tokens : List Text) (trees : List Tree),
    parser.parse start tokens = .ok trees ∧ t ∈ trees

theorem IsParsed.exists_derivation {t : Tree} (parsed : t.IsParsed) :
    ∃ g tokens, t.Derivation g tokens := by
  rcases parsed with ⟨parser, start, tokens, trees, run, member⟩
  rcases (Parser.Ends.of_parse run).parse_eq with ⟨chart, filled, run'⟩
  rw [run, Except.ok.injEq] at run'
  exact ⟨_, _, (filled.root_derivation (run' ▸ member)).1⟩

/-- Trees that are printed alike are the same up to their numbering. -/
theorem IsParsed.shape_eq_of_json {t u : Tree} (parsed : t.IsParsed) (named : t.IsNamed)
    (parsed' : u.IsParsed) (named' : u.IsNamed) (same : t.json = u.json) : t.shape = u.shape := by
  rcases parsed.exists_derivation with ⟨_, _, derived⟩
  rcases parsed'.exists_derivation with ⟨_, _, derived'⟩
  have values : t.toJson = u.toJson := by
    apply Json.indentedAt_injective
    rw [← jsonAt_eq, ← jsonAt_eq]
    exact same
  have back := derived.ofJson?_toJson named
  rw [values, derived'.ofJson?_toJson named'] at back
  exact (Option.some.inj back).symm

/-- A tree that is not too deep is written in JSON with a line end behind it. -/
theorem writes_json (t : Tree) (fits : t.jsonDepth ≤ jsonDepthLimit) :
    (Format.json.write t).Writes (t.json ++ Text.lineEnd) := by
  have rendered : Format.json.render t = .ok t.json := if_pos (decide_eq_true fits)
  unfold Format.write
  rw [rendered]
  exact (Writing.writes_put _).andThen (Writing.writes_put _)

/-- Nothing is written of a tree that is too deep. -/
theorem json_of_tooDeep (t : Tree) (deep : jsonDepthLimit < t.jsonDepth) (sink : Sink) :
    Format.json.write t sink = .error "exceeded max depth" sink := by
  have refused : Format.json.render t = .error ⟨⟩ :=
    if_neg fun admits => Nat.not_le_of_lt deep (of_decide_eq_true admits)
  unfold Format.write
  rw [refused]
  rfl

/-- The names in a derivation tree come from the grammar and the sentence. -/
theorem Derivation.isNamed {g : Grammar} {tokens : List Text} {t : Tree}
    (derived : t.Derivation g tokens) (rules : ∀ r ∈ g.rules, r.head.name.isUtf8 = true)
    (valid : ∀ token ∈ tokens, token.isUtf8 = true) : t.IsNamed := by
  intro u part
  cases derived.within part with
  | leaf serial k token found => exact valid token (List.mem_of_getElem? found)
  | node serial span r children member labels tiled parts => exact rules r member

end Tree

namespace Parser

/-- What is written for a tree of a parse is JSON, and the tree can be read back
from it.  So trees of different shapes are never written alike.  Only where arrays and
objects would nest too deep nothing is written. -/
theorem parse_read_back {parser : Parser} {start : Symbol} {tokens : List Text}
    {trees : List Tree} (run : parser.parse start tokens = .ok trees) {t : Tree}
    (member : t ∈ trees) (named : t.IsNamed) :
    (t.toJson.depth ≤ Tree.jsonDepthLimit →
        (Format.json.write t).Writes (t.json ++ Text.lineEnd)) ∧
      (Tree.jsonDepthLimit < t.toJson.depth →
        ∀ sink, Format.json.write t sink = .error "exceeded max depth" sink) ∧
      Json.read? (t.json ++ Text.lineEnd) = some t.toJson ∧
      Json.read? t.json = some t.toJson ∧
      Tree.ofJson? t.toJson = some t.shape ∧
      ∀ u : Tree, u.IsParsed → u.IsNamed → t.shape ≠ u.shape → t.json ≠ u.json := by
  have parsed : t.IsParsed := ⟨parser, start, tokens, trees, run, member⟩
  have printed : t.json = t.toJson.indentedAt 0 := t.jsonAt_eq 0
  rcases parsed.exists_derivation with ⟨g, sentence, derived⟩
  rw [← t.jsonDepth_eq]
  refine ⟨t.writes_json, t.json_of_tooDeep, ?_, ?_, derived.ofJson?_toJson named, ?_⟩
  · rw [printed, t.toJson.read?_indentedAt (Or.inr rfl)]
  · have found := t.toJson.read?_indentedAt (Or.inl rfl)
    rwa [List.append_nil, ← printed] at found
  · intro u parsed' named' different same
    exact different (parsed.shape_eq_of_json named parsed' named' same)

open Grammar (phrase word)

/-- Names with every kind of escape, and a token that looks like a nonterminal. -/
def awkward : Grammar :=
  .ofRules
    [phrase "<&>" ["\"\\", "\"\\"],
      word "\"\\" "$<&>",
      word "\"\\" "\n\u2028é"]

/-- A sentence of the awkward grammar. -/
def awkwardTokens : List Text :=
  ["$<&>", "\n\u2028é"]

/-- A tag of the awkward grammar. -/
def awkwardTag (k : Nat) (token : Text) : Tree :=
  .node 0 ⟨k, k + 1⟩ (.nonterminal "\"\\") [.leaf 0 ⟨k, k + 1⟩ token]

theorem derivation_awkwardTag {k : Nat} {token : Text} (found : awkwardTokens[k]? = some token)
    (known : word "\"\\" token ∈ awkward.rules) :
    (awkwardTag k token).Derivation awkward awkwardTokens := by
  refine .node 0 ⟨k, k + 1⟩ (word "\"\\" token) _ known rfl ⟨rfl, rfl⟩ fun c member => ?_
  rw [List.mem_singleton.mp member]
  exact .leaf 0 k token found

/-- A tree of the awkward grammar is read back. -/
theorem parse_read_back_awkward :
    ∃ trees, (Parser.mk awkward .span).parse (.nonterminal "<&>") awkwardTokens = .ok trees ∧
      ∃ t ∈ trees, t.IsNamed ∧ t.Applies (phrase "<&>" ["\"\\", "\"\\"]) ∧
        (Json.read? (t.json ++ Text.lineEnd)).bind Tree.ofJson? = some t.shape := by
  have acyclic : awkward.UnaryAcyclic := Grammar.unaryAcyclic_of_rank (fun _ => 0) (by decide)
  have ends : (Parser.mk awkward .span).Ends (.nonterminal "<&>") awkwardTokens :=
    ends_of_acyclic acyclic _ (by decide)
  have heads : ∀ r ∈ awkward.rules, r.head.name.isUtf8 = true := by
    intro r member
    rcases List.mem_cons.mp member with rfl | member
    · exact Text.isUtf8_ofString "<&>"
    · rcases List.mem_pair.mp member with rfl | rfl <;> exact Text.isUtf8_ofString "\"\\"
  have words : ∀ token ∈ awkwardTokens, token.isUtf8 = true := by
    intro token member
    rcases List.mem_pair.mp member with rfl | rfl <;> exact Text.isUtf8_ofString _
  have first : (awkwardTag 0 "$<&>").Derivation awkward awkwardTokens :=
    derivation_awkwardTag rfl (by decide)
  have second : (awkwardTag 1 "\n\u2028é").Derivation awkward awkwardTokens :=
    derivation_awkwardTag rfl (by decide)
  have tiled : Tree.Tiled 0 [awkwardTag 0 "$<&>", awkwardTag 1 "\n\u2028é"] 2 := ⟨rfl, rfl, rfl⟩
  rcases ends.parse_eq with ⟨chart, filled, run⟩
  have root : ∃ t ∈ Problem.roots _ chart, t.Applies (phrase "<&>" ["\"\\", "\"\\"]) :=
    filled.exists_root (by decide) (by decide) rfl rfl tiled
      (List.forall_mem_cons.mpr ⟨first, List.forall_mem_singleton.mpr second⟩)
  rcases root with ⟨t, inForest, applies⟩
  have named : t.IsNamed := (filled.root_derivation inForest).1.isNamed heads words
  rcases parse_read_back run inForest named with ⟨_, _, spelled, _, back, _⟩
  refine ⟨_, run, t, inForest, named, applies, ?_⟩
  rw [spelled]
  exact back

end Parser
end ParseForest
