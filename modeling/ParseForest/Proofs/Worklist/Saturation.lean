import ParseForest.Proofs.Tree.Rewriting
import ParseForest.Proofs.Worklist.Filled

namespace ParseForest
namespace Problem

/-!
# Filled charts miss nothing that is awaited

Three rules for filled charts correspond to the three kinds of move: what is
awaited is predicted, a token that a rule for an awaited symbol tags is
scanned, and an arc that waits for a tree of the chart is extended.  By
induction on derivation trees it follows that wherever a symbol is awaited, the
chart has a complete arc for every derivation of that symbol from there.  The
arc need not have built the same tree, but it applies the same rule over the
same span.
-/

/-- Some arc that ends at `k` waits for the symbol. -/
def Awaited (chart : Chart) (awaited : Symbol) (k : Nat) : Prop :=
  ∃ b ∈ chart.arcsIn k, b.next = .ok (some awaited)

variable {p : Problem} {policy : Policy} {chart : Chart}

/-! ## The three rules -/

/-- A settled move has an arc in the cell where the proposed one would end. -/
theorem Charted.arc_of_settles (charted : p.Charted chart) {m : Move} (settled : chart.Settles m)
    {k : Nat} (stop : (m.arc 0).span.stop = k) :
    ∃ b ∈ chart.arcsIn k, (m.arc 0).Repeats chart.policy b := by
  rcases settled with ⟨e, b, member, repeated⟩
  have spans : (m.arc 0).span = b.span := congrArg ArcKey.span repeated.1
  have same : e = k := Int.natCast_inj.mp <| by
    rw [← charted.tidy.located e b member, ← spans, stop]
  exact ⟨b, same ▸ member, repeated⟩

theorem Filled.seeded (filled : p.Filled policy chart) {r : Rule} (member : r ∈ p.grammar.rules)
    (head : r.head = p.start) : ∃ b ∈ chart.arcsIn 0, b.key = ⟨⟨0, 0⟩, r, 0⟩ := by
  rcases filled.charted.arc_of_settles (filled.seeds r member head) (k := 0) rfl with
    ⟨b, inCell, repeated⟩
  exact ⟨b, inCell, repeated.1.symm⟩

theorem Filled.predicted (filled : p.Filled policy chart) {awaited : Symbol} {k : Nat}
    (waits : Awaited chart awaited k) {r : Rule} (member : r ∈ p.grammar.rules)
    (head : r.head = awaited) : ∃ b ∈ chart.arcsIn k, b.key = ⟨⟨k, k⟩, r, 0⟩ := by
  rcases waits with ⟨a, inCell, next⟩
  have stop := filled.charted.tidy.located k a inCell
  have settled := filled.closed k a inCell _ (.predict next member head)
  rw [stop] at settled
  rcases filled.charted.arc_of_settles settled rfl with ⟨b, found, repeated⟩
  exact ⟨b, found, repeated.1.symm⟩

theorem Filled.scanned (filled : p.Filled policy chart) {awaited : Symbol} {k : Nat}
    (waits : Awaited chart awaited k) {r : Rule} (member : r ∈ p.grammar.rules)
    (head : r.head = awaited) {token : Text} (lexical : r.rhs = [.terminal token])
    (found : p.tokens[k]? = some token) :
    ∃ c ∈ chart.arcsIn (k + 1), c.key = ⟨⟨k, k + 1⟩, r, 1⟩ := by
  rcases waits with ⟨a, inCell, next⟩
  have stop := filled.charted.tidy.located k a inCell
  have here : p.tokenAt? a.span.stop = some token := by
    rw [stop, tokenAt?, if_pos (Int.natCast_nonneg k), Int.toNat_natCast]
    exact found
  have settled := filled.closed k a inCell _ (.scan next member head lexical here)
  rw [stop] at settled
  rcases filled.charted.arc_of_settles settled (k := k + 1) rfl with ⟨c, inNext, repeated⟩
  exact ⟨c, inNext, repeated.1.symm⟩

/-- An arc of a filled chart that waits for a tree of the chart is extended by
it, if not in person then by an arc that stands for the extension. -/
theorem Filled.extended (filled : p.Filled policy chart) {c : Arc} {e : Nat}
    (member : c ∈ chart.arcsIn e) {t : Tree} (built : c.built = some t) {b : Arc} {k : Nat}
    (starts : c.span.start = k) (waits : b ∈ chart.arcsIn k) (next : b.next = .ok (some t.head)) :
    ∃ b' ∈ chart.arcsIn e, (b.extend 0 t).Repeats policy b' := by
  have settled := filled.closed e c member _ (.extend built starts waits next)
  have span := ((filled.charted.sound member).builds built).span_eq
  have stop := filled.charted.tidy.located e c member
  rw [← filled.policy_eq]
  exact filled.charted.arc_of_settles settled (by rw [← stop, ← span]; rfl)

/-! ## Rows of trees -/

/-- A complete arc of the chart applies the rule of the tree over its span. -/
def Found (chart : Chart) (t : Tree) : Prop :=
  ∃ e, t.span.stop = (e : Nat) ∧ ∃ c ∈ chart.arcsIn e, ∃ u, c.built = some u ∧ u.Alike t

/-- An arc can be carried on along a row of trees that are found wherever they
are awaited. -/
theorem Filled.along (filled : p.Filled policy chart) {ts : List Tree}
    (found : ∀ t ∈ ts, ∀ k : Nat, t.span.start = k → Awaited chart t.head k → Found chart t)
    {b : Arc} {k : Nat} (member : b ∈ chart.arcsIn k)
    (labels : ts.map Tree.head <+: b.rule.rhs.drop b.dot) {j : Nat} (tiled : Tree.Tiled k ts j) :
    ∃ c ∈ chart.arcsIn j, c.key = ⟨⟨b.span.start, j⟩, b.rule, b.dot + ts.length⟩ := by
  induction ts generalizing b k with
  | nil =>
      have same : k = j := Int.natCast_inj.mp tiled
      subst same
      have stop := filled.charted.tidy.located k b member
      refine ⟨b, member, ?_⟩
      rw [Arc.key, ← stop]
      rfl
  | cons t ts ih =>
      have sound := filled.charted.sound member
      -- The first label is the awaited symbol.
      rcases labels with ⟨rest, split⟩
      have awaits : b.rule.rhs[b.dot]? = some t.head := by
        have first : (b.rule.rhs.drop b.dot)[0]? = some t.head := by simp [← split]
        rwa [List.getElem?_drop, Nat.add_zero] at first
      have next := sound.next_eq_some.mpr awaits
      rcases found t (List.mem_cons_self ..) k tiled.1 ⟨b, member, next⟩ with
        ⟨e, stop, c, inCell, u, built, alike⟩
      have starts : c.span.start = k := by
        rw [← ((filled.charted.sound inCell).builds built).span_eq, alike.span_eq, tiled.1]
      rcases filled.extended inCell built starts member (alike.head_eq ▸ next) with
        ⟨b', inCell', repeated⟩
      have keys : b'.span.start = b.span.start ∧ b'.rule = b.rule ∧ b'.dot = b.dot + 1 := by
        have key := repeated.1.symm
        refine ⟨congrArg (·.span.start) key, congrArg ArcKey.rule key, ?_⟩
        rw [← Arc.extend_dot 0 b u]
        exact congrArg ArcKey.dot key
      rcases ih
        (fun v inRest => found v (List.mem_cons_of_mem t inRest)) inCell'
        (by
          rw [keys.2.1, keys.2.2, ← List.tail_drop, ← split]
          exact List.prefix_append _ _)
        (stop ▸ tiled.2) with ⟨last, inLast, key⟩
      refine ⟨last, inLast, ?_⟩
      rw [key, keys.1, keys.2.1, keys.2.2, List.length_cons]
      congr 1
      omega

/-- From the prediction of a rule on, along trees for its first symbols. -/
theorem Filled.along_predicted (filled : p.Filled policy chart) {r : Rule} {b : Arc} {k : Nat}
    (member : b ∈ chart.arcsIn k) (key : b.key = ⟨⟨k, k⟩, r, 0⟩) {ts : List Tree}
    (found : ∀ t ∈ ts, ∀ k : Nat, t.span.start = k → Awaited chart t.head k → Found chart t)
    (labels : ts.map Tree.head <+: r.rhs) {j : Nat} (tiled : Tree.Tiled k ts j) :
    ∃ c ∈ chart.arcsIn j, c.key = ⟨⟨k, j⟩, r, ts.length⟩ := by
  rcases Arc.key_eq.mp key with ⟨span, rule, dot⟩
  have ahead : ts.map Tree.head <+: b.rule.rhs.drop b.dot := by
    rw [rule, dot, List.drop_zero]
    exact labels
  rcases filled.along found member ahead tiled with ⟨c, inCell, last⟩
  rw [span, rule, dot, Nat.zero_add] at last
  exact ⟨c, inCell, last⟩

/-- A complete key belongs to a complete arc, whose tree applies the rule. -/
theorem Charted.exists_tree_of_key (charted : p.Charted chart) {c : Arc} {e : Nat}
    (member : c ∈ chart.arcsIn e) {span : Span} {r : Rule}
    (key : c.key = ⟨span, r, r.rhs.length⟩) :
    ∃ u, c.built = some u ∧ u.span = span ∧ u.Applies r := by
  have sound := charted.sound member
  have rule : c.rule = r := congrArg ArcKey.rule key
  have full : c.isComplete = true := Arc.isComplete_iff.mpr (rule ▸ congrArg ArcKey.dot key)
  rcases sound.exists_tree full with ⟨u, built⟩
  have builds := sound.builds built
  exact ⟨u, built, builds.span_eq.trans (congrArg ArcKey.span key), rule ▸ builds.applies⟩

/-- Every derivation of an awaited symbol is found. -/
theorem Filled.found (filled : p.Filled policy chart) {t : Tree}
    (derived : t.Derivation p.grammar p.tokens) (phrase : t.head.isTerminal = false) {k : Nat}
    (starts : t.span.start = k) (waits : Awaited chart t.head k) : Found chart t := by
  induction derived generalizing k with
  | leaf => simp [Symbol.isTerminal] at phrase
  | node serial span r children member labels tiled parts ih =>
      have derived := Tree.Derivation.node serial span r children member labels tiled parts
      have bounds := derived.span_bounds
      rcases Int.eq_ofNat_of_zero_le (show 0 ≤ span.stop from Int.le_trans bounds.1 (Int.le_of_lt
          bounds.2.1)) with ⟨j, stop⟩
      have starts : span.start = k := starts
      have whole : span = ⟨k, j⟩ := by
        cases span
        simp_all
      suffices complete : ∃ c ∈ chart.arcsIn j, c.key = ⟨⟨k, j⟩, r, r.rhs.length⟩ by
        rcases complete with ⟨c, inCell, key⟩
        rcases filled.charted.exists_tree_of_key inCell key with ⟨u, built, spanEq, applies⟩
        exact ⟨j, stop, c, inCell, u, built, spanEq.trans whole.symm, applies.1,
          applies.2.trans labels.symm⟩
      cases kind : r.isLexical with
      | true =>
          rcases r.isLexical_iff.mp kind with ⟨token, lexical⟩
          rcases derived.eq_tagged ⟨rfl, labels⟩ lexical with ⟨_, k', found, spanEq, _⟩
          rw [Tree.span_node, whole, Span.mk.injEq] at spanEq
          have same : k' = k := Int.natCast_inj.mp spanEq.1.symm
          have next : j = k + 1 := by omega
          subst same next
          rcases filled.scanned waits member rfl lexical found with ⟨c, inCell, key⟩
          exact ⟨c, inCell, by rw [key, lexical]; rfl⟩
      | false =>
          rcases filled.predicted waits member rfl with ⟨b, inCell, key⟩
          have inner : ∀ t ∈ children, ∀ k : Nat, t.span.start = k → Awaited chart t.head k →
              Found chart t := by
            intro t inChildren k' starts' waits'
            have nonterminal : t.head.isTerminal = false := r.isTerminal_of_mem_rhs kind _
              (labels ▸ List.mem_map_of_mem inChildren)
            exact ih t inChildren nonterminal starts' waits'
          rcases filled.along_predicted inCell key inner (labels ▸ List.prefix_refl _)
            (starts ▸ stop ▸ tiled) with ⟨c, inLast, last⟩
          exact ⟨c, inLast, by rw [last, ← labels, List.length_map]⟩

/-! ## Roots -/

/-- A row of derivation trees for a syntactic rule of the start symbol leads to
a root that applies the rule. -/
theorem Filled.exists_root (filled : p.Filled policy chart) {r : Rule}
    (member : r ∈ p.grammar.rules) (syntactic : r.isLexical = false) (head : r.head = p.start)
    {row : List Tree} (labels : row.map Tree.head = r.rhs)
    (tiled : Tree.Tiled 0 row p.tokens.length)
    (derived : ∀ t ∈ row, t.Derivation p.grammar p.tokens) :
    ∃ t ∈ p.roots chart, t.Applies r := by
  rcases filled.seeded member head with ⟨b, seed, key⟩
  have found : ∀ t ∈ row, ∀ k : Nat, t.span.start = k → Awaited chart t.head k →
      Found chart t := by
    intro t inRow k starts waits
    have phrase : t.head.isTerminal = false :=
      r.isTerminal_of_mem_rhs syntactic _ (labels ▸ List.mem_map_of_mem inRow)
    exact filled.found (derived t inRow) phrase starts waits
  rcases filled.along_predicted seed key found (labels ▸ List.prefix_refl _) tiled with
    ⟨c, inLast, last⟩
  rw [← List.length_map (f := Tree.head), labels] at last
  rcases filled.charted.exists_tree_of_key inLast last with ⟨u, built, _, applies⟩
  have first : c.span.start = 0 := congrArg Span.start (Arc.key_eq.mp last).1
  exact ⟨u, mem_roots.mpr ⟨c, inLast, first, built, applies.1.trans head⟩, applies⟩

/-- If the right-hand side of a syntactic rule for the start symbol derives the sentence, some
root applies the rule. -/
theorem Filled.exists_root_of_derives (filled : p.Filled policy chart) {r : Rule}
    (member : r ∈ p.grammar.rules) (syntactic : r.isLexical = false) (head : r.head = p.start)
    (derives : p.grammar.Derives r.rhs (p.tokens.map .terminal)) :
    ∃ t ∈ p.roots chart, t.Applies r := by
  rcases Tree.derives_tokens_iff.mp derives with ⟨row, labels, tiled, derived⟩
  exact filled.exists_root member syntactic head labels tiled derived

end Problem

/-- Then the forest is not empty. -/
theorem Parser.ne_nil_of_derives {parser : Parser} {start : Symbol} {tokens : List Text}
    {trees : List Tree} (parsed : parser.parse start tokens = .ok trees) {r : Rule}
    (member : r ∈ parser.grammar.rules) (syntactic : r.isLexical = false) (head : r.head = start)
    (derives : parser.grammar.Derives r.rhs (tokens.map .terminal)) : trees ≠ [] := by
  rcases (Ends.of_parse parsed).parse_eq with ⟨chart, filled, parsed'⟩
  rw [parsed, Except.ok.injEq] at parsed'
  rcases filled.exists_root_of_derives member syntactic head derives with ⟨t, root, _⟩
  exact List.ne_nil_of_mem (parsed' ▸ root)

end ParseForest
