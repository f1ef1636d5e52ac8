import ParseForest.Proofs.Forest.Soundness
import ParseForest.Proofs.Worklist.Saturation

namespace ParseForest

/-!
# Which readings a forest keeps

All policies but the coarsest tell complete arcs apart by their trees.  Arcs
that still wait are told apart by their keys under every policy, so the first
one to match some symbols over a span stands for all ways to match them there.

What is lost in this way is known exactly.  A forest keeps every reading of the
sentence if and only if at every node of every reading the children before the
last are determined by their labels and by the positions they cover.  Ambiguity
in last children, however deep, is never lost.
-/

namespace Tree

/-- There is only one shape for the children before the last, given their labels
and the positions they cover. -/
def FrontUnique (g : Grammar) (tokens : List Text) (t : Tree) : Prop :=
  ∀ (row : List Tree) (k : Int), row.map head = t.children.dropLast.map head →
    Tiled t.span.start row k → Tiled t.span.start t.children.dropLast k →
    (∀ c ∈ row, c.Derivation g tokens) → row.map shape = t.children.dropLast.map shape

theorem frontUnique_of_several {g : Grammar} {tokens : List Text} {t : Tree}
    (unique : t.children.dropLast ≠ [] → t.FrontUnique g tokens) : t.FrontUnique g tokens := by
  by_cases empty : t.children.dropLast = []
  · intro row k labels _ _ _
    rw [empty, List.map_nil] at labels ⊢
    rw [List.map_eq_nil_iff.mp labels, List.map_nil]
  · exact unique empty

/-- Only phrases have children before the last. -/
theorem Derivation.exists_syntactic {g : Grammar} {tokens : List Text} {t : Tree}
    (derived : t.Derivation g tokens) (several : t.children.dropLast ≠ []) :
    ∃ r ∈ g.rules, t.Applies r ∧ r.isLexical = false := by
  cases derived with
  | leaf => exact absurd rfl several
  | node serial span r children member labels tiled parts =>
      refine ⟨r, member, ⟨rfl, labels⟩, Bool.eq_false_iff.mpr fun lexical => several ?_⟩
      rcases r.isLexical_iff.mp lexical with ⟨token, single⟩
      rcases List.map_eq_singleton_iff.mp (labels.trans single) with ⟨c, only, _⟩
      rw [children_node, only, List.dropLast_singleton]

/-- Another front of the same labels over the same positions can be put in front
of the last child. -/
theorem Derivation.exists_other_front {g : Grammar} {tokens : List Text} {t : Tree}
    (derived : t.Derivation g tokens) {r : Rule} (member : r ∈ g.rules) (applies : t.Applies r)
    {row : List Tree} {k : Int} (labels : row.map head = t.children.dropLast.map head)
    (tiledRow : Tiled t.span.start row k) (tiledFront : Tiled t.span.start t.children.dropLast k)
    (parts : ∀ c ∈ row, c.Derivation g tokens) :
    ∃ u : Tree, u.Derivation g tokens ∧ u.Alike t ∧ u.children.dropLast = row := by
  rcases derived.exists_last applies with ⟨serial, front, c, node, rhs, tiled, stop⟩
  have split : t.children = front ++ [c] := by rw [node, children_node]
  rw [split, List.dropLast_concat] at labels tiledFront
  have meets : k = c.span.start := tiledFront.stop_unique tiled
  have heads : (row ++ [c]).map head = r.rhs := by
    rw [List.map_append, labels, List.map_singleton, rhs]
  have last : c.Derivation g tokens :=
    derived.parts_of_mem (split ▸ List.mem_append_right _ (List.mem_singleton_self c))
  refine ⟨.node serial t.span r.head (row ++ [c]), ?_, ⟨rfl, applies.1.symm, ?_⟩, ?_⟩
  · refine .node serial t.span r (row ++ [c]) member heads ?_ ?_
    · exact tiled_concat.mpr ⟨meets ▸ tiledRow, stop⟩
    · intro x inside
      rcases List.mem_append.mp inside with inRow | isLast
      · exact parts x inRow
      · exact List.mem_singleton.mp isLast ▸ last
  · rw [children_node, heads, applies.2]
  · rw [children_node, List.dropLast_concat]

end Tree

namespace Problem

/-- A derivation tree of the whole sentence that applies a syntactic rule of the
start symbol at its root. -/
structure Reading (p : Problem) (t : Tree) : Prop where
  derived : t.Derivation p.grammar p.tokens
  span_eq : t.span = ⟨0, p.tokens.length⟩
  applies : ∃ r ∈ p.grammar.rules, r.isLexical = false ∧ r.head = p.start ∧ t.Applies r

/-- At every node of every reading there is one shape for the children before
the last. -/
def FrontsUnique (p : Problem) : Prop :=
  ∀ t, p.Reading t → ∀ u : Tree, u.Within t → u.FrontUnique p.grammar p.tokens

/-- Some arc of the chart has built a tree of the same shape. -/
def Kept (chart : Chart) (t : Tree) : Prop :=
  ∃ e, t.span.stop = (e : Nat) ∧ ∃ c ∈ chart.arcsIn e, ∃ u, c.built = some u ∧ u.shape = t.shape

variable {p : Problem} {policy : Policy} {chart : Chart}

/-! ## Readings with unique fronts are kept -/

/-- Where a syntactic rule is predicted, some arc gets as far as the last child
of any application of it. -/
theorem Filled.exists_front (filled : p.Filled policy chart) {r : Rule}
    (syntactic : r.isLexical = false) {k : Nat} {b : Arc} (inCell : b ∈ chart.arcsIn k)
    (key : b.key = ⟨⟨k, k⟩, r, 0⟩) {front : List Tree} {last : Symbol}
    (labels : front.map Tree.head ++ [last] = r.rhs) {j : Nat} (tiled : Tree.Tiled k front j)
    (parts : ∀ t ∈ front, t.Derivation p.grammar p.tokens) :
    ∃ a ∈ chart.arcsIn j, a.span = ⟨k, j⟩ ∧ a.rule = r ∧
      a.matched.map Tree.head = front.map Tree.head ∧ a.next = .ok (some last) := by
  have found : ∀ t ∈ front, ∀ k' : Nat, t.span.start = k' → Awaited chart t.head k' →
      Found chart t := by
    intro t inFront k' starts waits
    have inRule : t.head ∈ r.rhs :=
      labels ▸ List.mem_append_left _ (List.mem_map_of_mem inFront)
    exact filled.found (parts t inFront) (r.isTerminal_of_mem_rhs syntactic _ inRule) starts waits
  rcases filled.along_predicted inCell key found (labels ▸ List.prefix_append _ _) tiled with
    ⟨a, inMiddle, reached⟩
  rcases Arc.key_eq.mp reached with ⟨span, rule, dot⟩
  have sound := filled.charted.sound inMiddle
  have matched := sound.labels
  have next := sound.next_eq
  rw [rule, dot, ← labels, ← List.length_map (f := Tree.head)] at matched next
  rw [List.take_left] at matched
  rw [List.getElem?_concat_length] at next
  exact ⟨a, inMiddle, span, rule, matched, next⟩

/-- An arc that waits for the last child only keeps the whole if the last child
is kept, provided that the policy looks at trees. -/
theorem Filled.kept_of_last (filled : p.Filled policy chart) (finer : policy ≠ .span) {a : Arc}
    {j : Nat} (inMiddle : a ∈ chart.arcsIn j) {front : List Tree}
    (shapes : a.matched.map Tree.shape = front.map Tree.shape) {c : Tree}
    (labels : front.map Tree.head ++ [c.head] = a.rule.rhs) (next : a.next = .ok (some c.head))
    (meets : c.span.start = j) (kept : Kept chart c) (serial : Nat) :
    Kept chart (.node serial ⟨a.span.start, c.span.stop⟩ a.rule.head (front ++ [c])) := by
  rcases kept with ⟨e, stop, d, inEnd, u, built, same⟩
  have spans := Tree.span_eq_of_shape same
  have starts : d.span.start = j := by
    rw [← ((filled.charted.sound inEnd).builds built).span_eq, spans, meets]
  rcases filled.extended inEnd built starts inMiddle (Tree.head_eq_of_shape same ▸ next) with
    ⟨b, inEnd', repeated⟩
  have full : (a.extend 0 u).isComplete = true := Arc.isComplete_iff.mpr <| by
    have lengths := congrArg List.length shapes
    rw [List.length_map, List.length_map] at lengths
    change (a.matched ++ [u]).length = a.rule.rhs.length
    rw [← labels, List.length_append, List.length_append, List.length_map, lengths]
    rfl
  have whole := repeated.2 finer
  rw [Arc.extend_built, if_pos full, Option.map_some] at whole
  rcases Option.map_eq_some_iff.mp whole.symm with ⟨w, built', shape⟩
  refine ⟨e, stop, b, inEnd', w, built', ?_⟩
  rw [shape, Tree.shape_node, Tree.shape_node, List.map_append, List.map_append, shapes,
    List.map_singleton, List.map_singleton, same, spans]

/-- Where a syntactic rule is predicted, an application of it is kept if its
front is unique and its last child is kept when awaited. -/
theorem Filled.kept_of_predicted (filled : p.Filled policy chart) (finer : policy ≠ .span)
    {v : Tree} (derived : v.Derivation p.grammar p.tokens)
    (unique : v.FrontUnique p.grammar p.tokens) {r : Rule} (applies : v.Applies r)
    (syntactic : r.isLexical = false) {k : Nat} {b : Arc} (inCell : b ∈ chart.arcsIn k)
    (key : b.key = ⟨⟨k, k⟩, r, 0⟩) (starts : v.span.start = k)
    (kept : ∀ c ∈ v.children, ∀ j : Nat, c.span.start = j → Awaited chart c.head j →
      Kept chart c) : Kept chart v := by
  rcases derived.exists_last applies with ⟨serial, front, c, node, labels, tiled, stop⟩
  have split : v.children = front ++ [c] := by rw [node, Tree.children_node]
  have parts : ∀ t ∈ front, t.Derivation p.grammar p.tokens := fun t member =>
    derived.parts_of_mem (split ▸ List.mem_append_left _ member)
  have isLast : c ∈ v.children := split ▸ List.mem_append_right _ (List.mem_singleton_self c)
  obtain ⟨j, middle⟩ : ∃ j : Nat, c.span.start = j :=
    Int.eq_ofNat_of_zero_le (derived.parts_of_mem isLast).span_bounds.1
  rw [starts, middle] at tiled
  rcases filled.exists_front syntactic inCell key labels tiled parts with
    ⟨a, inMiddle, span, rule, matched, next⟩
  have sound := filled.charted.sound inMiddle
  have shapes : a.matched.map Tree.shape = front.map Tree.shape := by
    have same := unique a.matched j
    have aTiled := sound.tiled
    rw [span] at aTiled
    rw [split, List.dropLast_concat, starts] at same
    exact same matched aTiled tiled sound.parts
  have whole := filled.kept_of_last finer inMiddle shapes (rule ▸ labels) next middle
    (kept c isLast j middle ⟨a, inMiddle, next⟩) serial
  rw [span, rule, stop, ← starts] at whole
  exact node ▸ whole

/-- A derivation of an awaited symbol is kept if all fronts in it are unique. -/
theorem Filled.kept (filled : p.Filled policy chart) (finer : policy ≠ .span) {t : Tree}
    (derived : t.Derivation p.grammar p.tokens)
    (unique : ∀ u : Tree, u.Within t → u.FrontUnique p.grammar p.tokens)
    (phrase : t.head.isTerminal = false) {k : Nat} (starts : t.span.start = k)
    (waits : Awaited chart t.head k) : Kept chart t := by
  induction derived generalizing k with
  | leaf => simp [Symbol.isTerminal] at phrase
  | node serial span r children member labels tiled parts ih =>
      have derived := Tree.Derivation.node serial span r children member labels tiled parts
      cases kind : r.isLexical with
      | true =>
          rcases filled.found derived phrase starts waits with ⟨e, stop, c, inCell, u, built, alike⟩
          have applies : u.Applies r := ⟨alike.head_eq, alike.heads_eq.trans labels⟩
          have derived' := ((filled.charted.sound inCell).builds built).derived
          exact ⟨e, stop, c, inCell, u, built, derived'.shape_eq_of_tagged derived applies kind
            ⟨rfl, labels⟩ kind (congrArg Span.start alike.span_eq) alike.head_eq⟩
      | false =>
          rcases filled.predicted waits member rfl with ⟨b, inCell, key⟩
          refine filled.kept_of_predicted finer derived (unique _ (.self _)) ⟨rfl, labels⟩ kind
            inCell key starts ?_
          intro c inChildren j starts' waits'
          exact ih c inChildren (fun u part => unique u (.inside inChildren part))
            (r.isTerminal_of_mem_rhs kind _ (labels ▸ List.mem_map_of_mem inChildren))
            starts' waits'

/-- If all fronts are unique, every reading is kept. -/
theorem Filled.kept_reading (filled : p.Filled policy chart) (finer : policy ≠ .span)
    (unique : p.FrontsUnique) {t : Tree} (reading : p.Reading t) :
    ∃ u ∈ p.roots chart, u.shape = t.shape := by
  rcases reading.applies with ⟨r, member, syntactic, head, applies⟩
  have derived := reading.derived
  have fronts := unique t reading
  have inner : ∀ c ∈ t.children, ∀ j : Nat, c.span.start = j → Awaited chart c.head j →
      Kept chart c := by
    intro c inChildren j starts waits
    have phrase : c.head.isTerminal = false :=
      r.isTerminal_of_mem_rhs syntactic _ (applies.2 ▸ List.mem_map_of_mem inChildren)
    exact filled.kept finer (derived.parts_of_mem inChildren)
      (fun v part => fronts v (.inside inChildren part)) phrase starts waits
  rcases filled.seeded member head with ⟨b, inCell, key⟩
  rcases filled.kept_of_predicted finer derived (fronts t (.self t)) applies syntactic inCell key
    (congrArg Span.start reading.span_eq) inner with ⟨e, stop, c, inEnd, u, built, same⟩
  have span := (Tree.span_eq_of_shape same).trans reading.span_eq
  have last : e = p.tokens.length := Int.natCast_inj.mp <| by rw [← stop, reading.span_eq]
  subst last
  have first : c.span.start = 0 := by
    rw [← ((filled.charted.sound inEnd).builds built).span_eq, span]
  have label : u.head = p.start := (Tree.head_eq_of_shape same).trans (applies.1.trans head)
  exact ⟨u, mem_roots.mpr ⟨c, inEnd, first, built, label⟩, same⟩

/-! ## Kept readings have unique fronts -/

/-- The trees that an arc of the chart has matched are tokens or have been built
by arcs of the chart. -/
theorem Charted.built_of_mem_matched (charted : p.Charted chart) {a : Arc} {e : Nat}
    (member : a ∈ chart.arcsIn e) {t : Tree} (matched : t ∈ a.matched)
    (phrase : t.head.isTerminal = false) : ∃ i, ∃ c ∈ chart.arcsIn i, c.built = some t := by
  -- On the number of trees matched, since an arc has one more than the arc it extends.
  induction dots : a.dot generalizing a e with
  | zero =>
      rw [List.length_eq_zero_iff.mp dots] at matched
      cases matched
  | succ d ih =>
      cases charted.traced e a member with
      | predict r pos => cases matched
      | scan serial r span token lexical =>
          rw [List.mem_singleton.mp matched] at phrase
          cases phrase
      | @extend b c u i j serial waiting finished built =>
          rcases List.mem_append.mp matched with old | new
          · rw [Arc.extend_dot] at dots
            exact ih waiting old (Nat.succ.inj dots)
          · exact ⟨j, c, finished, List.mem_singleton.mp new ▸ built⟩

/-- Every phrase in a tree that an arc of the chart has built was built by an arc
of the chart itself. -/
theorem Charted.built_of_within (charted : p.Charted chart) {c : Arc} {e : Nat}
    (member : c ∈ chart.arcsIn e) {t : Tree} (built : c.built = some t) {u : Tree}
    (part : u.Within t) (phrase : u.head.isTerminal = false) :
    ∃ i, ∃ d ∈ chart.arcsIn i, d.built = some u := by
  induction part generalizing c e with
  | self => exact ⟨e, c, member, built⟩
  | @inside x t inChildren inner ih =>
      have sound := charted.sound member
      rw [(sound.builds built).children_eq] at inChildren
      cases label : x.head with
      | terminal token =>
          rcases (sound.parts x inChildren).eq_leaf label with ⟨_, _, _, rfl⟩
          rw [Tree.within_leaf.mp inner] at phrase
          cases phrase
      | nonterminal name =>
          rcases charted.built_of_mem_matched member inChildren (by rw [label]; rfl) with
            ⟨i, d, member', built'⟩
          exact ih member' built'

/-- Behind a phrase that an arc of the chart has built stands the arc that waited
for its last child. -/
theorem Charted.exists_front_of_built (charted : p.Charted chart) {c : Arc} {e : Nat}
    (member : c ∈ chart.arcsIn e) {t : Tree} (built : c.built = some t) {r : Rule}
    (applies : t.Applies r) (syntactic : r.isLexical = false) :
    ∃ i, ∃ b ∈ chart.arcsIn i, b.isComplete = false ∧ b.matched = t.children.dropLast ∧
      b.rule = r ∧ b.span.start = t.span.start := by
  have sound := charted.sound member
  have builds := sound.builds built
  have rule : c.rule = r := builds.applies.unique applies
  cases charted.traced e c member with
  | predict r pos => cases built
  | scan serial r' span token lexical =>
      have tagged : r'.isLexical = true := r'.isLexical_iff.mpr ⟨token, lexical⟩
      change r' = r at rule
      rw [rule, syntactic] at tagged
      cases tagged
  | @extend b d u i j serial waiting finished built' =>
      refine ⟨i, b, waiting, ?_, ?_, rule, ?_⟩
      · have short := sound.dot_le
        rw [Arc.extend_dot] at short
        exact Arc.isComplete_eq_false_iff.mpr (Nat.ne_of_lt short)
      · rw [builds.children_eq]
        exact (List.dropLast_concat ..).symm
      · rw [builds.span_eq]
        rfl

/-- Behind every phrase of a kept reading stands an arc that has matched its front
and nothing else. -/
theorem Charted.exists_front_of_kept (charted : p.Charted chart) {t : Tree}
    (kept : ∃ w ∈ p.roots chart, w.shape = t.shape) {u : Tree} (part : u.Within t) {r : Rule}
    (applies : u.Applies r) (syntactic : r.isLexical = false) {k : Int}
    (tiled : Tree.Tiled u.span.start u.children.dropLast k) :
    ∃ e, ∃ b ∈ chart.arcsIn e, b.isComplete = false ∧
      b.matched.map Tree.shape = u.children.dropLast.map Tree.shape ∧
      b.key = ⟨⟨u.span.start, k⟩, r, u.children.dropLast.length⟩ := by
  rcases kept with ⟨w, inForest, same⟩
  rcases mem_roots.mp inForest with ⟨a, inLast, _, built, _⟩
  -- The phrase recurs in the tree of the forest, where some arc has built it.
  rcases part.of_shape same with ⟨v, part', same'⟩
  have head := Tree.head_eq_of_shape same'
  have span := Tree.span_eq_of_shape same'
  have children := Tree.children_eq_of_shape same'
  have applies' : v.Applies r :=
    ⟨head.trans applies.1, (Tree.heads_eq_of_shapes children).trans applies.2⟩
  rcases charted.built_of_within inLast built part' (applies'.1 ▸ r.head_isTerminal) with
    ⟨i, c, inCell, built'⟩
  rcases charted.exists_front_of_built inCell built' applies' syntactic with
    ⟨e, b, waiting, waits, matched, rule, starts⟩
  have shapes : b.matched.map Tree.shape = u.children.dropLast.map Tree.shape := by
    rw [matched, List.map_dropLast, children, List.map_dropLast]
  have stop : b.span.stop = k := by
    have reach := (charted.sound waiting).tiled
    rw [starts, span] at reach
    exact reach.stop_unique (tiled.of_shapes shapes.symm)
  refine ⟨e, b, waiting, waits, shapes, Arc.key_eq.mpr ⟨?_, rule, ?_⟩⟩
  · rw [← stop, ← span, ← starts]
  · have lengths := congrArg List.length shapes
    rw [List.length_map, List.length_map] at lengths
    exact lengths

/-- What looks like a reading and derives is a reading. -/
theorem Reading.of_alike {t t' : Tree} (reading : p.Reading t) (alike : t'.Alike t)
    (derived : t'.Derivation p.grammar p.tokens) : p.Reading t' := by
  rcases reading.applies with ⟨r, member, syntactic, head, applies⟩
  exact ⟨derived, alike.span_eq.trans reading.span_eq, r, member, syntactic, head,
    alike.head_eq.trans applies.1, alike.heads_eq.trans applies.2⟩

/-- If every reading is kept, all fronts are unique. -/
theorem Charted.frontsUnique (charted : p.Charted chart)
    (kept : ∀ t, p.Reading t → ∃ u ∈ p.roots chart, u.shape = t.shape) : p.FrontsUnique := by
  intro t reading u part
  refine Tree.frontUnique_of_several fun several => ?_
  intro row k labels tiledRow tiledFront parts
  have derived := reading.derived.within part
  rcases derived.exists_syntactic several with ⟨r, member, applies, syntactic⟩
  rcases derived.exists_other_front member applies labels tiledRow tiledFront parts with
    ⟨u', derived', alike, front⟩
  rcases reading.derived.replace part derived' alike with ⟨t', derivedT, alikeT, part'⟩
  -- Both readings are kept, so one and the same arc has matched both fronts.
  have applies' : u'.Applies r :=
    ⟨alike.head_eq.trans applies.1, alike.heads_eq.trans applies.2⟩
  rw [← front, ← alike.span_eq] at tiledRow
  rcases charted.exists_front_of_kept (kept t reading) part applies syntactic tiledFront with
    ⟨e, b, inCell, waits, shapes, key⟩
  rcases charted.exists_front_of_kept (kept t' (reading.of_alike alikeT derivedT)) part' applies'
      syntactic tiledRow with ⟨e', b', inCell', waits', shapes', key'⟩
  have lengths := congrArg List.length labels
  rw [List.length_map, List.length_map] at lengths
  rw [front] at shapes' key'
  have keys : b'.key = b.key := by rw [key, key', alike.span_eq, lengths]
  rw [← shapes, ← shapes', charted.eq_of_key inCell' inCell keys waits' waits]

/-- Under a policy that looks at trees the forest keeps every reading exactly if
all fronts are unique. -/
theorem Filled.keeps_iff (filled : p.Filled policy chart) (finer : policy ≠ .span) :
    (∀ t, p.Reading t → ∃ u ∈ p.roots chart, u.shape = t.shape) ↔ p.FrontsUnique :=
  ⟨filled.charted.frontsUnique, fun unique _ reading => filled.kept_reading finer unique reading⟩

/-! ## Grammars without ambiguity before the last symbol -/

/-- Tags of the same labels over the same positions have the same shapes. -/
theorem shapes_eq_of_tags {g : Grammar} {tokens : List Text} {row row' : List Tree}
    (labels : row.map Tree.head = row'.map Tree.head) {i j j' : Int}
    (tiled : Tree.Tiled i row j) (tiled' : Tree.Tiled i row' j')
    (parts : ∀ t ∈ row, t.Derivation g tokens) (parts' : ∀ t ∈ row', t.Derivation g tokens)
    (tags : ∀ t ∈ row, t.head.isTerminal = false ∧
      ∀ r ∈ g.rules, r.head = t.head → r.isLexical = true) :
    row.map Tree.shape = row'.map Tree.shape := by
  induction row generalizing i row' with
  | nil => rw [List.map_eq_nil_iff.mp labels.symm]
  | cons t ts ih =>
      rcases List.map_eq_cons_iff.mp labels.symm with ⟨u, us, rfl, first, rest⟩
      have derived := parts t (List.mem_cons_self ..)
      have derived' := parts' u (List.mem_cons_self ..)
      rcases tags t (List.mem_cons_self ..) with ⟨phrase, lexical⟩
      rcases derived.exists_rule phrase with ⟨r, member, applies, _⟩
      rcases derived'.exists_rule (first ▸ phrase) with ⟨r', member', applies', _⟩
      have same : t.shape = u.shape := derived.shape_eq_of_tagged derived' applies
        (lexical r member applies.1.symm) applies'
        (lexical r' member' (applies'.1.symm.trans first)) (tiled.1.trans tiled'.1.symm) first.symm
      have stops : u.span.stop = t.span.stop := by rw [Tree.span_eq_of_shape same]
      rw [List.map_cons, List.map_cons, same, ih rest.symm tiled.2 (stops ▸ tiled'.2)
        (fun v inside => parts v (List.mem_cons_of_mem t inside))
        (fun v inside => parts' v (List.mem_cons_of_mem u inside))
        (fun v inside => tags v (List.mem_cons_of_mem t inside))]

end Problem

/-- A row of derivation trees for the symbols, over the positions from `i` to `j`. -/
structure Tree.Row (g : Grammar) (tokens : List Text) (symbols : List Symbol) (i j : Int)
    (row : List Tree) : Prop where
  labels : row.map head = symbols
  tiled : Tiled i row j
  derived : ∀ t ∈ row, t.Derivation g tokens

/-- Over any positions there is at most one row for the first symbols of a rule,
as long as these are not all of its symbols. -/
def Grammar.PrefixesUnambiguous (g : Grammar) (tokens : List Text) : Prop :=
  ∀ r ∈ g.rules, ∀ d, 1 ≤ d → d < r.length → ∀ (i j : Int) (row row' : List Tree),
    Tree.Row g tokens (r.rhs.take d) i j row → Tree.Row g tokens (r.rhs.take d) i j row' →
    row.map Tree.shape = row'.map Tree.shape

/-- If only tags stand before the last symbol of a rule, nothing before it is
ambiguous. -/
theorem Grammar.prefixesUnambiguous_of_tags {g : Grammar} {tokens : List Text}
    (tags : ∀ r ∈ g.rules, ∀ s ∈ r.rhs.dropLast, ∀ r' ∈ g.rules, r'.head = s →
      r'.isLexical = true) : g.PrefixesUnambiguous tokens := by
  intro r member d some proper i j row row' first second
  have proper : d < r.rhs.length := proper
  have syntactic : r.isLexical = false := by
    apply Bool.eq_false_iff.mpr
    intro lexical
    rcases r.isLexical_iff.mp lexical with ⟨token, single⟩
    rw [single, List.length_singleton] at proper
    omega
  refine Problem.shapes_eq_of_tags (first.labels.trans second.labels.symm) first.tiled
    second.tiled first.derived second.derived ?_
  intro t inRow
  have inFront : t.head ∈ r.rhs.take d := first.labels ▸ List.mem_map_of_mem inRow
  refine ⟨r.isTerminal_of_mem_rhs syntactic _ (List.mem_of_mem_take inFront),
    tags r member _ ?_⟩
  rw [List.dropLast_eq_take]
  exact List.take_subset_take_left _ (Nat.le_sub_one_of_lt proper) inFront

namespace Problem

variable {p : Problem}

/-- If nothing before the last symbol of a rule is ambiguous, all fronts are
unique. -/
theorem frontsUnique_of_prefixes
    (unambiguous : p.grammar.PrefixesUnambiguous p.tokens) : p.FrontsUnique := by
  intro t reading u part
  refine Tree.frontUnique_of_several fun several => ?_
  intro row k labels tiledRow tiledFront parts
  have derived := reading.derived.within part
  rcases derived.exists_syntactic several with ⟨r, member, applies, _⟩
  have front : u.children.dropLast.map Tree.head = r.rhs.take (r.length - 1) := by
    rw [List.map_dropLast, applies.2, List.dropLast_eq_take]
    rfl
  have lengths := congrArg List.length applies.2
  have nonempty := List.length_pos_iff.mpr several
  rw [List.length_map] at lengths
  rw [List.length_dropLast, lengths] at nonempty
  change 0 < r.length - 1 at nonempty
  exact unambiguous r member (r.length - 1) nonempty (by omega) _ k row _
    ⟨labels.trans front, tiledRow, parts⟩ ⟨front, tiledFront, fun c inFront =>
      derived.parts_of_mem (List.mem_of_mem_dropLast inFront)⟩

/-- If only tags stand before the last symbol of a rule, all fronts are unique. -/
theorem frontsUnique_of_tags
    (tags : ∀ r ∈ p.grammar.rules, ∀ s ∈ r.rhs.dropLast, ∀ r' ∈ p.grammar.rules,
      r'.head = s → r'.isLexical = true) : p.FrontsUnique :=
  frontsUnique_of_prefixes (Grammar.prefixesUnambiguous_of_tags tags)

end Problem

namespace Parser

/-- Where unary rules form no cycle, a policy that looks at trees keeps every
reading of the sentence exactly if the sentence fits into a chart and at every
node of every reading there is one shape for the children before the last. -/
theorem parse_keeps_readings_iff (parser : Parser) (start : Symbol) (tokens : List Text)
    (acyclic : parser.grammar.UnaryAcyclic) (finer : parser.policy ≠ .span) :
    (∃ trees, parser.parse start tokens = .ok trees ∧
      ∀ t, (parser.problem start tokens).Reading t → ∃ u ∈ trees, u.shape = t.shape) ↔
    tokens.length < Chart.maxLength ∧ (parser.problem start tokens).FrontsUnique := by
  constructor
  · rintro ⟨trees, parsed, kept⟩
    have ends := Ends.of_parse parsed
    rcases ends.parse_eq with ⟨chart, filled, parsed'⟩
    rw [parsed, Except.ok.injEq] at parsed'
    subst parsed'
    exact ⟨ends.fits, (filled.keeps_iff finer).mp kept⟩
  · rintro ⟨fits, unique⟩
    rcases (ends_of_acyclic acyclic start fits).parse_eq with ⟨chart, filled, parsed⟩
    exact ⟨_, parsed, (filled.keeps_iff finer).mpr unique⟩

open Grammar (phrase word)

/-- A phrase `b` over `u` with two readings, and a tag for `t`. -/
def forks : List Rule :=
  [phrase "b" ["x"], phrase "b" ["y"], word "x" "u", word "y" "u", word "a" "t"]

/-- The phrase comes last. -/
def forkedLast : Grammar :=
  .ofRules (phrase "s" ["a", "b"] :: forks)

/-- The phrase comes first. -/
def forkedFront : Grammar :=
  .ofRules (phrase "s" ["b", "a"] :: forks)

/-- A phrase `b` over the token at `k`, by way of a tag. -/
def forkAt (k : Nat) (tag : Text) : Tree :=
  .node 0 ⟨k, k + 1⟩ (.nonterminal "b")
    [.node 0 ⟨k, k + 1⟩ (.nonterminal tag) [.leaf 0 ⟨k, k + 1⟩ "u"]]

/-- The tag of the token at `k`. -/
def tagAt (k : Nat) : Tree :=
  .node 0 ⟨k, k + 1⟩ (.nonterminal "a") [.leaf 0 ⟨k, k + 1⟩ "t"]

theorem derivation_unary {g : Grammar} {tokens : List Text} {k : Nat} {r : Rule}
    (member : r ∈ g.rules) {c : Tree} (label : [c.head] = r.rhs) (span : c.span = ⟨k, k + 1⟩)
    (derived : c.Derivation g tokens) :
    Tree.Derivation g tokens (.node 0 ⟨k, k + 1⟩ r.head [c]) := by
  refine .node 0 ⟨k, k + 1⟩ r [c] member label ?_ ?_
  · rw [Tree.tiled_cons, Tree.tiled_nil, span]
    exact ⟨rfl, rfl⟩
  · intro d inside
    exact List.mem_singleton.mp inside ▸ derived

theorem tagAt_derivation {g : Grammar} (known : word "a" "t" ∈ g.rules) {tokens : List Text}
    {k : Nat} (found : tokens[k]? = some "t") : (tagAt k).Derivation g tokens :=
  derivation_unary known rfl rfl (.leaf 0 k "t" found)

theorem forkAt_derivation {g : Grammar} {tag : Text} (known : word tag "u" ∈ g.rules)
    (leads : phrase "b" [tag] rfl ∈ g.rules) {tokens : List Text} {k : Nat}
    (found : tokens[k]? = some "u") : (forkAt k tag).Derivation g tokens :=
  derivation_unary leads rfl rfl (derivation_unary known rfl rfl (.leaf 0 k "u" found))

theorem reading_pair {g : Grammar} {tokens : List Text} {r : Rule} (member : r ∈ g.rules)
    (syntactic : r.isLexical = false) {c d : Tree} (labels : [c.head, d.head] = r.rhs)
    (first : c.span = ⟨0, 1⟩) (second : d.span = ⟨1, 2⟩) (two : tokens.length = 2)
    (derived : c.Derivation g tokens) (derived' : d.Derivation g tokens) :
    Problem.Reading ⟨g, r.head, tokens⟩ (.node 0 ⟨0, 2⟩ r.head [c, d]) := by
  refine ⟨.node 0 ⟨0, 2⟩ r [c, d] member labels ?_ ?_, ?_, r, member, syntactic, rfl, rfl, labels⟩
  · rw [Tree.tiled_cons, Tree.tiled_cons, Tree.tiled_nil, first, second]
    exact ⟨rfl, rfl, rfl⟩
  · intro x inside
    rcases List.mem_pair.mp inside with equal | equal
    · exact equal ▸ derived
    · exact equal ▸ derived'
  · rw [Tree.span_node, two]
    rfl

/-- Both readings of the last phrase are kept. -/
theorem parse_keeps_readings_forkedLast :
    ∃ trees, (Parser.mk forkedLast .shape).parse (.nonterminal "s") ["t", "u"] = .ok trees ∧
      ∀ tag ∈ (["x", "y"] : List Text), ∃ t ∈ trees,
        t.shape = .node 0 ⟨0, 2⟩ (.nonterminal "s") [tagAt 0, forkAt 1 tag] := by
  have acyclic : forkedLast.UnaryAcyclic :=
    Grammar.unaryAcyclic_of_rank (fun s => if s = .nonterminal "b" then 1 else 0) (by decide)
  rcases (parse_keeps_readings_iff (Parser.mk forkedLast .shape)
    (.nonterminal "s") ["t", "u"] acyclic (by decide)).mpr
    ⟨by decide, Problem.frontsUnique_of_tags (by decide)⟩ with ⟨trees, parsed, kept⟩
  refine ⟨trees, parsed, fun tag known => ?_⟩
  have rules : word tag "u" ∈ forkedLast.rules ∧ phrase "b" [tag] rfl ∈ forkedLast.rules := by
    rcases List.mem_pair.mp known with rfl | rfl <;> decide
  rcases kept _ (reading_pair (r := phrase "s" ["a", "b"]) (by decide) rfl
    rfl rfl rfl rfl (tagAt_derivation (k := 0) (by decide) rfl)
    (forkAt_derivation (k := 1) rules.1 rules.2 rfl)) with ⟨t, inForest, same⟩
  exact ⟨t, inForest, same⟩

theorem forkedFront_acyclic : forkedFront.UnaryAcyclic :=
  Grammar.unaryAcyclic_of_rank (fun s => if s = .nonterminal "b" then 1 else 0) (by decide)

/-- One reading of a phrase that does not come last is lost. -/
theorem forkedFront_loses_reading {policy : Policy} (finer : policy ≠ .span) :
    ∃ trees, (Parser.mk forkedFront policy).parse (.nonterminal "s") ["u", "t"] = .ok trees ∧
      ∃ t, Problem.Reading ⟨forkedFront, .nonterminal "s", ["u", "t"]⟩ t ∧
        ∀ u ∈ trees, u.shape ≠ t.shape := by
  have ends : (Parser.mk forkedFront policy).Ends (.nonterminal "s") ["u", "t"] :=
    ends_of_acyclic forkedFront_acyclic _ (by decide)
  rcases ends.parse_eq with ⟨chart, filled, parsed⟩
  refine ⟨_, parsed, ?_⟩
  apply Classical.byContradiction
  intro none
  -- Otherwise the two readings of the phrase would have one shape.
  have kept := (filled.keeps_iff finer).mp fun t reading => Classical.byContradiction fun lost =>
    none ⟨t, reading, fun u inForest same => lost ⟨u, inForest, same⟩⟩
  have derived : ∀ tag : Text, word tag "u" ∈ forkedFront.rules →
      phrase "b" [tag] rfl ∈ forkedFront.rules →
      (forkAt 0 tag).Derivation forkedFront ["u", "t"] :=
    fun _ known leads => forkAt_derivation known leads rfl
  have reading := reading_pair (r := phrase "s" ["b", "a"]) (by decide) rfl
    rfl rfl rfl rfl (derived "x" (by decide) (by decide))
    (tagAt_derivation (k := 1) (by decide) rfl)
  have same := kept _ reading _ (.self _) [forkAt 0 "y"] 1 rfl ⟨rfl, rfl⟩ ⟨rfl, rfl⟩ <| by
    intro c inside
    exact List.mem_singleton.mp inside ▸ derived "y" (by decide) (by decide)
  simp [forkAt, Tree.shape] at same
  exact absurd same (by decide)

/-- Neither comparing shapes nor comparing numbers keeps both readings of a
phrase that does not come last. -/
theorem parse_loses_reading :
    forkedFront.UnaryAcyclic ∧
    (∃ trees, (Parser.mk forkedFront .shape).parse (.nonterminal "s") ["u", "t"] = .ok trees ∧
      ∃ t, Problem.Reading ⟨forkedFront, .nonterminal "s", ["u", "t"]⟩ t ∧
        ∀ u ∈ trees, u.shape ≠ t.shape) ∧
    ∃ trees, (Parser.mk forkedFront .identity).parse (.nonterminal "s") ["u", "t"] = .ok trees ∧
      ∃ t, Problem.Reading ⟨forkedFront, .nonterminal "s", ["u", "t"]⟩ t ∧
        ∀ u ∈ trees, u.shape ≠ t.shape :=
  ⟨forkedFront_acyclic, forkedFront_loses_reading (by decide),
    forkedFront_loses_reading (by decide)⟩

end Parser
end ParseForest
