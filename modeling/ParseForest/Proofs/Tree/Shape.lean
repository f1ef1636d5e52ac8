import ParseForest.Proofs.Tree.Derivation

namespace ParseForest
namespace Tree

/-!
# Trees up to numbering

The shape of a tree is the tree with all serial numbers forgotten: its labels
and its spans all the way down.  The comparison of trees that a chart makes
takes equal numbers as a sign of equal trees and looks no further.  Where a
number belongs to one shape only, the shortcut is harmless and the comparison
tells exactly whether the shapes are equal.
-/

/-! ## The parts of a tree -/

/-- The first tree is the second one or occurs below its root. -/
inductive Within : Tree → Tree → Prop
  | self (t : Tree) : Within t t
  | inside {u c t : Tree} (member : c ∈ t.children) (inner : Within u c) : Within u t

theorem within_leaf {u : Tree} {serial : Nat} {span : Span} {token : Text} :
    u.Within (.leaf serial span token) ↔ u = .leaf serial span token := by
  constructor
  · intro part
    cases part with
    | self => rfl
    | inside member inner => cases member
  · rintro rfl
    exact .self _

theorem within_node {u : Tree} {serial : Nat} {span : Span} {label : Symbol}
    {children : List Tree} :
    u.Within (.node serial span label children) ↔
      u = .node serial span label children ∨ ∃ c ∈ children, u.Within c := by
  constructor
  · intro part
    cases part with
    | self => exact Or.inl rfl
    | inside member inner => exact Or.inr ⟨_, member, inner⟩
  · rintro (rfl | ⟨c, member, inner⟩)
    · exact .self _
    · exact .inside member inner

/-- The parts of a part are parts. -/
theorem Within.trans {v u t : Tree} (inner : v.Within u) (outer : u.Within t) : v.Within t := by
  induction outer with
  | self => exact inner
  | inside member _ ih => exact .inside member ih

/-- The parts of a derivation tree are derivation trees. -/
theorem Derivation.within {g : Grammar} {tokens : List Text} {u t : Tree}
    (derived : t.Derivation g tokens) (part : u.Within t) : u.Derivation g tokens := by
  induction part with
  | self => exact derived
  | inside member _ ih => exact ih (derived.parts_of_mem member)

/-! ## Replacing a part -/

/-- The trees have the same span and label, and their children have the same
labels. -/
structure Alike (t u : Tree) : Prop where
  span_eq : t.span = u.span
  head_eq : t.head = u.head
  heads_eq : t.children.map head = u.children.map head

/-- A part of a derivation tree can be replaced by another derivation that looks
alike, and the whole looks as before. -/
theorem Derivation.replace {g : Grammar} {tokens : List Text} {u u' t : Tree}
    (derived : t.Derivation g tokens) (part : u.Within t) (new : u'.Derivation g tokens)
    (alike : u'.Alike u) : ∃ t' : Tree, t'.Derivation g tokens ∧ t'.Alike t ∧ u'.Within t' := by
  induction part with
  | self => exact ⟨u', new, alike, .self u'⟩
  | @inside c t member inner ih =>
      rcases ih (derived.parts_of_mem member) with ⟨c', derived', alike', part'⟩
      cases derived with
      | leaf => cases member
      | node serial span r children inGrammar labels tiled parts =>
          rcases List.append_of_mem member with ⟨left, right, split⟩
          rw [children_node] at split
          subst split
          have heads : (left ++ c' :: right).map head = (left ++ c :: right).map head := by
            rw [List.map_append, List.map_append, List.map_cons, List.map_cons, alike'.head_eq]
          have tiled' : Tiled span.start (left ++ c' :: right) span.stop := by
            rw [tiled_append] at tiled ⊢
            rcases tiled with ⟨k, front, back⟩
            rw [tiled_cons] at back
            exact ⟨k, front, by rw [tiled_cons, alike'.span_eq]; exact back⟩
          refine ⟨.node serial span r.head (left ++ c' :: right), ?_, ⟨rfl, rfl, heads⟩, ?_⟩
          · refine .node serial span r _ inGrammar (heads.trans labels) tiled' ?_
            intro x inChildren
            rcases List.mem_append.mp inChildren with inLeft | inRest
            · exact parts x (List.mem_append_left _ inLeft)
            · rcases List.mem_cons.mp inRest with same | inRight
              · exact same ▸ derived'
              · exact parts x (List.mem_append_right _ (List.mem_cons_of_mem c inRight))
          · exact .inside (List.mem_append_right _ (List.mem_cons_self ..)) part'

/-! ## Forgetting the numbers -/

mutual

/-- The tree with all serial numbers forgotten. -/
def shape : Tree → Tree
  | .leaf _ span token => .leaf 0 span token
  | .node _ span label children => .node 0 span label (shapeAll children)

/-- The trees with all serial numbers forgotten. -/
def shapeAll : List Tree → List Tree
  | [] => []
  | t :: ts => shape t :: shapeAll ts

end

@[simp]
theorem shapeAll_eq_map (ts : List Tree) : shapeAll ts = ts.map shape := by
  induction ts with
  | nil => rfl
  | cons t ts ih => rw [shapeAll, ih, List.map_cons]

theorem shape_node (serial : Nat) (span : Span) (label : Symbol) (children : List Tree) :
    shape (.node serial span label children) = .node 0 span label (children.map shape) := by
  rw [shape, shapeAll_eq_map]

mutual

@[simp]
theorem shape_shape : (t : Tree) → t.shape.shape = t.shape
  | .leaf _ _ _ => rfl
  | .node serial span label children => by
      rw [shape_node, shape_node, shapes_shape children]

theorem shapes_shape : (ts : List Tree) → (ts.map shape).map shape = ts.map shape
  | [] => rfl
  | t :: ts => by rw [List.map_cons, List.map_cons, shape_shape t, shapes_shape ts]

end

@[simp]
theorem shape_span (t : Tree) : t.shape.span = t.span := by
  cases t <;> rfl

@[simp]
theorem shape_head (t : Tree) : t.shape.head = t.head := by
  cases t <;> rfl

@[simp]
theorem shape_children (t : Tree) : t.shape.children = t.children.map shape := by
  cases t with
  | leaf => rfl
  | node => rw [shape_node, children, children]

theorem span_eq_of_shape {t u : Tree} (equal : t.shape = u.shape) : t.span = u.span := by
  rw [← shape_span t, equal, shape_span]

theorem head_eq_of_shape {t u : Tree} (equal : t.shape = u.shape) : t.head = u.head := by
  rw [← shape_head t, equal, shape_head]

theorem children_eq_of_shape {t u : Tree} (equal : t.shape = u.shape) :
    t.children.map shape = u.children.map shape := by
  rw [← shape_children t, equal, shape_children]

/-- The parts of a tree recur in every tree of its shape. -/
theorem Within.of_shape {u t t' : Tree} (part : u.Within t) (equal : t'.shape = t.shape) :
    ∃ u' : Tree, u'.Within t' ∧ u'.shape = u.shape := by
  induction part generalizing t' with
  | self => exact ⟨t', .self t', equal⟩
  | inside member inner ih =>
      have found := List.mem_map_of_mem (f := shape) member
      rw [← children_eq_of_shape equal] at found
      rcases List.mem_map.mp found with ⟨c', member', equal'⟩
      rcases ih equal' with ⟨u', part', same⟩
      exact ⟨u', .inside member' part', same⟩

/-- Rows of trees with the same shapes have the same labels. -/
theorem heads_eq_of_shapes {ts us : List Tree} (equal : ts.map shape = us.map shape) :
    ts.map head = us.map head := by
  have labels := congrArg (List.map head) equal
  rw [List.map_map, List.map_map] at labels
  have forget : head ∘ shape = head := funext shape_head
  rwa [forget] at labels

/-- Rows of trees with the same shapes cover the same positions. -/
theorem Tiled.of_shapes {i j : Int} {ts us : List Tree} (tiled : Tiled i ts j)
    (equal : ts.map shape = us.map shape) : Tiled i us j := by
  induction ts generalizing i us with
  | nil =>
      rw [List.map_eq_nil_iff.mp equal.symm]
      exact tiled
  | cons t ts ih =>
      rcases List.map_eq_cons_iff.mp equal.symm with ⟨u, us, rfl, first, rest⟩
      have spans := span_eq_of_shape first
      exact ⟨spans ▸ tiled.1, ih (spans ▸ tiled.2) rest.symm⟩

/-- The shape of a tagged token is determined by its position and its tag. -/
theorem Derivation.shape_tagged {g : Grammar} {tokens : List Text} {t : Tree}
    (derived : t.Derivation g tokens) {r : Rule} (applies : t.Applies r)
    (lexical : r.isLexical = true) :
    ∃ (k : Nat) (token : Text), tokens[k]? = some token ∧ t.span = ⟨k, k + 1⟩ ∧
      t.shape = .node 0 ⟨k, k + 1⟩ t.head [.leaf 0 ⟨k, k + 1⟩ token] := by
  rcases r.isLexical_iff.mp lexical with ⟨token, single⟩
  rcases derived.eq_tagged applies single with ⟨n, k, found, span, children⟩
  rcases derived.exists_rule (applies.1 ▸ r.head_isTerminal) with ⟨_, _, applies', m, node⟩
  refine ⟨k, token, found, span, ?_⟩
  rw [node, shape_node, children, span, List.map_singleton, shape, head_node]

/-- Two tags of one token are the same if their labels are. -/
theorem Derivation.shape_eq_of_tagged {g : Grammar} {tokens : List Text} {t u : Tree}
    (derived : t.Derivation g tokens) (derived' : u.Derivation g tokens) {r r' : Rule}
    (applies : t.Applies r) (lexical : r.isLexical = true) (applies' : u.Applies r')
    (lexical' : r'.isLexical = true) (starts : t.span.start = u.span.start)
    (heads : t.head = u.head) : t.shape = u.shape := by
  rcases derived.shape_tagged applies lexical with ⟨k, token, found, span, shape⟩
  rcases derived'.shape_tagged applies' lexical' with ⟨k', token', found', span', shape'⟩
  rw [span, span'] at starts
  have same : k = k' := Int.natCast_inj.mp starts
  subst same
  rw [found, Option.some.injEq] at found'
  rw [shape, shape', heads, found']

/-! ## The comparison with its shortcut -/

/-- Equal numbers in the two trees belong to equal shapes. -/
def Agree (t u : Tree) : Prop :=
  ∀ v w : Tree, v.Within t → w.Within u → v.serial = w.serial → v.shape = w.shape

mutual

/-- Trees of the same shape are always found the same. -/
theorem same_of_shape : (t u : Tree) → t.shape = u.shape → t.same u = true
  | .leaf m span token, .leaf n span' token', equal => by
      simp only [shape, leaf.injEq, true_and] at equal
      simp [same, equal]
  | .leaf m span token, .node n span' label children, equal => by simp [shape] at equal
  | .node m span label children, .leaf n span' token, equal => by simp [shape] at equal
  | .node m span label children, .node n span' label' children', equal => by
      simp only [shape_node, node.injEq, true_and] at equal
      simp [same, equal.1, equal.2.1, sameAll_of_shapes children children' equal.2.2]

theorem sameAll_of_shapes : (ts us : List Tree) → ts.map shape = us.map shape →
    sameAll ts us = true
  | [], [], _ => rfl
  | [], _ :: _, equal => by simp at equal
  | _ :: _, [], equal => by simp at equal
  | t :: ts, u :: us, equal => by
      rw [List.map_cons, List.map_cons, List.cons.injEq] at equal
      rw [sameAll, same_of_shape t u equal.1, sameAll_of_shapes ts us equal.2]
      rfl

end

mutual

/-- Where equal numbers mean equal shapes, the comparison decides whether two
trees have the same shape. -/
theorem same_iff_shape : (t u : Tree) → t.Agree u → (t.same u = true ↔ t.shape = u.shape)
  | .leaf m span token, .leaf n span' token', agree => by
      have number := agree _ _ (.self _) (.self _)
      simp only [serial, shape, leaf.injEq, true_and] at number
      simp only [same, shape, leaf.injEq, true_and, Bool.or_eq_true, Bool.and_eq_true,
        decide_eq_true_eq]
      exact ⟨fun equal => equal.elim number id, Or.inr⟩
  | .leaf m span token, .node n span' label children, _ => by simp [same, shape]
  | .node m span label children, .leaf n span' token, _ => by simp [same, shape]
  | .node m span label children, .node n span' label' children', agree => by
      have number := agree _ _ (.self _) (.self _)
      have inner := sameAll_iff_shape children children' fun t member u member' v w part part' =>
        agree v w (.inside member part) (.inside member' part')
      simp only [serial, shape_node, node.injEq, true_and] at number
      simp only [same, shape_node, node.injEq, true_and, Bool.or_eq_true, Bool.and_eq_true,
        decide_eq_true_eq, inner, and_assoc]
      exact ⟨fun equal => equal.elim number id, Or.inr⟩

theorem sameAll_iff_shape : (ts us : List Tree) → (∀ t ∈ ts, ∀ u ∈ us, t.Agree u) →
    (sameAll ts us = true ↔ ts.map shape = us.map shape)
  | [], [], _ => by simp [sameAll]
  | [], _ :: _, _ => by simp [sameAll]
  | _ :: _, [], _ => by simp [sameAll]
  | t :: ts, u :: us, agree => by
      have first := same_iff_shape t u (agree t (List.mem_cons_self ..) u (List.mem_cons_self ..))
      have rest := sameAll_iff_shape ts us fun v inside w inside' =>
        agree v (List.mem_cons_of_mem t inside) w (List.mem_cons_of_mem u inside')
      simp only [sameAll, Bool.and_eq_true, first, rest, List.map_cons, List.cons.injEq]

end

/-! ## Numbers that belong to one tree -/

/-- Every number among the known trees is below the bound and belongs to one of
them. -/
structure Numbered (known : Tree → Prop) (bound : Nat) : Prop where
  below : ∀ x, known x → x.serial < bound
  unique : ∀ x y, known x → known y → x.serial = y.serial → x = y

variable {known known' : Tree → Prop} {bound bound' : Nat}

/-- Numbers stay unique when trees with new numbers become known. -/
theorem Numbered.grow (numbered : Numbered known bound) (new : List Tree)
    (source : ∀ x, known' x → known x ∨ x ∈ new) (le : bound ≤ bound')
    (fresh : ∀ x ∈ new, bound ≤ x.serial ∧ x.serial < bound')
    (once : ∀ x ∈ new, ∀ y ∈ new, x.serial = y.serial → x = y) : Numbered known' bound' := by
  constructor
  · intro x found
    rcases source x found with old | made
    · exact Nat.lt_of_lt_of_le (numbered.below x old) le
    · exact (fresh x made).2
  · intro x y first second equal
    rcases source x first with oldX | newX <;> rcases source y second with oldY | newY
    · exact numbered.unique x y oldX oldY equal
    · have low := numbered.below x oldX
      have high := (fresh y newY).1
      omega
    · have low := numbered.below y oldY
      have high := (fresh x newX).1
      omega
    · exact once x newX y newY equal

/-- Trees whose parts are known agree. -/
theorem Numbered.agree (numbered : Numbered known bound) {t u : Tree}
    (parts : ∀ v, v.Within t → known v) (parts' : ∀ w, w.Within u → known w) : t.Agree u := by
  intro v w part part' equal
  rw [numbered.unique v w (parts v part) (parts' w part') equal]

end Tree
end ParseForest
