import ParseForest.Grammar
import ParseForest.Tree
import ParseForest.Proofs.Rule

namespace ParseForest

/-!
# Derivation trees

A derivation tree of a sentence has its tokens as leaves, each over the span of
its own position, and an application of a rule at every node: the labels of the
children are the right-hand side, and their spans lie end to end over the span
of the node.

The definition speaks of spans and not of texts.  That the leaves from left to
right are the tokens under the span is a consequence, and so is that a span is
never empty and never leaves the sentence, because no rule has an empty
right-hand side.
-/

namespace Tree

section

variable (serial : Nat) (span : Span) (token : Text) (label : Symbol) (parts : List Tree)

@[simp]
theorem serial_leaf : (leaf serial span token).serial = serial :=
  rfl

@[simp]
theorem serial_node : (node serial span label parts).serial = serial :=
  rfl

@[simp]
theorem span_leaf : (leaf serial span token).span = span :=
  rfl

@[simp]
theorem span_node : (node serial span label parts).span = span :=
  rfl

@[simp]
theorem head_leaf : (leaf serial span token).head = .terminal token :=
  rfl

@[simp]
theorem head_node : (node serial span label parts).head = label :=
  rfl

@[simp]
theorem children_leaf : (leaf serial span token).children = [] :=
  rfl

@[simp]
theorem children_node : (node serial span label parts).children = parts :=
  rfl

end

/-! ## Trees that lie end to end -/

/-- The spans of the trees lie end to end from `i` to `j`. -/
def Tiled (i : Int) : List Tree → Int → Prop
  | [], j => i = j
  | t :: ts, j => t.span.start = i ∧ Tiled t.span.stop ts j

@[simp]
theorem tiled_nil {i j : Int} : Tiled i [] j ↔ i = j :=
  Iff.rfl

@[simp]
theorem tiled_cons {i j : Int} {t : Tree} {ts : List Tree} :
    Tiled i (t :: ts) j ↔ t.span.start = i ∧ Tiled t.span.stop ts j :=
  Iff.rfl

theorem tiled_append {i j : Int} {ts us : List Tree} :
    Tiled i (ts ++ us) j ↔ ∃ k, Tiled i ts k ∧ Tiled k us j := by
  induction ts generalizing i with
  | nil => simp
  | cons t ts ih => simp [ih, and_assoc]

theorem tiled_concat {i j : Int} {ts : List Tree} {t : Tree} :
    Tiled i (ts ++ [t]) j ↔ Tiled i ts t.span.start ∧ t.span.stop = j := by
  rw [tiled_append]
  constructor
  · rintro ⟨k, front, starts, stops⟩
    exact ⟨starts ▸ front, stops⟩
  · rintro ⟨front, stops⟩
    exact ⟨t.span.start, front, rfl, stops⟩

/-- The trees determine where the last of them ends. -/
theorem Tiled.stop_unique {i j k : Int} {ts : List Tree} (first : Tiled i ts j)
    (second : Tiled i ts k) : j = k := by
  induction ts generalizing i with
  | nil => exact first.symm.trans second
  | cons t ts ih => exact ih first.2 second.2

/-! ## Derivation trees and rule applications -/

/-- The trees that the grammar builds over the tokens. -/
inductive Derivation (g : Grammar) (tokens : List Text) : Tree → Prop
  | leaf (serial k : Nat) (token : Text) (found : tokens[k]? = some token) :
      Derivation g tokens (.leaf serial ⟨k, k + 1⟩ token)
  | node (serial : Nat) (span : Span) (r : Rule) (children : List Tree)
      (member : r ∈ g.rules) (labels : children.map head = r.rhs)
      (tiled : Tiled span.start children span.stop)
      (parts : ∀ c ∈ children, Derivation g tokens c) :
      Derivation g tokens (.node serial span r.head children)

/-- The root of the tree applies the rule. -/
def Applies (t : Tree) (r : Rule) : Prop :=
  t.head = r.head ∧ t.children.map head = r.rhs

instance (t : Tree) (r : Rule) : Decidable (t.Applies r) :=
  inferInstanceAs (Decidable (_ ∧ _))

/-- A tree applies one rule at most. -/
theorem Applies.unique {t : Tree} {r r' : Rule} (first : t.Applies r) (second : t.Applies r') :
    r = r' :=
  Rule.eq_of_sides (first.1.symm.trans second.1) (first.2.symm.trans second.2)

section Derivation

variable {g : Grammar} {tokens : List Text}

theorem Derivation.parts_of_mem {t c : Tree} (derived : t.Derivation g tokens)
    (member : c ∈ t.children) : c.Derivation g tokens := by
  cases derived with
  | leaf => cases member
  | node _ _ _ _ _ _ _ parts => exact parts c member

/-- A derivation tree with a nonterminal at its root applies a rule. -/
theorem Derivation.exists_rule {t : Tree} (derived : t.Derivation g tokens)
    (phrase : t.head.isTerminal = false) :
    ∃ r ∈ g.rules, t.Applies r ∧ ∃ serial, t = .node serial t.span r.head t.children := by
  cases derived with
  | leaf => simp [Symbol.isTerminal] at phrase
  | node serial span r children member labels tiled parts =>
      exact ⟨r, member, ⟨rfl, labels⟩, serial, rfl⟩

theorem Derivation.tiled {t : Tree} (derived : t.Derivation g tokens)
    (phrase : t.head.isTerminal = false) : Tiled t.span.start t.children t.span.stop := by
  cases derived with
  | leaf => simp [Symbol.isTerminal] at phrase
  | node _ _ _ _ _ _ tiled _ => exact tiled

/-- A rule application has a last child, which begins where the others end. -/
theorem Derivation.exists_last {t : Tree} (derived : t.Derivation g tokens) {r : Rule}
    (applies : t.Applies r) :
    ∃ serial front c, t = .node serial t.span r.head (front ++ [c]) ∧
      front.map head ++ [c.head] = r.rhs ∧ Tiled t.span.start front c.span.start ∧
      c.span.stop = t.span.stop := by
  have phrase : t.head.isTerminal = false := applies.1 ▸ r.head_isTerminal
  rcases derived.exists_rule phrase with ⟨r', _, applies', serial, node⟩
  rcases List.eq_nil_or_concat t.children with empty | ⟨front, c, split⟩
  · have labels := applies.2
    rw [empty] at labels
    exact absurd labels.symm r.rhs_ne_nil
  · rw [List.concat_eq_append] at split
    have labels := applies.2
    have tiled := derived.tiled phrase
    rw [split, List.map_append, List.map_singleton] at labels
    rw [split, tiled_concat] at tiled
    rw [applies'.unique applies, split] at node
    exact ⟨serial, front, c, node, labels, tiled.1, tiled.2⟩

/-- A derivation tree with a terminal at its root is a token of the sentence. -/
theorem Derivation.eq_leaf {t : Tree} (derived : t.Derivation g tokens) {token : Text}
    (label : t.head = .terminal token) :
    ∃ serial k : Nat, tokens[k]? = some token ∧ t = .leaf serial ⟨k, k + 1⟩ token := by
  cases derived with
  | leaf serial k token' found =>
      rw [head_leaf, Symbol.terminal.injEq] at label
      subst label
      exact ⟨serial, k, found, rfl⟩
  | node serial span r children =>
      have phrase := r.head_isTerminal
      rw [head_node] at label
      rw [label] at phrase
      cases phrase

/-- A derivation tree that applies a lexical rule is that token and its tag. -/
theorem Derivation.eq_tagged {t : Tree} (derived : t.Derivation g tokens) {r : Rule}
    (applies : t.Applies r) {token : Text} (lexical : r.rhs = [.terminal token]) :
    ∃ serial k : Nat, tokens[k]? = some token ∧ t.span = ⟨k, k + 1⟩ ∧
      t.children = [.leaf serial ⟨k, k + 1⟩ token] := by
  have tiled := derived.tiled (applies.1 ▸ r.head_isTerminal)
  rcases List.map_eq_singleton_iff.mp (applies.2.trans lexical) with ⟨c, only, label⟩
  have child := derived.parts_of_mem (only ▸ List.mem_singleton_self c)
  rcases child.eq_leaf label with ⟨serial, k, found, rfl⟩
  rw [only] at tiled
  refine ⟨serial, k, found, ?_, only⟩
  rcases tiled with ⟨first, last⟩
  cases span : t.span with
  | mk start stop =>
      rw [span] at first last
      rw [Span.mk.injEq]
      exact ⟨first.symm, last.symm⟩

/-! ## Spans inside the sentence -/

theorem Tiled.start_le {i j : Int} {ts : List Tree} (tiled : Tiled i ts j)
    (ordered : ∀ t ∈ ts, t.span.start < t.span.stop) : i ≤ j := by
  induction ts generalizing i with
  | nil => exact Int.le_of_eq tiled
  | cons t ts ih =>
      have first := ordered t (List.mem_cons_self ..)
      have rest := ih tiled.2 fun u member => ordered u (List.mem_cons_of_mem t member)
      have starts := tiled.1
      omega

theorem Tiled.start_lt {i j : Int} {ts : List Tree} (tiled : Tiled i ts j)
    (ordered : ∀ t ∈ ts, t.span.start < t.span.stop) (nonempty : ts ≠ []) : i < j := by
  cases ts with
  | nil => exact absurd rfl nonempty
  | cons t ts =>
      have first := ordered t (List.mem_cons_self ..)
      have rest := tiled.2.start_le fun u member => ordered u (List.mem_cons_of_mem t member)
      have starts := tiled.1
      omega

/-- The span of a derivation tree is not empty and lies inside the sentence. -/
theorem Derivation.span_bounds {t : Tree} (derived : t.Derivation g tokens) :
    0 ≤ t.span.start ∧ t.span.start < t.span.stop ∧ t.span.stop ≤ tokens.length := by
  induction derived with
  | leaf serial k token found =>
      have inside := (List.getElem?_eq_some_iff.mp found).1
      simp only [span]
      omega
  | node serial span r children member labels tiled parts ih =>
      have nonempty : children ≠ [] := by
        intro empty
        rw [empty] at labels
        exact r.rhs_ne_nil labels.symm
      have ordered : ∀ c ∈ children, c.span.start < c.span.stop := fun c inside => (ih c inside).2.1
      refine ⟨?_, tiled.start_lt ordered nonempty, ?_⟩
      · -- The first child begins where the node does, and the last one ends there.
        cases children with
        | nil => exact absurd rfl nonempty
        | cons c rest =>
            have first := (ih c (List.mem_cons_self ..)).1
            rw [tiled.1] at first
            exact first
      · rcases List.eq_nil_or_concat children with empty | ⟨front, c, equal⟩
        · exact absurd empty nonempty
        · rw [equal, List.concat_eq_append] at tiled
          have last := (ih c (by simp [equal])).2.2
          rw [(tiled_concat.mp tiled).2] at last
          exact last

/-! ## The tokens under a tree -/

/-- The tokens from position `i` up to `j`. -/
def between (tokens : List Text) (i j : Int) : List Text :=
  (tokens.take j.toNat).drop i.toNat

theorem between_append {i k j : Int} (first : i ≤ k) (second : k ≤ j)
    (inside : j ≤ tokens.length) :
    between tokens i k ++ between tokens k j = between tokens i j := by
  have split : tokens.take j.toNat =
      tokens.take k.toNat ++ (tokens.take j.toNat).drop k.toNat := by
    conv => lhs; rw [← List.take_append_drop k.toNat (tokens.take j.toNat)]
    rw [List.take_take, Nat.min_eq_left (by omega)]
  have room : i.toNat ≤ (tokens.take k.toNat).length := by
    rw [List.length_take]
    omega
  unfold between
  conv => rhs; rw [split]
  rw [List.drop_append_of_le_length room]

/-- The trees of a row that lies end to end have the tokens under the row as
leaves, if each of them has. -/
theorem leavesAll_eq_between {i j : Int} {ts : List Tree} (tiled : Tiled i ts j)
    (derived : ∀ t ∈ ts, t.Derivation g tokens)
    (leaves : ∀ t ∈ ts, t.leaves = between tokens t.span.start t.span.stop) (bound : 0 ≤ i)
    (inside : j ≤ tokens.length) : leavesAll ts = between tokens i j := by
  induction ts generalizing i with
  | nil =>
      rw [leavesAll, tiled_nil.mp tiled, between, List.drop_eq_nil_iff.mpr]
      rw [List.length_take]
      omega
  | cons t ts ih =>
      have bounds := (derived t (List.mem_cons_self ..)).span_bounds
      have rest : leavesAll ts = between tokens t.span.stop j :=
        ih tiled.2 (fun u member => derived u (List.mem_cons_of_mem t member))
          (fun u member => leaves u (List.mem_cons_of_mem t member)) (by omega)
      have ordered : t.span.stop ≤ j := tiled.2.start_le fun u member =>
        (derived u (List.mem_cons_of_mem t member)).span_bounds.2.1
      rw [leavesAll, rest, leaves t (List.mem_cons_self ..), tiled.1,
        between_append (by have starts := tiled.1; omega) ordered inside]

/-- The leaves of a derivation tree are the tokens under its span. -/
theorem Derivation.leaves_eq {t : Tree} (derived : t.Derivation g tokens) :
    t.leaves = between tokens t.span.start t.span.stop := by
  induction derived with
  | leaf serial k token found =>
      rcases List.getElem?_eq_some_iff.mp found with ⟨inside, equal⟩
      have stop : ((k : Int) + 1).toNat = k + 1 := by omega
      rw [leaves, span, between, stop, Int.toNat_natCast, List.take_add_one, found,
        List.drop_append_of_le_length (by rw [List.length_take]; omega),
        List.drop_eq_nil_of_le (by rw [List.length_take]; omega)]
      rfl
  | node serial span r children member labels tiled parts ih =>
      have bounds := (Derivation.node serial span r children member labels tiled parts).span_bounds
      rw [leaves]
      exact leavesAll_eq_between tiled parts ih bounds.1 bounds.2.2

/-- A derivation tree over the whole sentence has the sentence as leaves. -/
theorem Derivation.leaves_eq_tokens {t : Tree} (derived : t.Derivation g tokens)
    (whole : t.span = ⟨0, tokens.length⟩) : t.leaves = tokens := by
  rw [derived.leaves_eq, whole]
  simp [between]

end Derivation
end Tree
end ParseForest
