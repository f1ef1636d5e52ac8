import ParseForest.Worklist
import ParseForest.Proofs.Tree.Derivation

namespace ParseForest

/-!
# What an arc stands for

The arcs of a sentence are deduced from one another by four rules, one for the
beginning and one for each kind of move.  A deduction does not mention charts,
cursors or policies, so whatever holds of deduced arcs holds of every arc that
any run puts into a chart.

The first such fact is what an arc means.  Its trees are derivation trees for
the first symbols of its rule, they lie end to end over its span, and it has
built a tree exactly if all symbols are matched.
-/

namespace Problem

/-- The arcs that can be deduced from the grammar and the sentence. -/
inductive Deduced (p : Problem) : Arc → Prop
  | seed (r : Rule) (member : r ∈ p.grammar.rules) (head : r.head = p.start) :
      Deduced p (.predict r 0)
  | predict {a : Arc} {awaited : Symbol} (waiting : Deduced p a)
      (next : a.next = .ok (some awaited)) (r : Rule) (member : r ∈ p.grammar.rules)
      (head : r.head = awaited) : Deduced p (.predict r a.span.stop)
  | scan {a : Arc} {awaited : Symbol} (waiting : Deduced p a)
      (next : a.next = .ok (some awaited)) (r : Rule) (member : r ∈ p.grammar.rules)
      (head : r.head = awaited) (serial : Nat) (token : Text)
      (lexical : r.rhs = [.terminal token]) (found : p.tokenAt? a.span.stop = some token) :
      Deduced p (.scan serial r ⟨a.span.stop, a.span.stop + 1⟩ token)
  | extend {a b : Arc} {t : Tree} (waiting : Deduced p b) (finished : Deduced p a)
      (built : a.built = some t) (next : b.next = .ok (some t.head))
      (meets : b.span.stop = a.span.start) (serial : Nat) :
      Deduced p (.extend serial b t)

end Problem

namespace Arc

theorem isComplete_iff {a : Arc} : a.isComplete = true ↔ a.dot = a.rule.rhs.length := by
  rw [isComplete, decide_eq_true_eq, Rule.length]

theorem isComplete_eq_false_iff {a : Arc} : a.isComplete = false ↔ a.dot ≠ a.rule.rhs.length := by
  rw [isComplete, decide_eq_false_iff_not, Rule.length]

theorem key_eq {a : Arc} {span : Span} {r : Rule} {d : Nat} :
    a.key = ⟨span, r, d⟩ ↔ a.span = span ∧ a.rule = r ∧ a.dot = d := by
  rw [key, ArcKey.mk.injEq]

theorem isComplete_eq_of_key {a b : Arc} (keys : a.key = b.key) :
    a.isComplete = b.isComplete := by
  rcases key_eq.mp keys with ⟨_, rule, dot⟩
  rw [isComplete, isComplete, rule, dot]

theorem isComplete_of_awaits {a : Arc} {awaited : Symbol}
    (awaits : a.rule.rhs[a.dot]? = some awaited) : a.isComplete = false := by
  apply isComplete_eq_false_iff.mpr
  exact Nat.ne_of_lt (List.getElem?_eq_some_iff.mp awaits).1

@[simp]
theorem extend_dot (serial : Nat) (a : Arc) (t : Tree) : (extend serial a t).dot = a.dot + 1 := by
  simp [extend, dot]

theorem extend_key (serial : Nat) (a : Arc) (t : Tree) :
    (a.extend serial t).key = ⟨⟨a.span.start, t.span.stop⟩, a.rule, a.dot + 1⟩ := by
  rw [key, extend_dot]
  rfl

theorem extend_built (serial : Nat) (a : Arc) (t : Tree) :
    (extend serial a t).built = if (extend serial a t).isComplete then
      some (.node serial ⟨a.span.start, t.span.stop⟩ a.rule.head (a.matched ++ [t])) else none := by
  by_cases full : (a.matched ++ [t]).length = a.rule.length
  · rw [isComplete, dot, extend, if_pos full, decide_eq_true full, if_pos rfl]
  · rw [isComplete, dot, extend, if_neg full, decide_eq_false full]
    rfl

/-- No rule is complete from the start. -/
theorem predict_isComplete (r : Rule) (pos : Int) : (predict r pos).isComplete = false := by
  apply isComplete_eq_false_iff.mpr
  intro full
  exact r.rhs_ne_nil (List.length_eq_zero_iff.mp full.symm)

/-! ## Sound arcs -/

/-- The trees of the arc are what its rule, its span and its dot say. -/
structure Sound (p : Problem) (a : Arc) : Prop where
  rule_mem : a.rule ∈ p.grammar.rules
  labels : a.matched.map Tree.head = a.rule.rhs.take a.dot
  tiled : Tree.Tiled a.span.start a.matched a.span.stop
  parts : ∀ t ∈ a.matched, t.Derivation p.grammar p.tokens
  start_nonneg : 0 ≤ a.span.start
  stop_le : a.span.stop ≤ p.tokens.length
  built_eq : (a.isComplete = false ∧ a.built = none) ∨
    (a.isComplete = true ∧ ∃ serial, a.built = some (.node serial a.span a.rule.head a.matched))

variable {p : Problem} {a : Arc}

theorem Sound.dot_le (sound : a.Sound p) : a.dot ≤ a.rule.length := by
  have lengths := congrArg List.length sound.labels
  rw [List.length_map, List.length_take] at lengths
  exact Nat.le_trans (Nat.le_of_eq lengths) (Nat.min_le_right _ _)

/-- A sound arc waits for the symbol behind its dot. -/
theorem Sound.next_eq (sound : a.Sound p) : a.next = .ok a.rule.rhs[a.dot]? := by
  unfold next
  by_cases complete : a.dot = a.rule.length
  · have outside : a.rule.rhs[a.dot]? = none := List.getElem?_eq_none (Nat.le_of_eq complete.symm)
    rw [if_pos (isComplete_iff.mpr complete), outside]
  · have inside : a.dot < a.rule.rhs.length := Nat.lt_of_le_of_ne sound.dot_le complete
    have short : a.dot < Rule.maxLength := Nat.lt_of_lt_of_le inside a.rule.length_le
    have waits : ¬ a.isComplete = true := fun full => complete (isComplete_iff.mp full)
    rw [if_neg waits, if_pos short, List.getElem?_eq_getElem inside, Option.getD_some]

theorem Sound.next_eq_some (sound : a.Sound p) {awaited : Symbol} :
    a.next = .ok (some awaited) ↔ a.rule.rhs[a.dot]? = some awaited := by
  rw [sound.next_eq, Except.ok.injEq]

/-- A sound arc with nothing behind its dot is complete. -/
theorem Sound.isComplete_of_none (sound : a.Sound p) (nothing : a.rule.rhs[a.dot]? = none) :
    a.isComplete = true :=
  isComplete_iff.mpr (Nat.le_antisymm sound.dot_le (List.getElem?_eq_none_iff.mp nothing))

theorem Sound.start_le (sound : a.Sound p) : a.span.start ≤ a.span.stop :=
  sound.tiled.start_le fun t member => (sound.parts t member).span_bounds.2.1

theorem Sound.start_lt (sound : a.Sound p) (some : a.matched ≠ []) : a.span.start < a.span.stop :=
  sound.tiled.start_lt (fun t member => (sound.parts t member).span_bounds.2.1) some

theorem Sound.matched_ne_nil (_ : a.Sound p) (complete : a.isComplete = true) :
    a.matched ≠ [] := by
  intro empty
  have full := isComplete_iff.mp complete
  rw [dot, empty, List.length_nil] at full
  exact a.rule.rhs_ne_nil (List.length_eq_zero_iff.mp full.symm)

/-- The trees of a complete arc match its whole rule. -/
theorem Sound.labels_of_complete (sound : a.Sound p) (complete : a.isComplete = true) :
    a.matched.map Tree.head = a.rule.rhs := by
  rw [sound.labels, isComplete_iff.mp complete, List.take_length]

/-- What a sound arc has built: an application of its rule over its span. -/
structure Builds (p : Problem) (a : Arc) (t : Tree) : Prop where
  complete : a.isComplete = true
  span_eq : t.span = a.span
  children_eq : t.children = a.matched
  applies : t.Applies a.rule
  derived : t.Derivation p.grammar p.tokens

theorem Sound.builds (sound : a.Sound p) {t : Tree} (built : a.built = some t) :
    a.Builds p t := by
  rcases sound.built_eq with ⟨_, nothing⟩ | ⟨complete, serial, node⟩
  · rw [nothing] at built
    cases built
  · rw [node] at built
    cases built
    have labels := sound.labels_of_complete complete
    exact ⟨complete, rfl, rfl, ⟨rfl, labels⟩,
      .node serial a.span a.rule a.matched sound.rule_mem labels sound.tiled sound.parts⟩

theorem Sound.exists_tree (sound : a.Sound p) (complete : a.isComplete = true) :
    ∃ t, a.built = some t := by
  rcases sound.built_eq with ⟨incomplete, _⟩ | ⟨_, serial, node⟩
  · rw [complete] at incomplete
    cases incomplete
  · exact ⟨_, node⟩

theorem Sound.built_eq_none (sound : a.Sound p) (waits : a.isComplete = false) :
    a.built = none := by
  rcases sound.built_eq with ⟨_, nothing⟩ | ⟨complete, _⟩
  · exact nothing
  · rw [waits] at complete
    cases complete

/-! ## The four ways to make an arc -/

theorem sound_predict {r : Rule} (member : r ∈ p.grammar.rules) {pos : Int} (lower : 0 ≤ pos)
    (upper : pos ≤ p.tokens.length) : (predict r pos).Sound p where
  rule_mem := member
  labels := rfl
  tiled := rfl
  parts := by simp [predict]
  start_nonneg := lower
  stop_le := upper
  built_eq := Or.inl ⟨predict_isComplete r pos, rfl⟩

theorem sound_scan {r : Rule} (member : r ∈ p.grammar.rules) {token : Text}
    (lexical : r.rhs = [.terminal token]) {pos : Int} (found : p.tokenAt? pos = some token)
    (serial : Nat) : (scan serial r ⟨pos, pos + 1⟩ token).Sound p := by
  unfold Problem.tokenAt? at found
  split at found
  case isFalse => cases found
  case isTrue lower =>
    have inside := (List.getElem?_eq_some_iff.mp found).1
    have position : ((pos.toNat : Nat) : Int) = pos := Int.toNat_of_nonneg lower
    have leaf : Tree.Derivation p.grammar p.tokens (.leaf serial ⟨pos, pos + 1⟩ token) := by
      have built := Tree.Derivation.leaf (g := p.grammar) serial pos.toNat token found
      rw [position] at built
      exact built
    exact {
      rule_mem := member
      labels := by simp [scan, dot, lexical]
      tiled := ⟨rfl, rfl⟩
      parts := by simpa [scan] using leaf
      start_nonneg := lower
      stop_le := by simp only [scan]; omega
      built_eq := Or.inr ⟨isComplete_iff.mpr (by simp [dot, scan, lexical]), serial + 1, rfl⟩ }

theorem sound_extend {b : Arc} (sound : b.Sound p) {t : Tree}
    (derived : t.Derivation p.grammar p.tokens) (next : b.next = .ok (some t.head))
    (meets : b.span.stop = t.span.start) (serial : Nat) : (extend serial b t).Sound p := by
  have awaited := sound.next_eq_some.mp next
  have inside := (List.getElem?_eq_some_iff.mp awaited).1
  exact {
    rule_mem := sound.rule_mem
    labels := by
      simp only [extend, dot, List.map_append, List.length_append, List.map_cons, List.map_nil,
        List.length_singleton]
      rw [List.take_add_one, sound.labels, dot] at *
      rw [awaited]
      rfl
    tiled := Tree.tiled_concat.mpr ⟨meets ▸ sound.tiled, rfl⟩
    parts := by
      intro u member
      rcases List.mem_append.mp member with old | new
      · exact sound.parts u old
      · rw [List.mem_singleton.mp new]
        exact derived
    start_nonneg := sound.start_nonneg
    stop_le := derived.span_bounds.2.2
    built_eq := by
      cases full : (extend serial b t).isComplete with
      | false => exact Or.inl ⟨rfl, by simp [extend_built, full]⟩
      | true => exact Or.inr ⟨rfl, serial, by rw [extend_built, if_pos full]; rfl⟩ }

end Arc

namespace Problem

open Arc

/-- Every deduced arc is sound. -/
theorem Deduced.sound {p : Problem} {a : Arc} (deduced : p.Deduced a) : a.Sound p := by
  induction deduced with
  | seed r member head => exact sound_predict member (Int.le_refl 0) (Int.natCast_nonneg _)
  | predict waiting next r member head ih =>
      exact sound_predict member (Int.le_trans ih.start_nonneg ih.start_le) ih.stop_le
  | scan waiting next r member head serial token lexical found ih =>
      exact sound_scan member lexical found serial
  | extend waiting finished built next meets serial waitingIh finishedIh =>
      have builds := finishedIh.builds built
      exact sound_extend waitingIh builds.derived next (by rw [meets, builds.span_eq]) serial

end Problem
end ParseForest
