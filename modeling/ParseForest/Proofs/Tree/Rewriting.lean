import Mathlib.Logic.Relation
import ParseForest.Proofs.Tree.Derivation

namespace ParseForest

/-!
# Rewriting and derivation trees

A grammar derives one list of symbols from another by replacing heads of rules
by right-hand sides.  This is the textbook account of what a grammar says about
a sentence, and it does not mention trees, spans or charts.  A list of symbols
derives the whole sentence exactly when there is a row of derivation trees with
these labels that lies end to end over it.
-/

namespace Grammar

/-- One head of a rule is replaced by the right-hand side. -/
inductive Rewrites (g : Grammar) : List Symbol → List Symbol → Prop
  | rule (before after : List Symbol) (r : Rule) (member : r ∈ g.rules) :
      Rewrites g (before ++ [r.head] ++ after) (before ++ r.rhs ++ after)

/-- The second list comes from the first by any number of replacements. -/
def Derives (g : Grammar) : List Symbol → List Symbol → Prop :=
  Relation.ReflTransGen g.Rewrites

variable {g : Grammar}

theorem Rewrites.around {form result : List Symbol} (step : g.Rewrites form result)
    (before after : List Symbol) :
    g.Rewrites (before ++ form ++ after) (before ++ result ++ after) := by
  cases step with
  | rule inner outer r member =>
      have step := Rewrites.rule (before ++ inner) (outer ++ after) r member
      simpa only [List.append_assoc] using step

theorem Derives.around {form result : List Symbol} (run : g.Derives form result)
    (before after : List Symbol) :
    g.Derives (before ++ form ++ after) (before ++ result ++ after) := by
  induction run with
  | refl => exact Relation.ReflTransGen.refl
  | tail _ step ih => exact Relation.ReflTransGen.tail ih (step.around before after)

theorem Derives.append {first first' second second' : List Symbol}
    (front : g.Derives first first') (back : g.Derives second second') :
    g.Derives (first ++ second) (first' ++ second') := by
  have frontRun := front.around [] second
  have backRun := back.around first' []
  simp only [List.nil_append, List.append_nil] at frontRun backRun
  exact frontRun.trans backRun

theorem Derives.of_rule {r : Rule} (member : r ∈ g.rules) : g.Derives [r.head] r.rhs := by
  have step := Rewrites.rule [] [] r member
  simp only [List.nil_append, List.append_nil] at step
  exact Relation.ReflTransGen.single step

theorem Derives.of_parts {r : Rule} {form : List Symbol} (member : r ∈ g.rules)
    (parts : g.Derives r.rhs form) : g.Derives [r.head] form :=
  (of_rule member).trans parts

end Grammar

namespace Tree

variable {g : Grammar} {tokens : List Text}

/-! ## From trees to rewriting -/

theorem derives_leavesAll {ts : List Tree}
    (derives : ∀ t ∈ ts, g.Derives [t.head] (t.leaves.map .terminal)) :
    g.Derives (ts.map head) ((leavesAll ts).map .terminal) := by
  induction ts with
  | nil => exact Relation.ReflTransGen.refl
  | cons t ts ih =>
      rw [List.map_cons, leavesAll, List.map_append, ← List.singleton_append]
      exact (derives t (List.mem_cons_self ..)).append
        (ih fun u member => derives u (List.mem_cons_of_mem t member))

/-- The label of a derivation tree derives its leaves. -/
theorem Derivation.derives {t : Tree} (derived : t.Derivation g tokens) :
    g.Derives [t.head] (t.leaves.map .terminal) := by
  induction derived with
  | leaf => exact Relation.ReflTransGen.refl
  | node serial span r children member labels tiled parts ih =>
      have inner := derives_leavesAll ih
      rw [labels] at inner
      exact (Grammar.Derives.of_rule member).trans inner

/-! ## From rewriting to trees -/

/-- The tokens as leaves, from position `k` on. -/
def leafRow : Nat → List Text → List Tree
  | _, [] => []
  | k, token :: rest => .leaf 0 ⟨k, k + 1⟩ token :: leafRow (k + 1) rest

theorem leafRow_heads (k : Nat) (row : List Text) :
    (leafRow k row).map head = row.map .terminal := by
  induction row generalizing k with
  | nil => rfl
  | cons token rest ih => rw [leafRow, List.map_cons, ih, List.map_cons, head]

theorem leafRow_tiled (k : Nat) (row : List Text) :
    Tiled k (leafRow k row) (k + row.length : Nat) := by
  induction row generalizing k with
  | nil => rfl
  | cons token rest ih =>
      have tail := ih (k + 1)
      rw [Nat.add_assoc, Nat.add_comm 1] at tail
      exact ⟨rfl, tail⟩

theorem leafRow_derivation {row : List Text} (before : List Text)
    (begins : before ++ row <+: tokens) :
    ∀ t ∈ leafRow before.length row, t.Derivation g tokens := by
  induction row generalizing before with
  | nil => simp [leafRow]
  | cons token rest ih =>
      intro t member
      rcases List.mem_cons.mp member with equal | inRest
      · rw [equal]
        rcases begins with ⟨after, whole⟩
        exact .leaf 0 before.length token (by simp [← whole])
      · refine ih (before ++ [token]) ?_ t ?_
        · rw [List.append_assoc, List.singleton_append]
          exact begins
        · rw [List.length_append, List.length_singleton]
          exact inRest

/-- In a row of trees, those for a right-hand side can be put under a node. -/
theorem exists_contracted {before after : List Symbol} {r : Rule} (member : r ∈ g.rules)
    {ts : List Tree} (labels : ts.map head = before ++ r.rhs ++ after) {i j : Int}
    (tiled : Tiled i ts j) (parts : ∀ t ∈ ts, t.Derivation g tokens) :
    ∃ us : List Tree, us.map head = before ++ [r.head] ++ after ∧ Tiled i us j ∧
      ∀ t ∈ us, t.Derivation g tokens := by
  rcases List.map_eq_append_iff.mp labels with ⟨front, back, rfl, frontLabels, backLabels⟩
  rcases List.map_eq_append_iff.mp frontLabels with ⟨left, middle, rfl, leftLabels, middleLabels⟩
  rcases tiled_append.mp tiled with ⟨n, frontTiled, backTiled⟩
  rcases tiled_append.mp frontTiled with ⟨k, leftTiled, middleTiled⟩
  have built : Derivation g tokens (.node 0 ⟨k, n⟩ r.head middle) :=
    .node 0 ⟨k, n⟩ r middle member middleLabels middleTiled
      fun c inside => parts c (by simp [inside])
  refine ⟨left ++ [.node 0 ⟨k, n⟩ r.head middle] ++ back, ?_, ?_, ?_⟩
  · simp [leftLabels, backLabels]
  · exact tiled_append.mpr ⟨n, tiled_concat.mpr ⟨leftTiled, rfl⟩, backTiled⟩
  · intro t inside
    rcases List.mem_append.mp inside with inFront | inBack
    · rcases List.mem_append.mp inFront with inLeft | new
      · exact parts t (by simp [inLeft])
      · rw [List.mem_singleton.mp new]
        exact built
    · exact parts t (by simp [inBack])

/-- A list of symbols derives the sentence exactly if there are derivation
trees with these labels that lie end to end over it. -/
theorem derives_tokens_iff {form : List Symbol} :
    g.Derives form (tokens.map .terminal) ↔
      ∃ ts : List Tree, ts.map head = form ∧ Tiled 0 ts tokens.length ∧
        ∀ t ∈ ts, t.Derivation g tokens := by
  constructor
  · intro run
    -- From the sentence back to the form: each step puts a node over some trees.
    induction run using Relation.ReflTransGen.head_induction_on with
    | refl =>
        refine ⟨leafRow 0 tokens, leafRow_heads 0 tokens, ?_, ?_⟩
        · simpa using leafRow_tiled 0 tokens
        · exact leafRow_derivation [] (List.prefix_refl _)
    | head step _ ih =>
        cases step with
        | rule before after r member =>
            rcases ih with ⟨ts, labels, tiled, parts⟩
            exact exists_contracted member labels tiled parts
  · rintro ⟨ts, labels, tiled, parts⟩
    have leaves := leavesAll_eq_between tiled parts (fun t member => (parts t member).leaves_eq)
      (Int.le_refl 0) (Int.le_refl _)
    have run := derives_leavesAll fun t member => (parts t member).derives
    rw [labels, leaves] at run
    simpa [between] using run

end Tree
end ParseForest
