import Mathlib.Algebra.BigOperators.Group.List.Basic
import Mathlib.Algebra.GroupWithZero.Nat
import Mathlib.Data.List.Nodup
import ParseForest.Proofs.Chart.Firsts
import ParseForest.Proofs.Worklist.Visits

namespace ParseForest

/-!
# Charts put together by hand

A chart need not come from a run.  Whoever has arcs can insert them in any order,
and the arcs need not make sense: one may have matched more than its rule has
room for, tag a token with a rule that is not lexical, or end where the chart has
no cell.  Nothing is assumed about them here.

Whatever the history of a chart, each of its cells is a plain list, to which an
arc has been added if it ends there and the policy takes it for none of the list.
The keys only save comparisons.
-/

namespace Tree

mutual

/-- It does not matter which of two trees is compared with the other. -/
theorem same_comm : (t u : Tree) → t.same u = u.same t
  | .leaf m span token, .leaf n span' token' => by
      simp only [same, eq_comm (a := m), eq_comm (a := span), eq_comm (a := token)]
  | .leaf _ _ _, .node _ _ _ _ => rfl
  | .node _ _ _ _, .leaf _ _ _ => rfl
  | .node m span label children, .node n span' label' children' => by
      simp only [same, sameAll_comm children children', eq_comm (a := m), eq_comm (a := span),
        eq_comm (a := label)]

theorem sameAll_comm : (ts us : List Tree) → sameAll ts us = sameAll us ts
  | [], [] => rfl
  | [], _ :: _ => rfl
  | _ :: _, [] => rfl
  | t :: ts, u :: us => by rw [sameAll, sameAll, same_comm t u, sameAll_comm ts us]

end

end Tree

theorem Policy.merges_comm (policy : Policy) (a b : Arc) :
    policy.merges a b = policy.merges b a := by
  have keys : decide (a.key = b.key) = decide (b.key = a.key) := decide_eq_decide.mpr eq_comm
  unfold merges
  rw [keys]
  congr 1
  cases a.built with
  | none => cases b.built <;> rfl
  | some t =>
      cases b.built with
      | none => rfl
      | some u =>
          cases policy with
          | span => rfl
          | shape => exact t.same_comm u
          | identity => exact decide_eq_decide.mpr eq_comm
          | unnamed code => exact decide_eq_decide.mpr eq_comm

namespace Chart

/-! ## Insertions in a row -/

/-- Insert an arc, and leave the chart as it is if there is no cell for it. -/
def attempt (chart : Chart) (a : Arc) : Chart × Except Fault Bool :=
  match chart.insert a with
  | .ok (chart, new) => (chart, .ok new)
  | .error fault => (chart, .error fault)

/-- Insert several arcs in order, and collect the answers. -/
def attempts (chart : Chart) (history : List Arc) : Chart × List (Except Fault Bool) :=
  history.foldl
    (fun (chart, answers) a => ((chart.attempt a).1, answers ++ [(chart.attempt a).2])) (chart, [])

/-- Whether the answer says that the arc has entered the chart. -/
def isEntry : Except Fault Bool → Bool
  | .ok new => new
  | .error _ => false

/-- The arcs that end at a position, without those that the policy takes for an
earlier one. -/
def listed (policy : Policy) (history : List Arc) (pos : Int) : List Arc :=
  (history.filter (·.span.stop = pos)).eraseDupsBy policy.merges

/-- The arc stands behind the others of its cell, and all other cells are as they
were. -/
structure Gains (chart chart' : Chart) (a : Arc) : Prop where
  length_eq : chart'.length = chart.length
  policy_eq : chart'.policy = chart.policy
  here : chart'.arcsAt a.span.stop = (chart.arcsAt a.span.stop).map (· ++ [a])
  elsewhere : ∀ e : Nat, a.span.stop ≠ e → chart'.cells[e]? = chart.cells[e]?

/-- A chart whose cells are lists without repetitions, with the arcs by key
beside each, and which takes a further arc exactly if it is no repetition. -/
structure Orderly (n : Int) (policy : Policy) (chart : Chart) : Prop where
  length_eq : (chart.length : Int) = n + 1
  policy_eq : chart.policy = policy
  distinct : ∀ i arcs, chart.arcsAt i = .ok arcs →
    arcs.Pairwise fun a b => policy.merges a b = false ∧ policy.merges b a = false
  indexed : ∀ (e : Nat) (cell : Cell), chart.cells[e]? = some cell →
    ∀ k, cell.byKey.getD k [] = cell.arcs.toList.filter (·.key = k)
  accepts : ∀ a arcs, chart.arcsAt a.span.stop = .ok arcs →
    (∀ b ∈ arcs, policy.merges a b = false) →
    ∃ chart', chart.attempt a = (chart', .ok true) ∧ chart.Gains chart' a
  rejects : ∀ a arcs, chart.arcsAt a.span.stop = .ok arcs →
    (∃ b ∈ arcs, policy.merges a b = true) → chart.attempt a = (chart, .ok false)
  refuses : ∀ a, a.span.stop < 0 ∨ n < a.span.stop →
    chart.attempt a = (chart, .error (.outOfRange a.span.stop chart.length))

variable {chart : Chart} {history : List Arc} {policy : Policy} {a : Arc} {e : Nat}

theorem attempts_concat (chart : Chart) (history : List Arc) (a : Arc) :
    chart.attempts (history ++ [a]) =
      (((chart.attempts history).1.attempt a).1,
        (chart.attempts history).2 ++ [((chart.attempts history).1.attempt a).2]) := by
  rw [attempts, List.foldl_append]
  rfl

theorem listed_concat (policy : Policy) (history : List Arc) (a : Arc) (pos : Int) :
    listed policy (history ++ [a]) pos =
      if a.span.stop = pos ∧ (listed policy history pos).any (policy.merges a) = false then
        listed policy history pos ++ [a]
      else listed policy history pos := by
  rw [listed, List.filter_append]
  by_cases here : a.span.stop = pos
  · rw [List.filter_cons_of_pos (by simpa using here), List.filter_nil, eraseDupsBy_concat, ← listed]
    cases repeated : (listed policy history pos).any (policy.merges a) <;> simp [here]
  · rw [List.filter_cons_of_neg (by simpa using here), List.filter_nil, List.append_nil,
      if_neg (fun both => here both.1), listed]

/-! ## Single insertions -/

theorem size_append (inside : e < chart.length) : (chart.append e a).size = chart.size + 1 := by
  have cells : ∀ i, ((chart.append e a).arcsIn i).length =
      (chart.arcsIn i).length + if i = e then 1 else 0 := by
    intro i
    by_cases here : i = e
    · rw [here, append_arcsIn_self inside, List.length_append, List.length_singleton, if_pos rfl]
    · rw [append_arcsIn_of_ne here, if_neg here, Nat.add_zero]
  rw [size_eq, size_eq, arcs, arcs, List.length_flatMap, List.length_flatMap, append_length]
  simp only [cells, List.sum_map_add]
  congr 1
  rw [List.sum_map_eq_nsmul_single e _ fun i different _ => if_neg different,
    List.count_eq_one_of_mem List.nodup_range (List.mem_range.mpr inside), if_pos rfl, one_nsmul]

theorem gains_append (inside : e < chart.length) (stop : a.span.stop = e) :
    chart.Gains (chart.append e a) a where
  length_eq := append_length
  policy_eq := append_policy
  here := by
    rw [stop, arcsAt_natCast inside, arcsAt_natCast (append_length.symm ▸ inside),
      append_arcsIn_self inside]
    rfl
  elsewhere i different := by
    have apart : e ≠ i := fun same => different (stop.trans (congrArg Nat.cast same))
    rw [append, Array.getElem?_modify, if_neg apart]

/-- Where the keys are up to date, an attempt finds a repetition if there is one. -/
theorem Tidy.attempt_eq (tidy : chart.Tidy) (inside : e < chart.length) (stop : a.span.stop = e) :
    chart.attempt a = if (chart.arcsIn e).any (chart.policy.merges a) then (chart, .ok false)
      else (chart.append e a, .ok true) := by
  rw [attempt, tidy.insert_eq inside stop]
  cases (chart.arcsIn e).any (chart.policy.merges a) <;> rfl

theorem attempt_of_outside (outside : a.span.stop < 0 ∨ (chart.length : Int) ≤ a.span.stop) :
    chart.attempt a = (chart, .error (.outOfRange a.span.stop chart.length)) := by
  have missing : ¬ (0 ≤ a.span.stop ∧ a.span.stop.toNat < chart.cells.size) := by
    change _ ∨ (chart.cells.size : Int) ≤ _ at outside
    omega
  rw [attempt, insert, locate, if_neg missing]
  rfl

/-- A tidy chart is orderly. -/
theorem Tidy.orderly {n : Int} (tidy : chart.Tidy) (length : (chart.length : Int) = n + 1) :
    chart.Orderly n chart.policy where
  length_eq := length
  policy_eq := rfl
  distinct i arcs found := by
    rcases exists_of_arcsAt found with ⟨e, _, _, rfl⟩
    refine (tidy.distinct e).imp ?_
    intro a b apart
    exact ⟨(chart.policy.merges_comm a b).trans apart, apart⟩
  indexed e cell found := by
    have kept := tidy.indexed e
    rw [cellAt, found] at kept
    exact kept
  accepts a arcs found new := by
    rcases exists_of_arcsAt found with ⟨e, inside, stop, rfl⟩
    have none : (chart.arcsIn e).any (chart.policy.merges a) = false :=
      List.any_eq_false.mpr fun b member => Bool.eq_false_iff.mp (new b member)
    refine ⟨chart.append e a, ?_, gains_append inside stop⟩
    rw [tidy.attempt_eq inside stop, none]
    rfl
  rejects a arcs found repeated := by
    rcases exists_of_arcsAt found with ⟨e, inside, stop, rfl⟩
    rw [tidy.attempt_eq inside stop, List.any_eq_true.mpr repeated]
    rfl
  refuses a outside := attempt_of_outside (by omega)

/-! ## Histories -/

/-- The chart has come from an empty one by a history of insertions. -/
structure Records (blank : Chart) (history : List Arc) (chart : Chart) (entries : Nat) : Prop where
  tidy : chart.Tidy
  length_eq : chart.length = blank.length
  policy_eq : chart.policy = blank.policy
  arcsIn_eq : ∀ e < chart.length, chart.arcsIn e = listed blank.policy history e
  size_eq : chart.size = entries

variable {blank : Chart} {entries : Nat}

/-- One more attempt. -/
theorem Records.attempt (records : blank.Records history chart entries) (a : Arc) :
    blank.Records (history ++ [a]) (chart.attempt a).1
      (entries + if isEntry (chart.attempt a).2 then 1 else 0) := by
  rcases records with ⟨tidy, lengthEq, policyEq, arcsInEq, sizeEq⟩
  -- A position where nothing is added keeps its list.
  have kept : ∀ i : Nat, i < chart.length →
      (a.span.stop = i → (chart.arcsIn i).any (chart.policy.merges a) = true) →
      chart.arcsIn i = listed blank.policy (history ++ [a]) i := by
    intro i inside repeated
    rw [listed_concat, ← arcsInEq i inside, ← policyEq, if_neg]
    rintro ⟨here, new⟩
    rw [repeated here] at new
    cases new
  by_cases outside : a.span.stop < 0 ∨ (chart.length : Int) ≤ a.span.stop
  · rw [attempt_of_outside outside]
    refine ⟨tidy, lengthEq, policyEq, fun i inside => kept i inside ?_, sizeEq⟩
    intro here
    have inside : (i : Int) < chart.length := Int.ofNat_lt.mpr inside
    omega
  · obtain ⟨e, stop⟩ : ∃ e : Nat, a.span.stop = e :=
      ⟨a.span.stop.toNat, (Int.toNat_of_nonneg (by omega)).symm⟩
    have inside : e < chart.length := by omega
    rw [tidy.attempt_eq inside stop]
    cases repeated : (chart.arcsIn e).any (chart.policy.merges a) with
    | true =>
        refine ⟨tidy, lengthEq, policyEq, fun i within => kept i within ?_, sizeEq⟩
        intro here
        rw [Int.natCast_inj.mp (here.symm.trans stop)]
        exact repeated
    | false =>
        refine ⟨tidy.append inside stop repeated, append_length.trans lengthEq, policyEq, ?_, ?_⟩
        · intro i within
          by_cases here : i = e
          · subst here
            rw [if_neg Bool.false_ne_true, append_arcsIn_self inside, listed_concat,
              ← arcsInEq i inside, ← policyEq, if_pos ⟨stop, repeated⟩]
          · rw [if_neg Bool.false_ne_true, append_arcsIn_of_ne here]
            refine kept i (append_length ▸ within) fun same => ?_
            exact absurd (Int.natCast_inj.mp (same.symm.trans stop)) here
        · rw [if_neg Bool.false_ne_true, size_append inside, sizeEq]
          rfl

theorem Records.attempts (first : blank.Records [] blank 0) (history : List Arc) :
    blank.Records history (blank.attempts history).1
      ((blank.attempts history).2.countP isEntry) := by
  induction history using List.reverseRecOn with
  | nil => exact first
  | append_singleton history a ih =>
      have next := ih.attempt a
      rw [attempts_concat, List.countP_append, List.countP_singleton]
      exact next

theorem records_replicate (width : Nat) (policy : Policy) :
    Records ⟨Array.replicate width .empty, policy⟩ [] ⟨Array.replicate width .empty, policy⟩ 0 where
  tidy := tidy_replicate
  length_eq := rfl
  policy_eq := rfl
  arcsIn_eq _ _ := arcsIn_replicate
  size_eq := by
    have nothing : ∀ e, arcsIn ⟨Array.replicate width .empty, policy⟩ e = [] :=
      fun _ => arcsIn_replicate
    rw [Chart.size_eq, arcs]
    simp [nothing]

theorem make_cases (n : Int) (policy : Policy) :
    ((n < -1 ∨ (maxLength : Int) < n + 1) ∧ make n policy = .error .badLength) ∨
    ∃ blank, make n policy = .ok blank ∧ (blank.length : Int) = n + 1 ∧ blank.policy = policy ∧
      blank.Records [] blank 0 := by
  unfold make
  split
  case isTrue none =>
    refine Or.inl ⟨?_, rfl⟩
    simp only [Bool.or_eq_true, decide_eq_true_eq, Int.ofNat_eq_natCast] at none
    omega
  case isFalse room =>
    simp only [Bool.or_eq_true, decide_eq_true_eq] at room
    refine Or.inr ⟨_, rfl, ?_, rfl, records_replicate _ policy⟩
    rw [length, Array.size_replicate]
    exact Int.toNat_of_nonneg (by omega)

/-- After any insertions a chart is as plain lists without repetitions would be.
It is orderly, so every further insertion does what it would do to such a list,
and its size is the number of those that were successful. -/
theorem attempts_listed (n : Int) (policy : Policy) :
    ((n < -1 ∨ (maxLength : Int) < n + 1) ∧ make n policy = .error .badLength) ∨
    ∃ blank, make n policy = .ok blank ∧ ∀ history : List Arc,
      ∃ chart answers, blank.attempts history = (chart, answers) ∧
        chart.Orderly n policy ∧ chart.size = answers.countP isEntry ∧
        ∀ i, 0 ≤ i → i ≤ n → chart.arcsAt i = .ok (listed policy history i) := by
  rcases make_cases n policy with failed | ⟨blank, made, room, rfl, first⟩
  · exact Or.inl failed
  refine Or.inr ⟨blank, made, fun history =>
    ⟨(blank.attempts history).1, (blank.attempts history).2, rfl, ?_⟩⟩
  rcases first.attempts history with ⟨tidy, lengthEq, policyEq, arcsInEq, sizeEq⟩
  rw [← lengthEq] at room
  refine ⟨policyEq ▸ tidy.orderly room, sizeEq, fun i lower upper => ?_⟩
  obtain ⟨e, rfl⟩ : ∃ e : Nat, i = e := ⟨i.toNat, (Int.toNat_of_nonneg lower).symm⟩
  have inside : e < (blank.attempts history).1.length := by omega
  rw [arcsAt_natCast inside, arcsInEq e inside]

end Chart
end ParseForest
