import ParseForest.Chart

namespace ParseForest

/-!
# Insertion into a chart

A cell looks arcs up by key, and a policy merges arcs of one key only.  So what
a cell holds can be said without the keys: some arc of the list is merged with
the new one.  A chart in which the keys are kept this way is called tidy, if
besides every arc stands in the cell where it ends and no two arcs of a cell
are merged.  Insertion keeps charts tidy, and in a tidy chart it either changes
nothing or puts the arc behind the others of its cell.
-/

theorem Policy.key_eq_of_merges {policy : Policy} {a b : Arc}
    (merged : policy.merges a b = true) : a.key = b.key := by
  simp only [Policy.merges, Bool.and_eq_true, decide_eq_true_eq] at merged
  exact merged.1

/-- Arcs that have built nothing are merged as soon as their keys agree. -/
theorem Policy.merges_of_unbuilt {policy : Policy} {a b : Arc} (keys : a.key = b.key)
    (first : a.built = none) (second : b.built = none) : policy.merges a b = true := by
  simp [Policy.merges, keys, first, second]

namespace Cell

/-- The arcs by key are the arcs of the list with that key. -/
def Indexed (cell : Cell) : Prop :=
  ∀ k, cell.byKey.getD k [] = cell.arcs.toList.filter (·.key = k)

theorem indexed_empty : Indexed empty := by
  intro k
  simp [empty]

theorem Indexed.push {cell : Cell} (indexed : cell.Indexed) (a : Arc) : (cell.push a).Indexed := by
  intro k
  rw [Cell.push, Std.HashMap.getD_alter]
  by_cases same : a.key = k
  · subst same
    simp [← Std.HashMap.getD_eq_getD_getElem?, indexed a.key]
  · simp [same, indexed k]

/-- A cell holds an arc if it has one that is merged with it. -/
theorem Indexed.holds_eq {cell : Cell} (indexed : cell.Indexed) (policy : Policy) (a : Arc) :
    cell.holds policy a = cell.arcs.toList.any (policy.merges a) := by
  rw [holds, indexed a.key]
  apply Bool.eq_iff_iff.mpr
  simp only [List.any_eq_true, List.mem_filter, decide_eq_true_eq]
  constructor
  · rintro ⟨b, ⟨member, _⟩, merged⟩
    exact ⟨b, member, merged⟩
  · rintro ⟨b, member, merged⟩
    exact ⟨b, ⟨member, (Policy.key_eq_of_merges merged).symm⟩, merged⟩

end Cell

namespace Chart

/-! ## Cells as lists of arcs -/

/-- The cell at a position, empty if there is none. -/
def cellAt (chart : Chart) (e : Nat) : Cell :=
  chart.cells[e]?.getD .empty

/-- The arcs of the cell at a position. -/
def arcsIn (chart : Chart) (e : Nat) : List Arc :=
  (chart.cellAt e).arcs.toList

/-- The chart with an arc behind the others of a cell. -/
def append (chart : Chart) (e : Nat) (a : Arc) : Chart :=
  ⟨chart.cells.modify e (·.push a), chart.policy⟩

variable {chart : Chart} {e i : Nat} {a b : Arc}

@[simp]
theorem append_length : (chart.append e a).length = chart.length := by
  simp [append, length]

@[simp]
theorem append_policy : (chart.append e a).policy = chart.policy :=
  rfl

theorem append_cellAt_self (inside : e < chart.length) :
    (chart.append e a).cellAt e = (chart.cellAt e).push a := by
  have inside : e < chart.cells.size := inside
  rw [cellAt, append, Array.getElem?_modify, if_pos rfl, cellAt, Array.getElem?_eq_getElem inside]
  rfl

theorem append_cellAt_of_ne (different : i ≠ e) :
    (chart.append e a).cellAt i = chart.cellAt i := by
  rw [cellAt, append, Array.getElem?_modify, if_neg (Ne.symm different), cellAt]

theorem append_arcsIn_self (inside : e < chart.length) :
    (chart.append e a).arcsIn e = chart.arcsIn e ++ [a] := by
  rw [arcsIn, append_cellAt_self inside, Cell.push, Array.toList_push, arcsIn]

theorem append_arcsIn_of_ne (different : i ≠ e) :
    (chart.append e a).arcsIn i = chart.arcsIn i := by
  rw [arcsIn, append_cellAt_of_ne different, arcsIn]

/-- The arcs of the grown chart are the old ones and the new one. -/
theorem mem_arcsIn_append (inside : e < chart.length) :
    b ∈ (chart.append e a).arcsIn i ↔ b ∈ chart.arcsIn i ∨ i = e ∧ b = a := by
  by_cases same : i = e
  · subst same
    rw [append_arcsIn_self inside, List.mem_append, List.mem_singleton]
    simp only [true_and]
  · rw [append_arcsIn_of_ne same]
    simp only [same, false_and, or_false]

theorem locate_natCast (inside : e < chart.length) : chart.locate e = .ok e := by
  have inside : e < chart.cells.size := inside
  simp [locate, inside]

theorem arcsAt_natCast (inside : e < chart.length) : chart.arcsAt e = .ok (chart.arcsIn e) := by
  simp [arcsAt, locate_natCast inside, arcsIn, cellAt]

theorem exists_of_arcsAt {pos : Int} {arcs : List Arc} (found : chart.arcsAt pos = .ok arcs) :
    ∃ e < chart.length, pos = (e : Nat) ∧ chart.arcsIn e = arcs := by
  by_cases inside : 0 ≤ pos ∧ pos.toNat < chart.cells.size
  · have there : pos.toNat < chart.length := inside.2
    have same : pos = (pos.toNat : Nat) := (Int.toNat_of_nonneg inside.1).symm
    rw [same, arcsAt_natCast there, Except.ok.injEq] at found
    exact ⟨pos.toNat, there, same, found⟩
  · rw [arcsAt, locate, if_neg inside] at found
    cases found

theorem lt_length_of_mem (member : a ∈ chart.arcsIn e) : e < chart.length := by
  apply Nat.lt_of_not_le
  intro outside
  have outside : chart.cells.size ≤ e := outside
  simp [arcsIn, cellAt, Array.getElem?_eq_none outside, Cell.empty] at member

/-! ## Tidy charts -/

/-- Keys are kept up to date, arcs stand where they end, and no arc is merged
with an earlier one of its cell. -/
structure Tidy (chart : Chart) : Prop where
  indexed : ∀ e, (chart.cellAt e).Indexed
  located : ∀ e, ∀ a ∈ chart.arcsIn e, a.span.stop = e
  distinct : ∀ e, (chart.arcsIn e).Pairwise fun a b => chart.policy.merges b a = false

/-- Insertion into a tidy chart changes nothing if the arc is merged with one of
its cell, and puts it behind the others if not. -/
theorem Tidy.insert_eq (tidy : chart.Tidy) (inside : e < chart.length) (stop : a.span.stop = e) :
    chart.insert a = .ok (if (chart.arcsIn e).any (chart.policy.merges a) then (chart, false)
      else (chart.append e a, true)) := by
  unfold insert
  rw [stop, locate_natCast inside]
  change (if (chart.cellAt e).holds chart.policy a then _ else _) = _
  rw [(tidy.indexed e).holds_eq, ← arcsIn]
  split <;> rfl

theorem Tidy.append (tidy : chart.Tidy) (inside : e < chart.length) (stop : a.span.stop = e)
    (new : (chart.arcsIn e).any (chart.policy.merges a) = false) : (chart.append e a).Tidy where
  indexed i := by
    by_cases same : i = e
    · subst same
      rw [append_cellAt_self inside]
      exact (tidy.indexed i).push a
    · rw [append_cellAt_of_ne same]
      exact tidy.indexed i
  located i b member := by
    rcases (mem_arcsIn_append inside).mp member with old | ⟨rfl, rfl⟩
    · exact tidy.located i b old
    · exact stop
  distinct i := by
    by_cases same : i = e
    · subst same
      rw [append_arcsIn_self inside, List.pairwise_append]
      refine ⟨tidy.distinct i, List.pairwise_singleton _ _, ?_⟩
      intro b old c last
      rw [List.mem_singleton.mp last]
      exact Bool.eq_false_iff.mpr (List.any_eq_false.mp new b old)
    · rw [append_arcsIn_of_ne same]
      exact tidy.distinct i

/-! ## The empty chart -/

theorem make_eq {policy : Policy} {n : Nat} (fits : n < maxLength) :
    make n policy = .ok ⟨Array.replicate (n + 1) .empty, policy⟩ := by
  have room : ¬ (((n : Int) + 1 < 0 || Int.ofNat maxLength < (n : Int) + 1) = true) := by
    simp only [Bool.or_eq_true, decide_eq_true_eq, Int.ofNat_eq_natCast]
    omega
  rw [make, if_neg room]
  rfl

theorem lt_maxLength_of_make {policy : Policy} {n : Nat} (made : make n policy = .ok chart) :
    n < maxLength := by
  apply Nat.lt_of_not_le
  intro long
  have excess : ((n : Int) + 1 < 0 || Int.ofNat maxLength < (n : Int) + 1) = true := by
    simp only [Bool.or_eq_true, decide_eq_true_eq, Int.ofNat_eq_natCast]
    omega
  rw [make, if_pos excess] at made
  cases made

theorem cellAt_replicate {policy : Policy} {n : Nat} :
    cellAt ⟨Array.replicate n .empty, policy⟩ e = .empty := by
  rw [cellAt, Array.getElem?_replicate]
  split <;> rfl

theorem arcsIn_replicate {policy : Policy} {n : Nat} :
    arcsIn ⟨Array.replicate n .empty, policy⟩ e = [] := by
  rw [arcsIn, cellAt_replicate]
  rfl

theorem tidy_replicate {policy : Policy} {n : Nat} :
    Tidy ⟨Array.replicate n .empty, policy⟩ where
  indexed i := by
    rw [cellAt_replicate]
    exact Cell.indexed_empty
  located i a member := by
    rw [arcsIn_replicate] at member
    cases member
  distinct i := by
    rw [arcsIn_replicate]
    exact List.Pairwise.nil

end Chart
end ParseForest
