import Mathlib.Algebra.GroupWithZero.Nat
import Mathlib.Data.List.Induction
import ParseForest.Batch

namespace ParseForest

/-!
# Batches in any order

What a batch comes to does not depend on who is faster.  A schedule is a list of
events, each of which is possible when its turn comes, and the facts below hold
for all of them.  A worker only ever touches its own stage and its own result, so
what is stored stands in the place of its item.  And a worker refuses exactly if
it has looked behind a cancellation, so the stages remember what the batch has to
answer for.

Schedules do not get stuck, since a worker that is not waiting can always go on
and one that waits is launched as soon as there is room.  They do not go on for
ever either, since every worker has three events of its own at most.
-/

namespace Stage

/-- The number of its own events that a worker has behind it. -/
def rank : Stage → Nat
  | .waiting => 0
  | .launched => 1
  | .working => 2
  | .refused => 2
  | .stored => 3

theorem rank_le (s : Stage) : s.rank ≤ 3 := by
  cases s <;> decide

theorem isBusy_of_isOver {s : Stage} (finished : s.isOver = true) : s.isBusy = false := by
  cases s with
  | waiting | launched | working => cases finished
  | stored | refused => rfl

end Stage

namespace Batch

variable {α β : Type} {b b' first : Batch α β} {event : Event} {events : List Event}

/-- Whether the event comes from outside and not from a worker. -/
def Event.isCancel : Event → Bool
  | .cancel => true
  | _ => false

/-- The batch after events that were all possible. -/
def afterAll? (b : Batch α β) (events : List Event) : Option (Batch α β) :=
  events.foldlM after? b

/-- Every worker has ended. -/
def IsOver (b : Batch α β) : Prop :=
  ∀ s ∈ b.stages, s.isOver = true

instance : Decidable b.IsOver :=
  inferInstanceAs (Decidable (∀ s ∈ b.stages, s.isOver = true))

/-- Some worker looks when the batch, which may have been cancelled from the start,
has been cancelled. -/
def SawCancelled (cancelled : Bool) (events : List Event) : Prop :=
  ∃ before worker, before ++ [.look worker] <+: events ∧
    (cancelled = true ∨ .cancel ∈ before)

theorem afterAll?_append (more : List Event) :
    b.afterAll? (events ++ more) = (b.afterAll? events).bind (·.afterAll? more) := by
  unfold afterAll?
  rw [List.foldlM_append]
  rfl

theorem afterAll?_concat :
    b.afterAll? (events ++ [event]) = some b' ↔
      ∃ middle, b.afterAll? events = some middle ∧ middle.after? event = some b' := by
  rw [afterAll?_append, Option.bind_eq_some_iff]
  simp [afterAll?]

theorem sawCancelled_concat {cancelled : Bool} :
    SawCancelled cancelled (events ++ [event]) ↔ SawCancelled cancelled events ∨
      (∃ worker, event = .look worker) ∧ (cancelled = true ∨ .cancel ∈ events) := by
  unfold SawCancelled
  constructor
  · rintro ⟨before, worker, reach, saw⟩
    rcases List.prefix_concat_iff.mp reach with whole | earlier
    · rcases List.append_inj' whole rfl with ⟨rfl, last⟩
      rw [List.cons.injEq] at last
      exact Or.inr ⟨⟨worker, last.1.symm⟩, saw⟩
    · exact Or.inl ⟨before, worker, earlier, saw⟩
  · rintro (⟨before, worker, earlier, saw⟩ | ⟨⟨worker, rfl⟩, saw⟩)
    · exact ⟨before, worker, earlier.trans (List.prefix_append _ _), saw⟩
    · exact ⟨events, worker, List.prefix_refl _, saw⟩

/-! ## Single events -/

/-- What an event does to a batch in which it is possible. -/
inductive Step (b : Batch α β) : Event → Batch α β → Prop
  | launch (worker : Nat) (waits : b.stages[worker]? = some .waiting) (room : b.busy < b.limit) :
      Step b .launch (b.setStage worker .launched)
  | refuse (worker : Nat) (looks : b.stages[worker]? = some .launched)
      (cancelled : b.cancelled = true) : Step b (.look worker) (b.setStage worker .refused)
  | accept (worker : Nat) (looks : b.stages[worker]? = some .launched)
      (going : b.cancelled = false) : Step b (.look worker) (b.setStage worker .working)
  | store (worker : Nat) (item : α) (found : b.items[worker]? = some item)
      (works : b.stages[worker]? = some .working) :
      Step b (.store worker) { b.setStage worker .stored with
        results := b.results.set worker (some (b.work item)) }
  | cancel : Step b .cancel { b with cancelled := true }

theorem Step.of_after? (possible : b.after? event = some b') : b.Step event b' := by
  cases event with
  | launch =>
      simp only [Batch.after?] at possible
      cases found : b.stages.idxOf? .waiting with
      | none => simp [found] at possible
      | some worker =>
          rcases List.idxOf?_eq_some_iff.mp found with ⟨inside, waits, _⟩
          simp only [found] at possible
          split at possible
          case isTrue room =>
            cases possible
            exact .launch worker (List.getElem?_eq_some_iff.mpr ⟨inside, waits⟩) room
          case isFalse => cases possible
  | look worker =>
      simp only [Batch.after?] at possible
      split at possible
      case isTrue looks =>
        cases cancelled : b.cancelled with
        | true =>
            simp only [cancelled, if_true, Option.some.injEq] at possible
            exact possible ▸ .refuse worker looks cancelled
        | false =>
            simp only [cancelled, Bool.false_eq_true, if_false, Option.some.injEq] at possible
            exact possible ▸ .accept worker looks cancelled
      case isFalse => cases possible
  | store worker =>
      simp only [Batch.after?] at possible
      cases found : b.items[worker]? with
      | none => simp [found] at possible
      | some item =>
          simp only [found] at possible
          split at possible
          case isTrue works =>
            cases possible
            exact .store worker item found works
          case isFalse => cases possible
  | cancel =>
      cases possible
      exact .cancel

/-! ## Counting finished the stages -/

/-- When one entry is exchanged, a sum finished the list changes by the difference. -/
theorem sum_map_set {l : List Stage} {worker : Nat} {s : Stage} (f : Stage → Nat)
    (found : l[worker]? = some s) (s' : Stage) :
    ((l.set worker s').map f).sum + f s = (l.map f).sum + f s' := by
  induction l generalizing worker with
  | nil => cases found
  | cons head rest ih =>
      cases worker with
      | zero =>
          cases found
          simp only [List.set_cons_zero, List.map_cons, List.sum_cons]
          omega
      | succ worker =>
          have step := ih found
          simp only [List.set_cons_succ, List.map_cons, List.sum_cons]
          omega

/-- How many events the workers have behind them. -/
def progress (b : Batch α β) : Nat :=
  (b.stages.map Stage.rank).sum

theorem progress_setStage {worker : Nat} {s : Stage} (found : b.stages[worker]? = some s)
    (s' : Stage) : (b.setStage worker s').progress + s.rank = b.progress + s'.rank :=
  sum_map_set Stage.rank found s'

theorem busy_setStage {worker : Nat} {s : Stage} (found : b.stages[worker]? = some s)
    (s' : Stage) : (b.setStage worker s').busy + s.isBusy.toNat = b.busy + s'.isBusy.toNat := by
  have count : ∀ l : List Stage, l.countP Stage.isBusy = (l.map fun s => s.isBusy.toNat).sum := by
    intro l
    induction l with
    | nil => rfl
    | cons s l ih =>
        rw [List.countP_cons, List.map_cons, List.sum_cons, ih, Nat.add_comm]
        cases s.isBusy <;> rfl
  unfold busy
  rw [count, count]
  exact sum_map_set (fun s => s.isBusy.toNat) found s'

/-- Another stage of a worker that has not refused makes no difference to those that
have, unless it is a refusal itself. -/
theorem refused_mem_setStage {worker : Nat} {s : Stage} (found : b.stages[worker]? = some s)
    (other : s ≠ .refused) (s' : Stage) :
    .refused ∈ (b.setStage worker s').stages ↔ .refused ∈ b.stages ∨ s' = .refused := by
  have inside := (List.getElem?_eq_some_iff.mp found).1
  unfold setStage
  simp only [List.mem_iff_getElem?, List.getElem?_set]
  constructor
  · rintro ⟨i, at_i⟩
    split at at_i
    case isTrue => exact Or.inr (Option.some.inj at_i)
    case isFalse => exact Or.inl ⟨i, at_i⟩
  · rintro (⟨i, at_i⟩ | rfl)
    · refine ⟨i, ?_⟩
      have different : worker ≠ i := by
        rintro rfl
        rw [found, Option.some.injEq] at at_i
        exact other at_i
      rw [if_neg different]
      exact at_i
    · exact ⟨worker, by rw [if_pos rfl, if_pos inside]⟩

/-! ## What holds after every schedule -/

/-- The second batch has come from the first one by the events. -/
structure Follows (first : Batch α β) (events : List Event) (b : Batch α β) : Prop where
  work_eq : b.work = first.work
  limit_eq : b.limit = first.limit
  items_eq : b.items = first.items
  stages_length : b.stages.length = b.items.length
  results_length : b.results.length = b.items.length
  /-- A worker that has stored something has stored its own result in its own place,
  and all other places are empty. -/
  results_eq : ∀ (worker : Nat) (item : α), b.items[worker]? = some item → b.results[worker]? =
    some (if b.stages[worker]? = some Stage.stored then some (b.work item) else none)
  cancelled_iff : b.cancelled = true ↔ first.cancelled = true ∨ .cancel ∈ events
  refused_iff : .refused ∈ b.stages ↔ SawCancelled first.cancelled events
  busy_le : b.busy ≤ b.limit
  progress_eq : b.progress = events.countP (!·.isCancel)

theorem follows_start (work : α → β) (jobs : Int) (cancelled : Bool) (items : List α) :
    Follows (start work jobs cancelled items) [] (start work jobs cancelled items) where
  work_eq := rfl
  limit_eq := rfl
  items_eq := rfl
  stages_length := List.length_map _
  results_length := List.length_map _
  results_eq worker item found := by
    have waiting : (start work jobs cancelled items).stages[worker]? = some .waiting := by
      change (items.map fun _ => Stage.waiting)[worker]? = _
      rw [List.getElem?_map, show items[worker]? = some item from found]
      rfl
    change (items.map fun _ => (none : Option β))[worker]? = _
    rw [List.getElem?_map, show items[worker]? = some item from found, waiting]
    rfl
  cancelled_iff := by simp
  refused_iff := by
    constructor
    · intro member
      rcases List.mem_map.mp member with ⟨_, _, equal⟩
      cases equal
    · rintro ⟨before, worker, reach, _⟩
      have short := reach.length_le
      simp at short
  busy_le := by
    have idle : (start work jobs cancelled items).busy = 0 := by
      simp [start, busy, Stage.isBusy]
    rw [idle]
    exact Nat.zero_le _
  progress_eq := by simp [start, progress, Stage.rank, List.map_const']

section Steps

variable {worker : Nat} {s s' : Stage} {results : List (Option β)}

/-- A worker comes to its next stage.  What this means for the results is left open. -/
theorem Follows.move (follows : first.Follows events b) (inner : event.isCancel = false)
    (found : b.stages[worker]? = some s) (other : s ≠ .refused) (next : s'.rank = s.rank + 1)
    (room : (b.setStage worker s').busy ≤ b.limit)
    (refuses : s' = .refused ↔ (∃ w, event = .look w) ∧ b.cancelled = true)
    (length : results.length = b.items.length)
    (stored : ∀ (w : Nat) (item : α), b.items[w]? = some item →
      results[w]? = some
        (if (b.stages.set worker s')[w]? = some Stage.stored then some (b.work item) else none)) :
    first.Follows (events ++ [event]) { b.setStage worker s' with results := results } where
  work_eq := follows.work_eq
  limit_eq := follows.limit_eq
  items_eq := follows.items_eq
  stages_length := (List.length_set ..).trans follows.stages_length
  results_length := length
  results_eq := stored
  cancelled_iff := by
    have outside : .cancel ∈ events ++ [event] ↔ .cancel ∈ events := by
      cases event with
      | cancel => cases inner
      | launch | look | store => simp
    rw [outside]
    exact follows.cancelled_iff
  refused_iff := by
    rw [sawCancelled_concat, ← follows.refused_iff, ← follows.cancelled_iff, ← refuses]
    exact refused_mem_setStage found other s'
  busy_le := room
  progress_eq := by
    have total := progress_setStage found s'
    rw [List.countP_append, ← follows.progress_eq, List.countP_singleton, inner]
    change (b.setStage worker s').progress = _
    simp only [Bool.not_false, if_true]
    omega

/-- As long as a worker does not store, the results stay as they are. -/
theorem Follows.results_setStage (follows : first.Follows events b)
    (found : b.stages[worker]? = some s) (before : s ≠ .stored) (after : s' ≠ .stored) (w : Nat)
    (item : α) (here : b.items[w]? = some item) : b.results[w]? =
      some (if (b.stages.set worker s')[w]? = some Stage.stored then some (b.work item)
        else none) := by
  rw [follows.results_eq w item here, List.getElem?_set]
  by_cases same : worker = w
  · subst same
    have inside := (List.getElem?_eq_some_iff.mp found).1
    rw [if_pos rfl, if_pos inside, found, if_neg (mt Option.some.inj before),
      if_neg (mt Option.some.inj after)]
  · rw [if_neg same]

theorem Follows.step (follows : first.Follows events b) (step : b.Step event b') :
    first.Follows (events ++ [event]) b' := by
  cases step with
  | launch worker waits room =>
      refine follows.move rfl waits (by decide) rfl ?_ (by simp) follows.results_length
        (follows.results_setStage waits (by decide) (by decide))
      have count := busy_setStage waits .launched
      change _ + 0 = _ + 1 at count
      omega
  | refuse worker looks cancelled =>
      refine follows.move rfl looks (by decide) rfl ?_ (by simp [cancelled]) follows.results_length
        (follows.results_setStage looks (by decide) (by decide))
      have count := busy_setStage looks .refused
      have most := follows.busy_le
      change _ + 1 = _ + 0 at count
      omega
  | accept worker looks going =>
      refine follows.move rfl looks (by decide) rfl ?_ (by simp [going]) follows.results_length
        (follows.results_setStage looks (by decide) (by decide))
      have count := busy_setStage looks .working
      have most := follows.busy_le
      change _ + 1 = _ + 1 at count
      omega
  | store worker item here works =>
      refine follows.move rfl works (by decide) rfl ?_ (by simp) ?_ ?_
      · have count := busy_setStage works .stored
        have most := follows.busy_le
        change _ + 1 = _ + 0 at count
        omega
      · rw [List.length_set, follows.results_length]
      · intro w item' here'
        have inside := (List.getElem?_eq_some_iff.mp works).1
        have place : worker < b.results.length := by
          rw [follows.results_length, ← follows.stages_length]
          exact inside
        rw [List.getElem?_set, List.getElem?_set]
        by_cases same : worker = w
        · subst same
          rw [here, Option.some.injEq] at here'
          simp [inside, place, here']
        · rw [if_neg same, if_neg same, follows.results_eq w item' here']
  | cancel =>
      exact {
        work_eq := follows.work_eq
        limit_eq := follows.limit_eq
        items_eq := follows.items_eq
        stages_length := follows.stages_length
        results_length := follows.results_length
        results_eq := follows.results_eq
        cancelled_iff := by simp
        refused_iff := by
          rw [sawCancelled_concat, ← follows.refused_iff]
          simp
        busy_le := follows.busy_le
        progress_eq := by
          rw [List.countP_append, ← follows.progress_eq]
          rfl }

end Steps

theorem Follows.of_afterAll? (ran : first.afterAll? events = some b)
    (start : first.Follows [] first) : first.Follows events b := by
  induction events using List.reverseRecOn generalizing b with
  | nil =>
      cases ran
      exact start
  | append_singleton events event ih =>
      rcases afterAll?_concat.mp ran with ⟨middle, earlier, last⟩
      exact (ih earlier).step (.of_after? last)

/-! ## Getting to the end -/

theorem Follows.progress_le (follows : first.Follows events b) :
    b.progress ≤ 3 * first.items.length := by
  have most : ∀ l : List Stage, (l.map Stage.rank).sum ≤ 3 * l.length := by
    intro l
    induction l with
    | nil => exact Nat.le_refl _
    | cons s l ih =>
        have step := s.rank_le
        rw [List.map_cons, List.sum_cons, List.length_cons]
        omega
  rw [← follows.items_eq, ← follows.stages_length]
  exact most b.stages

/-- A worker that is busy can go on, and if none is then there is room for one that
waits. -/
theorem Follows.goes_on (follows : first.Follows events b) (room : 0 < first.limit)
    (going : ¬ b.IsOver) :
    ∃ event, event.isCancel = false ∧ (b.after? event).isSome = true := by
  by_cases busy : ∃ s ∈ b.stages, s.isBusy = true
  · rcases busy with ⟨s, member, busy⟩
    rcases List.mem_iff_getElem?.mp member with ⟨worker, found⟩
    cases s with
    | launched =>
        refine ⟨.look worker, rfl, ?_⟩
        simp only [after?, if_pos found]
        split <;> rfl
    | working =>
        refine ⟨.store worker, rfl, ?_⟩
        have inside := (List.getElem?_eq_some_iff.mp found).1
        rw [follows.stages_length] at inside
        simp [after?, found, inside]
    | waiting | stored | refused => cases busy
  · have idle : b.busy = 0 := by
      refine List.countP_eq_zero.mpr fun s member isBusy => busy ⟨s, member, isBusy⟩
    have waits : .waiting ∈ b.stages := by
      by_contra none
      refine going fun s member => ?_
      cases s with
      | waiting => exact absurd member none
      | launched | working => exact absurd ⟨_, member, rfl⟩ busy
      | stored | refused => rfl
    rcases Option.isSome_iff_exists.mp (List.isSome_idxOf?.mpr waits) with ⟨worker, found⟩
    refine ⟨.launch, rfl, ?_⟩
    have room : b.busy < b.limit := by
      rw [idle, follows.limit_eq]
      exact room
    simp only [after?, found, if_pos room]
    rfl

theorem Follows.exists_over (follows : first.Follows events b) (room : 0 < first.limit) :
    ∃ more last, b.afterAll? more = some last ∧ last.IsOver := by
  induction left : 3 * first.items.length - b.progress using Nat.strongRecOn
    generalizing events b with
  | ind left ih =>
      by_cases finished : b.IsOver
      · exact ⟨[], b, rfl, finished⟩
      · rcases follows.goes_on room finished with ⟨event, inner, possible⟩
        rcases Option.isSome_iff_exists.mp possible with ⟨middle, next⟩
        have follows' := follows.step (.of_after? next)
        have further : middle.progress = b.progress + 1 := by
          rw [follows'.progress_eq, follows.progress_eq, List.countP_append,
            List.countP_singleton, inner]
          rfl
        have most := follows'.progress_le
        rcases ih _ (by omega) follows' rfl with ⟨more, last, ran, finished⟩
        refine ⟨event :: more, last, ?_, finished⟩
        unfold afterAll?
        rw [List.foldlM_cons, next]
        exact ran

/-! ## The outcome -/

theorem Follows.outcome_error (follows : first.Follows events b)
    (saw : SawCancelled first.cancelled events) : b.outcome = .error ⟨⟩ := by
  unfold outcome
  rw [if_pos (List.contains_iff_mem.mpr (follows.refused_iff.mpr saw))]

theorem Follows.outcome_ok (follows : first.Follows events b) (finished : b.IsOver)
    (saw : ¬ SawCancelled first.cancelled events) :
    b.outcome = .ok (first.items.map fun item => some (first.work item)) := by
  have noRefusal : Stage.refused ∉ b.stages := mt follows.refused_iff.mp saw
  have results : b.results = b.items.map fun item => some (b.work item) := by
    refine List.ext_getElem? fun worker => ?_
    rw [List.getElem?_map]
    cases here : b.items[worker]? with
    | none =>
        rw [List.getElem?_eq_none_iff, ← follows.results_length] at here
        exact List.getElem?_eq_none_iff.mpr here
    | some item =>
        have inside := (List.getElem?_eq_some_iff.mp here).1
        rw [← follows.stages_length] at inside
        have stored : b.stages[worker]? = some .stored := by
          rw [List.getElem?_eq_getElem inside]
          have ended := finished _ (List.getElem_mem inside)
          have other : b.stages[worker] ≠ .refused := by
            intro refused
            exact noRefusal (refused ▸ List.getElem_mem inside)
          simp only [Stage.isOver, Bool.or_eq_true, decide_eq_true_eq] at ended
          rw [ended.resolve_right other]
        rw [follows.results_eq worker item here, if_pos stored]
        rfl
  unfold outcome
  rw [if_neg (mt List.contains_iff_mem.mp noRefusal), results, follows.items_eq, follows.work_eq]

end Batch
end ParseForest
