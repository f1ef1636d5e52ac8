import ParseForest.Pattern.Machine
import ParseForest.Proofs.Pattern.Stack

namespace ParseForest
namespace Pattern
namespace Machine

/-!
# Runs that finish

A run of the machine that neither halts nor goes on for ever is described from its end.
A view of the machine finishes with a condition if every state that looks like it
stops, and in a state that meets the condition.  There is one rule for each way to do an
instruction, and it says what has to finish afterwards.

Instructions that can fail are a matter of two views, the one in which the machine goes
on and the one in which it goes back to the latest record.  What the records come to is
the same for all positions in the text, so the rules for whole stretches of a program
take it for granted that going back finishes.
-/

/-- What a state looks like: the stacks are the numbers on them. -/
structure View where
  place : Int := 0
  phase : Phase := .forward
  pos : Int
  track : List Int := []
  marks : List Int := []
  crawl : List Int := []
  groups : Array Captures

/-- The state looks like this, and every stack has so many places. -/
structure State.Shows (s : State) (room : Nat) (v : View) : Prop where
  place_eq : s.place = v.place
  phase_eq : s.phase = v.phase
  pos_eq : s.pos = v.pos
  track : s.track.Holds room v.track
  marks : s.marks.Holds room v.marks
  crawl : s.crawl.Holds room v.crawl
  groups_eq : s.groups = v.groups

namespace Task

variable {t : Task} {s : State} {room : Nat} {v : View} {n : Int} {numbers track marks : List Int}

/-! ## Changes of states -/

theorem shows_reserve (shows : s.Shows room v) : (t.reserve s).Shows room v :=
  { shows with
    track := shows.track.reserve _
    marks := shows.marks.reserve _ }

theorem shows_advance (shows : s.Shows room v) (arguments : Int) :
    (advance s arguments).Shows room
      { v with place := v.place + 1 + arguments, phase := .forward } :=
  { shows with
    place_eq := congrArg (· + 1 + arguments) shows.place_eq
    phase_eq := rfl }

theorem shows_move (shows : s.Shows room v) (pos : Int) :
    { s with pos := pos }.Shows room { v with pos := pos } :=
  { shows with pos_eq := rfl }

theorem shows_goTo (shows : s.Shows room v) (place : Int) :
    (t.goTo s place).Shows room { v with place := place, phase := .forward } := by
  unfold goTo
  split
  case isTrue => exact { shows_reserve (t := t) shows with place_eq := rfl, phase_eq := rfl }
  case isFalse => exact { shows with place_eq := rfl, phase_eq := rfl }

theorem shows_note (shows : s.Shows room v) (free : v.track.length < room) (n : Int) :
    ∃ s', note s n = .ok s' ∧ s'.Shows room { v with track := n :: v.track } := by
  rcases shows.track.push free n with ⟨pushed, run, holds⟩
  refine ⟨{ s with track := pushed }, ?_, { shows with track := holds }⟩
  unfold note
  rw [run]
  rfl

theorem shows_mark (shows : s.Shows room v) (free : v.marks.length < room) (n : Int) :
    ∃ s', mark s n = .ok s' ∧ s'.Shows room { v with marks := n :: v.marks } := by
  rcases shows.marks.push free n with ⟨pushed, run, holds⟩
  refine ⟨{ s with marks := pushed }, ?_, { shows with marks := holds }⟩
  unfold mark
  rw [run]
  rfl

theorem shows_backtrack (shows : s.Shows room { v with track := n :: track })
    (nonneg : 0 ≤ n) :
    ∃ s', t.backtrack s = .ok s' ∧
      s'.Shows room { v with place := n, phase := .back, track := track } := by
  rcases shows.track.pop with ⟨popped, run, holds⟩
  have shows' : { s with track := popped }.Shows room { v with track := track } :=
    { shows with track := holds }
  unfold backtrack
  rw [run]
  simp only [bind, Except.bind, pure, Except.pure, if_neg (Int.not_lt.mpr nonneg)]
  refine ⟨_, rfl, ?_⟩
  split
  case isTrue => exact { shows_reserve (t := t) shows' with place_eq := rfl, phase_eq := rfl }
  case isFalse => exact { shows' with place_eq := rfl, phase_eq := rfl }

/-- A choice between characters is three numbers: how many others there are, where to try
the next one, and the record. -/
theorem shows_choice (shows : s.Shows room v) (free : v.track.length + 3 ≤ room)
    (others pos : Int) :
    ∃ s₁ s₂ s₃, note s others = .ok s₁ ∧ s₁.pos = s.pos ∧ note s₁ pos = .ok s₂ ∧
      record s₂ = .ok s₃ ∧
      s₃.Shows room { v with track := v.place :: pos :: others :: v.track } := by
  rcases shows_note shows (by omega) others with ⟨s₁, run₁, shows₁⟩
  rcases shows_note shows₁ (by simp; omega) pos with ⟨s₂, run₂, shows₂⟩
  rcases shows_note shows₂ (by simp; omega) s₂.place with ⟨s₃, run₃, shows₃⟩
  refine ⟨s₁, s₂, s₃, run₁, shows₁.pos_eq.trans shows.pos_eq.symm, run₂, run₃, ?_⟩
  rw [shows₂.place_eq] at shows₃
  exact shows₃

theorem shows_unwind (shows : s.Shows room v) (taken : v.track = numbers ++ track) :
    (unwind s (Int.ofNat numbers.length)).Shows room { v with track := track } ∧
      ∀ (index : Nat) n, numbers.reverse[index]? = some n →
        (unwind s (Int.ofNat numbers.length)).track.peek (Int.ofNat index) = .ok n := by
  have holds := shows.track
  rw [taken] at holds
  exact ⟨{ shows with track := holds.drop }, fun _ _ => holds.peek⟩

theorem shows_unmark (shows : s.Shows room v) (taken : v.marks = numbers ++ marks) :
    (unmark s (Int.ofNat numbers.length)).Shows room { v with marks := marks } ∧
      ∀ (index : Nat) n, numbers.reverse[index]? = some n →
        (unmark s (Int.ofNat numbers.length)).marks.peek (Int.ofNat index) = .ok n := by
  have holds := shows.marks
  rw [taken] at holds
  exact ⟨{ shows with marks := holds.drop }, fun _ _ => holds.peek⟩

/-! ## Instructions -/

/-- What the program has at a place. -/
def Has (t : Task) (place : Int) (op : Op) (arguments : List Int) : Prop :=
  (∃ cell, t.cellAt place = .ok cell ∧ cell.instruction? = some (op, {})) ∧
    ∀ (index : Nat) n, arguments[index]? = some n →
      (t.cellAt (place + 1 + Int.ofNat index)).map Cell.number = .ok n

/-- Every state that looks like this stops, and then it meets the condition. -/
def Finishes (t : Task) (room : Nat) (v : View) (post : View → Prop) : Prop :=
  ∀ s : State, s.Shows room v → ∃ s' v', s'.Shows room v' ∧ post v' ∧
    t.execute s = some (.ok s')

/-- Going back to the latest record finishes, wherever in the text the machine is. -/
def Fails (t : Task) (room : Nat) (v : View) (post : View → Prop) : Prop :=
  ∃ record track, v.track = record :: track ∧ 0 ≤ record ∧ ∀ pos,
    t.Finishes room
      { v with place := record, phase := .back, pos := pos, track := track } post

variable {op : Op} {arguments : List Int} {post : View → Prop}

theorem Has.argument_eq {place : Int} (has : t.Has place op arguments) (here : s.place = place)
    (index : Nat) (found : arguments[index]? = some n) :
    t.argument s (Int.ofNat index) = .ok n := by
  unfold Task.argument
  rw [here]
  exact has.2 index n found

theorem cellAt_natCast {place : Nat} {cell : Cell}
    (found : t.program.cells.toList[place]? = some cell) :
    t.cellAt (Int.ofNat place) = .ok cell := by
  have nonneg : ¬ Int.ofNat place < 0 := Int.not_lt.mpr (Int.natCast_nonneg place)
  rw [Array.getElem?_toList] at found
  have index : (Int.ofNat place).toNat = place := rfl
  unfold cellAt
  rw [if_neg nonneg, index, found]

theorem has_of_cells {place : Nat}
    (found : (t.program.cells.toList.drop place).head?.map Cell.instruction? = some (some (op, {})))
    (given : ((t.program.cells.toList.drop (place + 1)).take arguments.length).map Cell.number =
      arguments) : t.Has (Int.ofNat place) op arguments := by
  rw [List.head?_drop, Option.map_eq_some_iff] at found
  rcases found with ⟨cell, found, instruction⟩
  refine ⟨⟨cell, cellAt_natCast found, instruction⟩, fun index n argument => ?_⟩
  rw [← given, List.getElem?_map, Option.map_eq_some_iff] at argument
  rcases argument with ⟨cell, found, rfl⟩
  rw [List.getElem?_take] at found
  split at found
  case isTrue =>
    rw [List.getElem?_drop] at found
    have here : Int.ofNat place + 1 + Int.ofNat index = Int.ofNat (place + 1 + index) := rfl
    rw [here, cellAt_natCast found]
    rfl
  case isFalse => cases found

theorem finishes_stop (has : t.Has v.place .stop []) (forward : v.phase = .forward)
    (holds : post v) : t.Finishes room v post := by
  intro s shows
  refine ⟨s, v, shows, holds, ?_⟩
  rcases has.1 with ⟨cell, found, instruction⟩
  rw [execute, shows.place_eq, found]
  simp only [instruction, shows.phase_eq, forward]
  rfl

/-- A view finishes if what an instruction makes of it does. -/
theorem finishes_of_step (has : t.Has v.place op arguments)
    (more : v.phase ≠ .forward ∨ op ≠ .stop)
    (step : ∀ s, s.Shows room v → ∃ s' v', t.step op {} s = .ok s' ∧ s'.Shows room v' ∧
      t.Finishes room v' post) : t.Finishes room v post := by
  intro s shows
  rcases step s shows with ⟨s', v', run, shows', finishes⟩
  rcases finishes s' shows' with ⟨s'', v'', shows'', holds, runs⟩
  refine ⟨s'', v'', shows'', holds, ?_⟩
  rcases has.1 with ⟨cell, found, instruction⟩
  have goes : (s.phase = .forward && op = .stop : Bool) = false := by
    rw [shows.phase_eq, Bool.and_eq_false_iff, decide_eq_false_iff_not, decide_eq_false_iff_not]
    exact more
  rw [execute, shows.place_eq, found]
  simp only [instruction, goes, run]
  exact runs

theorem Fails.move (fails : t.Fails room v post) (pos : Int) :
    t.Fails room { v with pos := pos } post :=
  fails

/-- Going back is a step like another. -/
theorem Fails.backtrack (fails : t.Fails room v post) (shows : s.Shows room v) :
    ∃ s' v', t.backtrack s = .ok s' ∧ s'.Shows room v' ∧ t.Finishes room v' post := by
  rcases fails with ⟨record, track, here, nonneg, finishes⟩
  have shows' : s.Shows room { v with track := record :: track } := by
    rw [← here]
    exact shows
  rcases shows_backtrack (t := t) shows' nonneg with ⟨s', run, shows''⟩
  exact ⟨s', _, run, shows'', finishes v.pos⟩

theorem step_forward {mode : Mode} (going : s.phase = .forward) :
    t.step op mode s = t.forward op mode s := by
  unfold Task.step
  rw [going]

theorem step_back {mode : Mode} (going : s.phase = .back) :
    t.step op mode s = t.back op mode s := by
  unfold Task.step
  rw [going]

/-! ## Forks and marks -/

theorem finishes_fork {target : Int} (has : t.Has v.place .fork [target])
    (forward : v.phase = .forward) (free : v.track.length + 1 < room)
    (next : t.Finishes room
      { v with place := v.place + 2, track := v.place :: v.pos :: v.track } post) :
    t.Finishes room v post := by
  refine finishes_of_step has (Or.inr (by simp)) fun s shows => ?_
  rcases shows_note shows (Nat.lt_of_succ_lt free) s.pos with ⟨s₁, run₁, shows₁⟩
  rcases shows_note shows₁ free s₁.place with ⟨s₂, run₂, shows₂⟩
  refine ⟨advance s₂ 1, _, ?_, shows_advance shows₂ 1, ?_⟩
  · have going := shows.phase_eq.trans forward
    simp only [Task.step, going, Task.forward, record]
    rw [run₁]
    change (note s₁ s₁.place >>= _) = _
    rw [run₂]
    rfl
  · rw [shows₁.place_eq, shows.pos_eq]
    have place : v.place + 1 + 1 = v.place + 2 := Int.add_assoc ..
    simp only [place, ← forward]
    exact next

theorem finishes_back_fork {target pos : Int} (has : t.Has v.place .fork [target])
    (back : v.phase = .back) (top : v.track = pos :: track)
    (next : t.Finishes room
      { v with place := target, phase := .forward, pos := pos, track := track } post) :
    t.Finishes room v post := by
  refine finishes_of_step has (Or.inr (by simp)) fun s shows => ?_
  rcases shows_unwind shows (show v.track = [pos] ++ track from top) with ⟨shows', peeks⟩
  have pos_eq : (unwind s 1).track.peek 0 = .ok pos := peeks 0 pos rfl
  have target_eq : t.argument (unwind s 1) 0 = .ok target :=
    has.argument_eq shows.place_eq 0 rfl
  refine ⟨t.goTo { unwind s 1 with pos := pos } target, _, ?_,
    shows_goTo (shows_move shows' pos) target, next⟩
  have going := shows.phase_eq.trans back
  simp only [Task.step, going, Task.back, bind, Except.bind, pos_eq, target_eq]
  rfl

theorem finishes_mark (has : t.Has v.place .markHere []) (forward : v.phase = .forward)
    (freeTrack : v.track.length < room) (freeMarks : v.marks.length < room)
    (next : t.Finishes room
      { v with place := v.place + 1, track := v.place :: v.track, marks := v.pos :: v.marks }
      post) : t.Finishes room v post := by
  refine finishes_of_step has (Or.inr (by simp)) fun s shows => ?_
  rcases shows_mark shows freeMarks s.pos with ⟨s₁, run₁, shows₁⟩
  rcases shows_note shows₁ freeTrack s₁.place with ⟨s₂, run₂, shows₂⟩
  refine ⟨advance s₂ 0, _, ?_, shows_advance shows₂ 0, ?_⟩
  · have going := shows.phase_eq.trans forward
    simp only [Task.step, going, Task.forward, bind, Except.bind, record, run₁, run₂]
    rfl
  · rw [shows₁.place_eq, shows.pos_eq]
    simp only [Int.add_zero, ← forward]
    exact next

theorem finishes_back_mark {mark : Int} (has : t.Has v.place .markHere []) (back : v.phase = .back)
    (top : v.marks = mark :: marks) (fails : t.Fails room { v with marks := marks } post) :
    t.Finishes room v post := by
  refine finishes_of_step has (Or.inr (by simp)) fun s shows => ?_
  rcases shows_unmark shows (show v.marks = [mark] ++ marks from top) with ⟨shows', _⟩
  have going := shows.phase_eq.trans back
  simp only [Task.step, going, Task.back]
  exact fails.backtrack shows'

/-! ## Remembering matches -/

theorem shows_remember {group : Nat} {c : Captures} (shows : s.Shows room v)
    (free : v.crawl.length < room) (known : v.groups[group]? = some c) (first last : Int) :
    ∃ s', remember s (Int.ofNat group) first last = .ok s' ∧ s'.Shows room { v with
      crawl := Int.ofNat group :: v.crawl
      groups := v.groups.setIfInBounds group
        (c.add (min first last) (max first last - min first last)) } := by
  rcases (shows.crawl.reserve 1).push free (Int.ofNat group) with ⟨pushed, run, holds⟩
  have found : captures s (Int.ofNat group) = .ok c := by
    have nonneg : ¬ Int.ofNat group < 0 := Int.not_lt.mpr (Int.natCast_nonneg group)
    have index : (Int.ofNat group).toNat = group := rfl
    unfold captures
    rw [if_neg nonneg, shows.groups_eq, index, known]
  refine ⟨{ s with
    crawl := pushed
    groups := s.groups.setIfInBounds group
      (c.add (min first last) (max first last - min first last)) }, ?_, { shows with
    crawl := holds
    groups_eq := by rw [shows.groups_eq] }⟩
  unfold remember noteGroup
  rw [run, found]
  rfl

theorem finishes_capture {group : Nat} {start : Int} {c : Captures}
    (has : t.Has v.place .capture [Int.ofNat group, -1]) (forward : v.phase = .forward)
    (top : v.marks = start :: marks) (known : v.groups[group]? = some c)
    (freeTrack : v.track.length + 2 ≤ room) (freeCrawl : v.crawl.length < room)
    (next : t.Finishes room { v with
      place := v.place + 3
      track := v.place :: start :: v.track
      marks := marks
      crawl := Int.ofNat group :: v.crawl
      groups := v.groups.setIfInBounds group
        (c.add (min start v.pos) (max start v.pos - min start v.pos)) } post) :
    t.Finishes room v post := by
  refine finishes_of_step has (Or.inr (by simp)) fun s shows => ?_
  have group_eq : t.argument s 0 = .ok (Int.ofNat group) := has.argument_eq shows.place_eq 0 rfl
  have balanced_eq : t.argument s 1 = .ok (-1) := has.argument_eq shows.place_eq 1 rfl
  rcases shows_unmark shows (show v.marks = [start] ++ marks from top) with ⟨shows₁, peeks⟩
  change (unmark s 1).Shows room _ at shows₁
  have start_eq : (unmark s 1).marks.peek 0 = .ok start := peeks 0 _ rfl
  rcases shows_remember shows₁ freeCrawl known start v.pos with ⟨s₂, run₂, shows₂⟩
  rcases shows_note shows₂ (Nat.lt_of_succ_lt freeTrack) start with ⟨s₃, run₃, shows₃⟩
  rcases shows_note shows₃ freeTrack s₃.place with ⟨s₄, run₄, shows₄⟩
  refine ⟨advance s₄ 2, _, ?_, shows_advance shows₄ 2, ?_⟩
  · rw [← shows₁.pos_eq] at run₂
    rw [step_forward (shows.phase_eq.trans forward)]
    simp only [Task.forward, bind, Except.bind, group_eq, balanced_eq, if_true, Bool.not_true,
      Bool.false_eq_true, if_false, start_eq, run₂, run₃, record, run₄]
    rfl
  · have place : v.place + 1 + 2 = v.place + 3 := Int.add_assoc ..
    rw [shows₃.place_eq]
    simp only [place, ← forward]
    exact next

end Task
end Machine
end Pattern
end ParseForest
