import ParseForest.Proofs.Pattern.Machine

namespace ParseForest
namespace Pattern

theorem CharSet.holds_ranges (ranges : Text.CodeRanges) (code : Nat) :
    holds ⟨{ ranges := ranges }, []⟩ code = ranges.holds code := by
  simp [holds, layersHold, Members.holds, Members.classesHold]

namespace Machine
namespace Task

/-!
# Taking characters

What a stretch of a program takes is a relation between a position and those where what it
takes from there can end.  The machine tries one way after the other, and goes back to what
was before the stretch only if there is no way, so a stretch finishes if the machine
finishes behind it, wherever that can be, and on the way back if it can be nowhere.
-/

variable {t : Task} {s : State} {room : Nat} {v : View} {track : List Int}
  {post : View → Prop} {c : Comparison} {argument : Int} {limit pos : Nat}

/-- A comparison with an argument comes out one way or the other. -/
def Compares (t : Task) (c : Comparison) (argument : Int) : Prop :=
  ∀ code, ∃ fits, t.holds c argument code = .ok fits

/-- The character at a position fits. -/
def Fits (t : Task) (c : Comparison) (argument : Int) (pos : Nat) : Prop :=
  ∃ code, t.text[pos]? = some code ∧ t.holds c argument code = .ok true

/-- So many characters from a position on fit, and no more up to a limit. -/
structure Longest (t : Task) (c : Comparison) (argument : Int) (limit pos count : Nat) :
    Prop where
  le : count ≤ limit
  fits : ∀ i < count, t.Fits c argument (pos + i)
  ends : count < limit → ¬ t.Fits c argument (pos + count)

theorem Fits.lt (fits : t.Fits c argument pos) : pos < t.text.size := by
  rcases fits with ⟨code, found, _⟩
  exact (Array.getElem?_eq_some_iff.mp found).1

theorem not_fits {code : Nat} (found : t.text[pos]? = some code)
    (holds : t.holds c argument code = .ok false) : ¬ t.Fits c argument pos := by
  rintro ⟨code', found', holds'⟩
  rw [found] at found'
  cases found'
  rw [holds] at holds'
  cases holds'

/-- What does not fit into the text does not count against a number of characters. -/
theorem Longest.of_min {count : Nat} (within : pos ≤ t.text.size)
    (longest : t.Longest c argument (min limit (t.text.size - pos)) pos count) :
    t.Longest c argument limit pos count where
  le := Nat.le_trans longest.le (Nat.min_le_left ..)
  fits := longest.fits
  ends := by
    intro less fits
    have inside := fits.lt
    exact longest.ends (by omega) fits

/-- No more characters fit than the longest run has. -/
theorem Longest.le_of_fits {count count' : Nat} (longest : t.Longest c argument limit pos count)
    (le : count' ≤ limit) (fits : ∀ i < count', t.Fits c argument (pos + i)) : count' ≤ count := by
  by_contra more
  have more := Nat.not_le.mp more
  exact longest.ends (Nat.lt_of_lt_of_le more le) (fits count more)

theorem exists_take (inside : pos < t.text.size) :
    ∃ code, t.text[pos]? = some code ∧ t.take {} (Int.ofNat pos) = .ok code := by
  refine ⟨t.text[pos], Array.getElem?_eq_getElem inside, ?_⟩
  have nonneg : ¬ Int.ofNat pos < 0 := Int.not_lt.mpr (Int.natCast_nonneg pos)
  have index : (Int.ofNat pos).toNat = pos := rfl
  change (t.codeAt (Int.ofNat pos)).map _ = _
  unfold codeAt
  rw [if_neg nonneg, index, Array.getElem?_eq_getElem inside]
  rfl

theorem run_eq (compares : t.Compares c argument) (count : Nat)
    (inside : pos + limit ≤ t.text.size) :
    ∃ fitting, t.Longest c argument limit pos fitting ∧
      t.run c argument {} limit (Int.ofNat pos) count = .ok (count + fitting) := by
  induction limit generalizing pos count with
  | zero => exact ⟨0, ⟨Nat.le_refl _, nofun, nofun⟩, rfl⟩
  | succ limit ih =>
      have more : pos < t.text.size := by omega
      rcases exists_take more with ⟨code, found, taken⟩
      rcases compares code with ⟨fits, compared⟩
      simp only [run, taken, compared]
      cases fits with
      | false => exact ⟨0, ⟨Nat.zero_le _, nofun, fun _ => not_fits found compared⟩, rfl⟩
      | true =>
          have rest : pos + 1 + limit ≤ t.text.size := by omega
          rcases ih (count + 1) rest with ⟨fitting, longest, ran⟩
          refine ⟨fitting + 1, ⟨Nat.succ_le_succ longest.le, fun i less => ?_, fun less => ?_⟩, ?_⟩
          · cases i with
            | zero => exact ⟨code, found, compared⟩
            | succ i =>
                have fits := longest.fits i (Nat.lt_of_succ_lt_succ less)
                rw [Nat.add_assoc, Nat.add_comm 1 i] at fits
                exact fits
          · have ends := longest.ends (Nat.lt_of_succ_lt_succ less)
            rw [Nat.add_assoc, Nat.add_comm 1 fitting] at ends
            exact ends
          · rw [Nat.add_comm fitting 1, ← Nat.add_assoc]
            exact ran

/-! ## Instructions -/

theorem finishes_one (has : t.Has v.place (.one c) [argument]) (forward : v.phase = .forward)
    (compares : t.Compares c argument) (here : v.pos = Int.ofNat pos)
    (taken : t.Fits c argument pos →
      t.Finishes room { v with place := v.place + 2, pos := Int.ofNat (pos + 1) } post)
    (fails : ¬ t.Fits c argument pos → t.Fails room v post) :
    t.Finishes room v post := by
  refine finishes_of_step has (Or.inr (by simp)) fun s shows => ?_
  have given : t.argument s 0 = .ok argument := has.argument_eq shows.place_eq 0 rfl
  have stands : s.pos = Int.ofNat pos := shows.pos_eq.trans here
  have left_eq : t.left {} s.pos = Int.ofNat t.text.size - Int.ofNat pos := by
    rw [stands]
    rfl
  rw [step_forward (shows.phase_eq.trans forward)]
  simp only [Task.forward, takeOne, left_eq]
  by_cases inside : pos < t.text.size
  case neg =>
    rw [if_pos (by simp only [Int.ofNat_eq_natCast]; omega)]
    exact (fails fun fits => inside fits.lt).backtrack shows
  case pos =>
    rcases exists_take inside with ⟨code, found, taken_eq⟩
    rcases compares code with ⟨fits, compared⟩
    rw [← stands] at taken_eq
    rw [if_neg (by simp only [Int.ofNat_eq_natCast]; omega)]
    simp only [taken_eq, given, compared, bind, Except.bind, proceed]
    have shows' := shows_move shows (moved {} s.pos)
    cases fits with
    | false =>
        rw [if_neg (by simp)]
        exact ((fails (not_fits found compared)).move _).backtrack shows'
    | true =>
        rw [if_pos rfl]
        refine ⟨_, _, rfl, shows_advance shows' 1, ?_⟩
        have place : v.place + 1 + 1 = v.place + 2 := Int.add_assoc ..
        rw [stands]
        simp only [place, ← forward]
        exact taken ⟨code, found, compared⟩

theorem finishes_exactly {count : Nat}
    (has : t.Has v.place (.exactly c) [argument, Int.ofNat count]) (forward : v.phase = .forward)
    (compares : t.Compares c argument) (here : v.pos = Int.ofNat pos)
    (within : pos ≤ t.text.size)
    (taken : (∀ i < count, t.Fits c argument (pos + i)) →
      t.Finishes room { v with place := v.place + 3, pos := Int.ofNat (pos + count) } post)
    (fails : ¬ (∀ i < count, t.Fits c argument (pos + i)) → t.Fails room v post) :
    t.Finishes room v post := by
  refine finishes_of_step has (Or.inr (by simp)) fun s shows => ?_
  have given : t.argument s 0 = .ok argument := has.argument_eq shows.place_eq 0 rfl
  have times : t.argument s 1 = .ok (Int.ofNat count) := has.argument_eq shows.place_eq 1 rfl
  have stands : s.pos = Int.ofNat pos := shows.pos_eq.trans here
  have left_eq : t.left {} s.pos = Int.ofNat t.text.size - Int.ofNat pos := by
    rw [stands]
    rfl
  rw [step_forward (shows.phase_eq.trans forward)]
  simp only [Task.forward, takeExactly, left_eq, given, times, bind, Except.bind]
  by_cases inside : pos + count ≤ t.text.size
  case neg =>
    rw [if_pos (by simp only [Int.ofNat_eq_natCast]; omega)]
    refine (fails fun fits => ?_).backtrack shows
    have last := (fits (count - 1) (by omega)).lt
    omega
  case pos =>
    rcases run_eq compares 0 inside with ⟨fitting, longest, ran⟩
    have all : (Int.ofNat count).toNat = count := rfl
    rw [if_neg (by simp only [Int.ofNat_eq_natCast]; omega), all, stands, ran, Nat.zero_add]
    have shows' := shows_move shows (movedBy {} (Int.ofNat pos) (Int.ofNat fitting))
    by_cases complete : fitting = count
    case pos =>
      simp only [proceed, complete, decide_true, if_true]
      rw [complete] at shows' longest
      refine ⟨_, _, rfl, shows_advance shows' 2, ?_⟩
      have place : v.place + 1 + 2 = v.place + 3 := Int.add_assoc ..
      simp only [place, ← forward]
      exact taken longest.fits
    case neg =>
      simp only [proceed, complete, decide_false, Bool.false_eq_true, if_false]
      refine ((fails fun fits => ?_).move _).backtrack shows'
      exact complete (Nat.le_antisymm longest.le (longest.le_of_fits (Nat.le_refl _) fits))

theorem finishes_most (has : t.Has v.place (.most c) [argument, Int.ofNat limit])
    (forward : v.phase = .forward) (compares : t.Compares c argument)
    (here : v.pos = Int.ofNat pos) (within : pos ≤ t.text.size)
    (free : v.track.length + 3 ≤ room)
    (none : t.Longest c argument limit pos 0 →
      t.Finishes room { v with place := v.place + 3 } post)
    (some : ∀ others, t.Longest c argument limit pos (others + 1) →
      t.Finishes room { v with
        place := v.place + 3
        pos := Int.ofNat (pos + (others + 1))
        track := v.place :: Int.ofNat (pos + others) :: Int.ofNat others :: v.track } post) :
    t.Finishes room v post := by
  refine finishes_of_step has (Or.inr (by simp)) fun s shows => ?_
  have given : t.argument s 0 = .ok argument := has.argument_eq shows.place_eq 0 rfl
  have most : t.argument s 1 = .ok (Int.ofNat limit) := has.argument_eq shows.place_eq 1 rfl
  have stands : s.pos = Int.ofNat pos := shows.pos_eq.trans here
  have limit_eq : (min (Int.ofNat limit) (t.left {} s.pos)).toNat =
      min limit (t.text.size - pos) := by
    rw [stands]
    change (min (Int.ofNat limit) (Int.ofNat t.text.size - Int.ofNat pos)).toNat = _
    simp only [Int.ofNat_eq_natCast]
    omega
  have inside : pos + min limit (t.text.size - pos) ≤ t.text.size := by omega
  rcases run_eq compares 0 inside with ⟨fitting, longest, ran⟩
  have longest := longest.of_min within
  rw [Nat.zero_add] at ran
  rw [step_forward (shows.phase_eq.trans forward)]
  simp only [Task.forward, takeMost, given, most, bind, Except.bind, limit_eq]
  rw [stands, ran]
  have place : v.place + 1 + 2 = v.place + 3 := Int.add_assoc ..
  cases fitting with
  | zero =>
      have unmoved : movedBy {} (Int.ofNat pos) (Int.ofNat 0) = v.pos := here.symm
      have shows' := shows_advance (shows_move shows v.pos) 2
      refine ⟨_, _, rfl, ?_, none longest⟩
      simp only [place, ← forward, unmoved] at shows' ⊢
      exact shows'
  | succ others =>
      have shows' := shows_move shows (Int.ofNat (pos + (others + 1)))
      rcases shows_choice shows' free (Int.ofNat others) (Int.ofNat (pos + others)) with
        ⟨s₁, s₂, s₃, run₁, pos₁, run₂, run₃, shows₃⟩
      have others_eq : Int.ofNat (others + 1) - 1 = Int.ofNat others := by simp
      have back_eq : movedBack {} s₁.pos = Int.ofNat (pos + others) := by
        rw [pos₁]
        change Int.ofNat (pos + (others + 1)) - 1 = _
        simp only [Int.ofNat_eq_natCast]
        omega
      have moved_eq : movedBy {} (Int.ofNat pos) (Int.ofNat (others + 1)) =
          Int.ofNat (pos + (others + 1)) := rfl
      refine ⟨advance s₃ 2, _, ?_, shows_advance shows₃ 2, ?_⟩
      · simp only [if_pos others.succ_pos, others_eq, moved_eq, run₁, back_eq, run₂, run₃]
        rfl
      · simp only [place, ← forward]
        exact some others longest

theorem finishes_back_most {limit pos : Int} {others : Nat}
    (has : t.Has v.place (.most c) [argument, limit]) (back : v.phase = .back)
    (top : v.track = pos :: Int.ofNat others :: track) (free : track.length + 3 ≤ room)
    (none : others = 0 → t.Finishes room
      { v with place := v.place + 3, phase := .forward, pos := pos, track := track } post)
    (some : ∀ fewer, others = fewer + 1 → t.Finishes room { v with
        place := v.place + 3
        phase := .forward
        pos := pos
        track := v.place :: (pos - 1) :: Int.ofNat fewer :: track } post) :
    t.Finishes room v post := by
  refine finishes_of_step has (Or.inr (by simp)) fun s shows => ?_
  have taken : v.track = [pos, Int.ofNat others] ++ track := top
  rcases shows_unwind shows taken with ⟨shows', peeks⟩
  have others_eq : (unwind s 2).track.peek 0 = .ok (Int.ofNat others) := peeks 0 _ rfl
  have pos_eq : (unwind s 2).track.peek 1 = .ok pos := peeks 1 _ rfl
  change (unwind s 2).Shows room _ at shows'
  have shows' := shows_move shows' pos
  have place : v.place + 1 + 2 = v.place + 3 := Int.add_assoc ..
  rw [step_back (shows.phase_eq.trans back)]
  simp only [Task.back, bind, Except.bind, pos_eq, others_eq]
  cases others with
  | zero =>
      have shows' := shows_advance shows' 2
      refine ⟨_, _, rfl, ?_, none rfl⟩
      rw [← place]
      exact shows'
  | succ fewer =>
      have others_pos : 0 < Int.ofNat (fewer + 1) := Int.natCast_pos.mpr fewer.succ_pos
      have fewer_eq : Int.ofNat (fewer + 1) - 1 = Int.ofNat fewer := by simp
      have back_eq : movedBack {} pos = pos - 1 := rfl
      rcases shows_choice shows' free (Int.ofNat fewer) (pos - 1) with
        ⟨s₁, s₂, s₃, run₁, _, run₂, run₃, shows₃⟩
      refine ⟨advance s₃ 2, _, ?_, shows_advance shows₃ 2, ?_⟩
      · rw [if_pos others_pos, fewer_eq, back_eq]
        simp only [run₁, run₂, run₃]
        rfl
      · rw [place]
        exact some fewer rfl

/-! ## Stretches of a program -/

/-- Taking one character and then something else. -/
def TakesOne (t : Task) (c : Comparison) (argument : Int) (next : Nat → Nat → Prop)
    (pos stop : Nat) : Prop :=
  t.Fits c argument pos ∧ next (pos + 1) stop

/-- Taking so many characters and then something else. -/
def TakesExactly (t : Task) (c : Comparison) (argument : Int) (count : Nat)
    (next : Nat → Nat → Prop) (pos stop : Nat) : Prop :=
  (∀ i < count, t.Fits c argument (pos + i)) ∧ next (pos + count) stop

/-- Taking characters up to so many and then something else. -/
def TakesMost (t : Task) (c : Comparison) (argument : Int) (limit : Nat)
    (next : Nat → Nat → Prop) (pos stop : Nat) : Prop :=
  ∃ count ≤ limit, (∀ i < count, t.Fits c argument (pos + i)) ∧ next (pos + count) stop

/-- From a place in the program on the machine finishes wherever it is in the text, if good
things are taken from there, and if it finishes when it goes back in case nothing can be
taken.  There has to be room for what is on the track. -/
def Completes (t : Task) (room depth : Nat) (v : View) (place : Int)
    (takes : Nat → Nat → Prop) (good : Nat → Prop) (post : View → Prop) : Prop :=
  ∀ pos track, pos ≤ t.text.size → track.length ≤ depth →
    (∀ stop, takes pos stop → good stop) →
    ((∀ stop, ¬ takes pos stop) → t.Fails room { v with track := track } post) →
    t.Finishes room
      { v with place := place, phase := .forward, pos := Int.ofNat pos, track := track } post

variable {place : Int} {depth : Nat} {next : Nat → Nat → Prop} {good : Nat → Prop}

theorem completes_one (has : t.Has place (.one c) [argument]) (compares : t.Compares c argument)
    (behind : t.Completes room depth v (place + 2) next good post) :
    t.Completes room depth v place (t.TakesOne c argument next) good post := by
  intro pos track within short aims fails
  refine finishes_one
    (v := { v with place := place, phase := .forward, pos := Int.ofNat pos, track := track })
    has rfl compares rfl (fun fits => ?_) (fun unfit => ?_)
  · exact behind (pos + 1) track fits.lt short
      (fun stop taken => aims stop ⟨fits, taken⟩)
      (fun nothing => fails fun stop taken => nothing stop taken.2)
  · exact fails fun stop taken => unfit taken.1

theorem completes_exactly {count : Nat}
    (has : t.Has place (.exactly c) [argument, Int.ofNat count]) (compares : t.Compares c argument)
    (some : 0 < count) (behind : t.Completes room depth v (place + 3) next good post) :
    t.Completes room depth v place (t.TakesExactly c argument count next) good
      post := by
  intro pos track within short aims fails
  refine finishes_exactly
    (v := { v with place := place, phase := .forward, pos := Int.ofNat pos, track := track })
    has rfl compares rfl within (fun fits => ?_) (fun unfit => ?_)
  · have last := (fits (count - 1) (Nat.sub_lt some Nat.one_pos)).lt
    exact behind (pos + count) track (by omega) short
      (fun stop taken => aims stop ⟨fits, taken⟩)
      (fun nothing => fails fun stop taken => nothing stop taken.2)
  · exact fails fun stop taken => unfit taken.1

section Most

variable (has : t.Has place (.most c) [argument, Int.ofNat limit]) (nonneg : 0 ≤ place)
  (behind : t.Completes room (depth + 3) v (place + 3) next good post)
  (fits : depth + 3 ≤ room)
include has nonneg behind fits

/-- What follows after characters have been taken as often as possible is tried again
behind one of them after the other, from the last to the first. -/
theorem finishes_others {base : Nat} (others : Nat) (short : track.length ≤ depth)
    (inside : base + others ≤ t.text.size)
    (aims : ∀ count ≤ others, ∀ stop, next (base + count) stop → good stop)
    (fails : (∀ count ≤ others, ∀ stop, ¬ next (base + count) stop) →
      t.Fails room { v with track := track } post) (pos : Int) :
    t.Finishes room { v with
      place := place
      phase := .back
      pos := pos
      track := Int.ofNat (base + others) :: Int.ofNat others :: track } post := by
  induction others generalizing pos with
  | zero =>
      have here := behind base track inside (by omega) (aims 0 (Nat.le_refl 0))
        (fun nothing => fails fun count le => by
          rw [Nat.le_zero.mp le]
          exact nothing)
      exact finishes_back_most (v := { v with
          place := place, phase := .back, pos := pos
          track := Int.ofNat base :: Int.ofNat 0 :: track })
        has rfl rfl (by omega) (fun _ => here) (fun _ more => by cases more)
  | succ others ih =>
      have here := behind (base + (others + 1))
        (place :: Int.ofNat (base + others) :: Int.ofNat others :: track) inside
        (by simpa using short) (aims (others + 1) (Nat.le_refl _)) (fun nothing => by
          refine ⟨place, _, rfl, nonneg, ih (by omega) (fun count le => aims count (by omega)) ?_⟩
          refine fun fewer => fails fun count le => ?_
          rcases Nat.le_succ_iff.mp le with less | same
          · exact fewer count less
          · rw [same]
            exact nothing)
      refine finishes_back_most (v := { v with
          place := place, phase := .back, pos := pos
          track := Int.ofNat (base + (others + 1)) :: Int.ofNat (others + 1) :: track })
        has rfl rfl (by omega) (fun none => by cases none) (fun fewer more => ?_)
      cases more
      have before : Int.ofNat (base + (others + 1)) - 1 = Int.ofNat (base + others) := by
        simp only [Int.ofNat_eq_natCast]
        omega
      rw [before]
      exact here

theorem completes_most (compares : t.Compares c argument) :
    t.Completes room depth v place (t.TakesMost c argument limit next) good post := by
  intro pos track within short aims fails
  refine finishes_most
    (v := { v with place := place, phase := .forward, pos := Int.ofNat pos, track := track })
    has rfl compares rfl within (by simp; omega) (fun longest => ?_) (fun others longest => ?_)
  · exact behind pos track within (by omega)
      (fun stop taken => aims stop ⟨0, Nat.zero_le _, longest.fits, taken⟩)
      (fun nothing => fails fun stop taken => by
        rcases taken with ⟨count, le, fitting, taken⟩
        rw [Nat.le_zero.mp (longest.le_of_fits le fitting)] at taken
        exact nothing stop taken)
  · have last := (longest.fits others (Nat.lt_succ_self others)).lt
    have allowed := longest.le
    have good_of_takes {count : Nat} (le : count ≤ others + 1) (stop : Nat)
        (taken : next (pos + count) stop) : good stop :=
      aims stop ⟨count, Nat.le_trans le allowed,
        fun i less => longest.fits i (Nat.lt_of_lt_of_le less le), taken⟩
    exact behind (pos + (others + 1))
      (place :: Int.ofNat (pos + others) :: Int.ofNat others :: track) last (by simpa using short)
      (good_of_takes (Nat.le_refl _)) (fun nothing => by
        refine ⟨place, _, rfl, nonneg, finishes_others has nonneg behind fits others short
          (Nat.le_of_lt last) (fun count le => good_of_takes (Nat.le_succ_of_le le)) ?_⟩
        refine fun fewer => fails fun stop taken => ?_
        rcases taken with ⟨count, le, fitting, taken⟩
        rcases Nat.le_succ_iff.mp (longest.le_of_fits le fitting) with less | same
        · exact fewer count less stop taken
        · rw [same] at taken
          exact nothing stop taken)

end Most

/-! ## Characters -/

section Characters

variable {p : Program} {cs : List Char} {start : Int}

theorem fits_iff : Fits ⟨p, (cs.map Char.toNat).toArray, start⟩ c argument pos ↔
    ∃ x, cs[pos]? = some x ∧
      holds ⟨p, (cs.map Char.toNat).toArray, start⟩ c argument x.toNat = .ok true := by
  unfold Fits
  simp only [List.getElem?_toArray, List.getElem?_map, Option.map_eq_some_iff]
  constructor
  · rintro ⟨_, ⟨x, found, rfl⟩, holds⟩
    exact ⟨x, found, holds⟩
  · rintro ⟨x, found, holds⟩
    exact ⟨_, ⟨x, found, rfl⟩, holds⟩

theorem fits_is_iff (x : Char) :
    Fits ⟨p, (cs.map Char.toNat).toArray, start⟩ .is (Int.ofNat x.toNat) pos ↔
      cs[pos]? = some x := by
  rw [fits_iff]
  constructor
  · rintro ⟨y, found, holds⟩
    have same : (Int.ofNat y.toNat = Int.ofNat x.toNat) := by simpa [Task.holds] using holds
    rw [found, Char.toNat_inj.mp (Int.ofNat.inj same)]
  · intro found
    exact ⟨x, found, by simp [Task.holds]⟩

theorem fits_among_iff {index : Nat} {ranges : Text.CodeRanges}
    (set : p.sets[index]? = some ⟨{ ranges := ranges }, []⟩) :
    Fits ⟨p, (cs.map Char.toNat).toArray, start⟩ .among (Int.ofNat index) pos ↔
      ∃ x, cs[pos]? = some x ∧ ranges.holds x.toNat = true := by
  have nonneg : ¬ Int.ofNat index < 0 := Int.not_lt.mpr (Int.natCast_nonneg index)
  have place : (Int.ofNat index).toNat = index := rfl
  rw [fits_iff]
  simp only [Task.holds, if_neg nonneg, place, set, CharSet.holds_ranges, Except.ok.injEq]

end Characters

end Task
end Machine
end Pattern
end ParseForest
