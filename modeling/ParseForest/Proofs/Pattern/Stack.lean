import ParseForest.Pattern.Stack
import Mathlib.Data.List.Basic

namespace ParseForest
namespace Pattern
namespace Stack

/-!
# What is on a stack

Of a stack only the numbers on it matter, and that there is enough room.  The facts
below are about these numbers, the topmost first, and leave the places open.
-/

/-- The stack holds these numbers, the topmost first, and it has at least so many
places. -/
structure Holds (s : Stack) (room : Nat) (numbers : List Int) : Prop where
  room_le : room ≤ s.places.size
  length_le : numbers.length ≤ s.places.size
  top_eq : s.top = Int.ofNat (s.places.size - numbers.length)
  drop_eq : s.places.toList.drop (s.places.size - numbers.length) = numbers

variable {s : Stack} {room : Nat} {numbers below : List Int} {n : Int}

theorem Holds.getElem? (holds : s.Holds room numbers) (i : Nat) :
    s.places[s.places.size - numbers.length + i]? = numbers[i]? := by
  conv_rhs => rw [← holds.drop_eq]
  rw [List.getElem?_drop, Array.getElem?_toList]

theorem holds_moveTo (room_le : room ≤ s.places.size) : (s.moveTo 0).Holds room [] where
  room_le := room_le
  length_le := Nat.zero_le _
  top_eq := by
    change Int.ofNat s.places.size - 0 = Int.ofNat s.places.size
    exact Int.sub_zero _
  drop_eq := List.drop_eq_nil_of_le (by simp [moveTo])

theorem Holds.push (holds : s.Holds room numbers) (free : numbers.length < room) (n : Int) :
    ∃ s', s.push n = .ok s' ∧ s'.Holds room (n :: numbers) := by
  have room_le := holds.room_le
  have place : s.top - 1 = Int.ofNat (s.places.size - (numbers.length + 1)) := by
    rw [holds.top_eq]
    simp only [Int.ofNat_eq_natCast]
    omega
  have inside : s.places.size - (numbers.length + 1) < s.places.size := by omega
  refine ⟨⟨s.places.setIfInBounds (s.places.size - (numbers.length + 1)) n, s.top - 1⟩, ?_, ?_⟩
  · unfold Stack.push
    simp only [place]
    rw [if_pos (by simpa using inside)]
    rfl
  · exact {
      room_le := by
        rw [Array.size_setIfInBounds]
        exact room_le
      length_le := by
        rw [Array.size_setIfInBounds, List.length_cons]
        omega
      top_eq := by
        rw [place, Array.size_setIfInBounds, List.length_cons]
      drop_eq := by
        have next : s.places.size - (numbers.length + 1) + 1 = s.places.size - numbers.length := by
          omega
        rw [Array.size_setIfInBounds, List.length_cons, Array.toList_setIfInBounds,
          List.drop_eq_getElem_cons (by simpa using inside), List.getElem_set_self,
          List.drop_set_of_lt (Nat.lt_succ_self _), Nat.succ_eq_add_one, next, holds.drop_eq] }

theorem Holds.drop (holds : s.Holds room (numbers ++ below)) :
    (s.drop (Int.ofNat numbers.length)).Holds room below where
  room_le := holds.room_le
  length_le := by
    have length_le := holds.length_le
    rw [List.length_append] at length_le
    exact Nat.le_trans (Nat.le_add_left ..) length_le
  top_eq := by
    have length_le := holds.length_le
    rw [List.length_append] at length_le
    change s.top + _ = _
    rw [holds.top_eq, List.length_append]
    simp only [Stack.drop, Int.ofNat_eq_natCast]
    omega
  drop_eq := by
    have length_le := holds.length_le
    have numbers_eq := congrArg (List.drop numbers.length) holds.drop_eq
    rw [List.length_append] at length_le numbers_eq
    rw [List.drop_drop, List.drop_left] at numbers_eq
    have place : s.places.size - (numbers.length + below.length) + numbers.length =
        s.places.size - below.length := by omega
    rw [place] at numbers_eq
    exact numbers_eq

theorem Holds.pop (holds : s.Holds room (n :: numbers)) :
    ∃ s', s.pop = .ok (n, s') ∧ s'.Holds room numbers := by
  have length_le := holds.length_le
  have first := holds.getElem? 0
  rw [List.length_cons] at length_le first
  refine ⟨s.drop 1, ?_, (show s.Holds room ([n] ++ numbers) from holds).drop⟩
  have top := holds.top_eq
  rw [List.length_cons] at top
  have inside : 0 ≤ s.top ∧ s.top < Int.ofNat s.places.size := by
    rw [top]
    simp only [Int.ofNat_eq_natCast]
    omega
  have number : s.places[s.top.toNat]? = some n := by
    rw [top]
    exact first
  unfold Stack.pop
  rw [if_pos (by simpa using inside), Array.getD_eq_getD_getElem?, number]
  rfl

/-- The numbers that have just been taken can still be looked at, the one taken last
first. -/
theorem Holds.peek (holds : s.Holds room (numbers ++ below)) {index : Nat}
    (found : numbers.reverse[index]? = some n) :
    (s.drop (Int.ofNat numbers.length)).peek (Int.ofNat index) = .ok n := by
  have length_le := holds.length_le
  have before := (List.getElem?_eq_some_iff.mp found).1
  rw [List.length_append] at length_le
  rw [List.length_reverse] at before
  rw [List.getElem?_reverse before] at found
  have place : (s.drop (Int.ofNat numbers.length)).top - 1 - Int.ofNat index =
      Int.ofNat (s.places.size - (numbers ++ below).length + (numbers.length - 1 - index)) := by
    change s.top + Int.ofNat numbers.length - 1 - Int.ofNat index = _
    rw [holds.top_eq, List.length_append]
    simp only [Int.ofNat_eq_natCast]
    omega
  have inside : s.places.size - (numbers ++ below).length + (numbers.length - 1 - index) <
      s.places.size := by
    rw [List.length_append]
    omega
  have number := holds.getElem? (numbers.length - 1 - index)
  rw [List.getElem?_append_left (by omega), found] at number
  unfold Stack.peek
  simp only [place]
  split
  case isFalse outside =>
    exact absurd (Bool.and_eq_true_iff.mpr ⟨decide_eq_true (Int.natCast_nonneg _),
      decide_eq_true (Int.ofNat_lt.mpr inside)⟩) outside
  case isTrue =>
    rw [Array.getD_eq_getD_getElem?]
    change Except.ok (s.places[s.places.size - (numbers ++ below).length +
      (numbers.length - 1 - index)]?.getD 0) = _
    rw [number]
    rfl

theorem Holds.reserve (holds : s.Holds room numbers) (needed : Int) :
    (s.reserve needed).Holds room numbers := by
  have length_le := holds.length_le
  unfold Stack.reserve
  split
  case isFalse => exact holds
  case isTrue =>
    have size : s.double.places.size = s.places.size + s.places.size := by simp [double]
    exact {
      room_le := by
        rw [size]
        exact Nat.le_add_right_of_le holds.room_le
      length_le := by
        rw [size]
        exact Nat.le_add_right_of_le length_le
      top_eq := by
        rw [size]
        change s.top + _ = _
        rw [holds.top_eq]
        simp only [Int.ofNat_eq_natCast]
        omega
      drop_eq := by
        have place : s.places.size + s.places.size - numbers.length =
            s.places.size + (s.places.size - numbers.length) := by omega
        rw [size, place]
        simp only [double, Array.toList_append, Array.toList_replicate]
        rw [List.drop_append, List.length_replicate, List.drop_of_length_le (by simp),
          Nat.add_sub_cancel_left, List.nil_append]
        exact holds.drop_eq }

end Stack
end Pattern
end ParseForest
