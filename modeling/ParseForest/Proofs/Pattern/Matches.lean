import ParseForest.Pattern.Search

namespace ParseForest
namespace Pattern
namespace Match

/-!
# Matches one after the other

Splitting needs no more of the matches in a text than that they come one after the other.
Of patterns whose meaning is known they are the leftmost ones: a match is where something can
be taken and nothing could be taken before, and the next one is looked for behind it.
-/

/-! ## Matches from one position to another -/

/-- The match from one index up to another. -/
def ofEnds (i j : Nat) : Match :=
  ⟨Int.ofNat i, Int.ofNat j - Int.ofNat i⟩

variable {i j : Nat}

theorem ofEnds_inj {i' j' : Nat} : ofEnds i j = ofEnds i' j' ↔ i = i' ∧ j = j' := by
  simp only [ofEnds, Match.mk.injEq, Int.ofNat_eq_natCast]
  omega

theorem length_ofEnds_pos (before : i < j) : 0 < (ofEnds i j).length :=
  Int.sub_pos.mpr (Int.ofNat_lt.mpr before)

theorem length_ofEnds_ne_zero (before : i < j) : (ofEnds i j).length ≠ 0 :=
  Int.ne_of_gt (length_ofEnds_pos before)

theorem start_ofEnds (i j : Nat) : (ofEnds i j).start = Int.ofNat i :=
  rfl

theorem stop_ofEnds (i j : Nat) : Int.ofNat i + (ofEnds i j).length = Int.ofNat j := by
  change Int.ofNat i + (Int.ofNat j - Int.ofNat i) = Int.ofNat j
  omega

/-- A match in a text that is not empty has ends. -/
theorem exists_ofEnds {m : Match} (low : 0 ≤ m.start) (positive : 0 < m.length) :
    ∃ i j, i < j ∧ m = ofEnds i j := by
  have start : Int.ofNat m.start.toNat = m.start := Int.toNat_of_nonneg low
  have stop : Int.ofNat (m.start + m.length).toNat = m.start + m.length :=
    Int.toNat_of_nonneg (by omega)
  refine ⟨m.start.toNat, (m.start + m.length).toNat, by omega, ?_⟩
  unfold ofEnds
  rw [start, stop, Int.add_comm, Int.add_sub_cancel]

/-! ## Order -/

/-- Between two positions matches come one after the other.  They may touch, and they may
be empty. -/
def Ascending (stop : Int) : (start : Int) → List Match → Prop
  | start, [] => start ≤ stop
  | start, m :: ms => start ≤ m.start ∧ 0 ≤ m.length ∧ Ascending stop (m.start + m.length) ms

namespace Ascending

variable {start start' stop : Int} {ms : List Match}

theorem le (ascending : Ascending stop start ms) : start ≤ stop := by
  induction ms generalizing start with
  | nil => exact ascending
  | cons m ms ih =>
      rcases ascending with ⟨before, nonneg, rest⟩
      have := ih rest
      omega

theorem earlier (ascending : Ascending stop start ms) (before : start' ≤ start) :
    Ascending stop start' ms := by
  cases ms with
  | nil => exact Int.le_trans before ascending
  | cons m ms => exact ⟨Int.le_trans before ascending.1, ascending.2⟩

end Ascending

/-! ## Leftmost matches -/

/-- From an index on the matches are the leftmost ones: something is taken where nothing could
be taken before, and the next match is looked for behind it. -/
inductive AreLeftmost (takes : Nat → Nat → Prop) (stop : Nat) : (start : Nat) → List Match → Prop
  | nil {start : Nat} (inside : start ≤ stop) (nothing : ∀ i j, start ≤ i → ¬ takes i j) :
    AreLeftmost takes stop start []
  | cons {start i j : Nat} {ms : List Match} (after : start ≤ i) (before : i < j)
    (taken : takes i j) (first : ∀ i' j', start ≤ i' → i' < i → ¬ takes i' j')
    (rest : AreLeftmost takes stop j ms) : AreLeftmost takes stop start (ofEnds i j :: ms)

namespace AreLeftmost

variable {takes : Nat → Nat → Prop} {start stop : Nat} {ms : List Match}

theorem ascending (leftmost : AreLeftmost takes stop start ms) :
    Ascending (Int.ofNat stop) (Int.ofNat start) ms := by
  induction leftmost with
  | nil inside _ => exact Int.ofNat_le.mpr inside
  | @cons start i j ms after before _ _ _ ih =>
      refine ⟨Int.ofNat_le.mpr after, Int.le_of_lt (length_ofEnds_pos before), ?_⟩
      change Ascending _ (Int.ofNat i + (ofEnds i j).length) ms
      rw [stop_ofEnds]
      exact ih

/-- The matches are what can be taken. -/
theorem taken_of_mem (leftmost : AreLeftmost takes stop start ms) (member : ofEnds i j ∈ ms) :
    takes i j := by
  induction leftmost with
  | nil _ _ => cases member
  | @cons start i' j' ms _ _ taken _ _ ih =>
      rcases List.mem_cons.mp member with same | later
      · rcases ofEnds_inj.mp same with ⟨rfl, rfl⟩
        exact taken
      · exact ih later

/-- What can be taken begins in one of the matches. -/
theorem exists_of_taken (leftmost : AreLeftmost takes stop start ms) (after : start ≤ i)
    (taken : takes i j) : ∃ i' j', i' ≤ i ∧ i < j' ∧ ofEnds i' j' ∈ ms := by
  induction leftmost with
  | nil _ nothing => exact absurd taken (nothing i j after)
  | @cons start i' j' ms _ _ _ first _ ih =>
      have low : i' ≤ i := Nat.not_lt.mp fun less => first i j after less taken
      rcases Nat.lt_or_ge i j' with less | behind
      · exact ⟨i', j', low, less, List.mem_cons_self⟩
      · rcases ih behind with ⟨a, b, low, less, member⟩
        exact ⟨a, b, low, less, List.mem_cons_of_mem _ member⟩

end AreLeftmost
end Match
end Pattern
end ParseForest
