import ParseForest.Proofs.Pattern.Framed
import ParseForest.Proofs.Splitter.Partition

namespace ParseForest
namespace Splitter

/-!
# Blank lines are found

The search for blank lines does not halt on any text, and it finds the leftmost ones.  The
number of characters that a pattern takes in a row is limited, so in a text that is longer
than that a blank line can be too long to be found.
-/

open Pattern
open Pattern.Machine (Task)

/-! ## What a blank line is -/

/-- There are line ends at two indices and nothing but spaces, tabs and carriage returns
between them. -/
structure AreLineEnds (cs : List Char) (a b : Nat) : Prop where
  before : a < b
  first : cs[a]? = some '\n'
  second : cs[b]? = some '\n'
  blank : ∀ k, a < k → k < b → ∃ c ∈ [' ', '\t', '\r'], cs[k]? = some c

/-- There is a blank line from one index up to another: two line ends, and a carriage return
may stand in front of them. -/
def IsBlankLine (cs : List Char) (i j : Nat) : Prop :=
  ∃ a b, (a = i ∨ a = i + 1 ∧ cs[i]? = some '\r') ∧ AreLineEnds cs a b ∧ j = b + 1

theorem AreLineEnds.isBlankLine {cs : List Char} {a b : Nat} (ends : AreLineEnds cs a b) :
    IsBlankLine cs a (b + 1) :=
  ⟨a, b, Or.inl rfl, ends, rfl⟩

/-! ## What the program takes -/

section Task

variable (text : Array Nat) (start : Int)

/-- The task of finding a blank line. -/
def blankTask : Task :=
  ⟨blankLines, text, start⟩

/-- What the task takes. -/
def TakesBlankLine : Nat → Nat → Prop :=
  (blankTask text start).TakesMost .is 13 1 ((blankTask text start).TakesOne .is 10
    ((blankTask text start).TakesMost .among 0 unlimited
      ((blankTask text start).TakesOne .is 10 Eq)))

variable {text}

theorem TakesBlankLine.before {i j : Nat} (taken : TakesBlankLine text start i j) :
    i < j ∧ i < text.size := by
  rcases taken with ⟨count, _, _, _, count', _, _, fits, rfl⟩
  have := fits.lt
  change _ < text.size at this
  omega

/-- A blank line begins with a carriage return or a line feed. -/
theorem TakesBlankLine.begins {i j : Nat} (taken : TakesBlankLine text start i j) :
    text[i]? = some 13 ∨ text[i]? = some 10 := by
  have code {n : Nat} (fits : (blankTask text start).Fits .is (Int.ofNat n) i) :
      text[i]? = some n := by
    rcases fits with ⟨code, found, holds⟩
    have same : Int.ofNat code = Int.ofNat n := by simpa [Task.holds] using holds
    rw [← Int.ofNat.inj same]
    exact found
  rcases taken with ⟨count, _, returns, feed, _⟩
  cases count with
  | zero => exact Or.inr (code feed)
  | succ count => exact Or.inl (code (returns 0 count.succ_pos))

end Task

theorem admits_blankLines : blankLines.lead.Admits fun text => TakesBlankLine text 0 where
  anchor := rfl
  literal := rfl
  first first given text i j taken := by
    have known : blankLines.lead.first =
        some (⟨{ ranges := [(10, 10), (13, 13)] }, []⟩, false) := rfl
    rw [known] at given
    cases given
    rw [Array.getD_eq_getD_getElem?]
    rcases taken.begins with first | first
    · rw [first]
      rfl
    · rw [first]
      rfl

theorem isFramed_blankTask (text : Array Nat) (start : Int) : (blankTask text start).IsFramed 13 :=
  ⟨Task.has_of_cells rfl rfl, Task.has_of_cells rfl rfl, Task.has_of_cells rfl rfl,
    Task.has_of_cells rfl rfl⟩

/-- Blank lines are gone through from their end to their beginning. -/
theorem blankLine_completes (text : Array Nat) (start : Int) (pos : Nat) :
    (blankTask text start).Completes 16 3 (Task.markedView blankLines pos) 3
      (TakesBlankLine text start) (TakesBlankLine text 0 pos)
      ((blankTask text start).Outcome (TakesBlankLine text 0) pos) := by
  have isCode (code : Int) : (blankTask text start).Compares .is code := fun _ => ⟨_, rfl⟩
  have isBlank : (blankTask text start).Compares .among 0 := fun _ => ⟨_, rfl⟩
  have oneReturn : (blankTask text start).Has 3 (.most .is) [13, 1] := Task.has_of_cells rfl rfl
  have firstFeed : (blankTask text start).Has 6 (.one .is) [10] := Task.has_of_cells rfl rfl
  have blanks : (blankTask text start).Has 8 (.most .among) [0, Int.ofNat unlimited] :=
    Task.has_of_cells rfl rfl
  have secondFeed : (blankTask text start).Has 11 (.one .is) [10] := Task.has_of_cells rfl rfl
  have from13 := (isFramed_blankTask text start).completes_behind 9 (by decide)
    (fun stop (taken : TakesBlankLine text 0 pos stop) => taken.before.1)
  have from11 := Task.completes_one secondFeed (isCode 10) from13
  have from8 := Task.completes_most blanks (by decide) from11 (by decide) isBlank
  have from6 := Task.completes_one firstFeed (isCode 10) from8
  exact Task.completes_most oneReturn (by decide) from6 (by decide) (isCode 13)

theorem blankLines_settles : blankLines.Settles fun text => TakesBlankLine text 0 :=
  Program.settles_of_framed admits_blankLines isFramed_blankTask
    (fun _ _ _ taken => taken.before) blankLine_completes

/-! ## Blank lines of a text -/

variable {cs : List Char} {i j : Nat}

theorem fits_blank_iff : (blankTask (cs.map Char.toNat).toArray 0).Fits .among 0 i ↔
    ∃ c ∈ [' ', '\t', '\r'], cs[i]? = some c := by
  have set : blankLines.sets[0]? = some ⟨{ ranges := [(9, 9), (13, 13), (32, 32)] }, []⟩ := rfl
  have holds (c : Char) : Text.CodeRanges.holds [(9, 9), (13, 13), (32, 32)] c.toNat = true ↔
      c ∈ [' ', '\t', '\r'] := by
    have code (d : Char) : c = d ↔ c.toNat = d.toNat := Char.toNat_inj.symm
    simp only [Text.CodeRanges.holds, List.mem_cons, List.not_mem_nil, code]
    simp
    omega
  refine (Task.fits_among_iff set).trans ?_
  simp only [holds, and_comm]

theorem TakesBlankLine.isBlankLine (taken : TakesBlankLine (cs.map Char.toNat).toArray 0 i j) :
    IsBlankLine cs i j := by
  rcases taken with ⟨count, few, returns, feed, count', _, blanks, feed', rfl⟩
  have first := (Task.fits_is_iff '\n').mp feed
  have second := (Task.fits_is_iff '\n').mp feed'
  refine ⟨i + count, _, ?_, ⟨by omega, first, second, fun k after before => ?_⟩, rfl⟩
  · cases count with
    | zero => exact Or.inl rfl
    | succ count =>
        have count_eq : count = 0 := by omega
        subst count_eq
        exact Or.inr ⟨rfl, (Task.fits_is_iff '\r').mp (returns 0 Nat.one_pos)⟩
  · have blank := blanks (k - (i + count + 1)) (by omega)
    rw [show i + count + 1 + (k - (i + count + 1)) = k by omega] at blank
    exact fits_blank_iff.mp blank

/-- All blank lines are taken, as far as there are not too many characters for a pattern. -/
theorem IsBlankLine.takes (short : cs.length ≤ unlimited) (line : IsBlankLine cs i j) :
    TakesBlankLine (cs.map Char.toNat).toArray 0 i j := by
  rcases line with ⟨a, b, lead, ends, rfl⟩
  have inside : b < cs.length := (List.getElem?_eq_some_iff.mp ends.second).1
  have before := ends.before
  have rest : (blankTask (cs.map Char.toNat).toArray 0).TakesOne .is 10
      ((blankTask (cs.map Char.toNat).toArray 0).TakesMost .among 0 unlimited
        ((blankTask (cs.map Char.toNat).toArray 0).TakesOne .is 10 Eq)) a (b + 1) := by
    refine ⟨(Task.fits_is_iff '\n').mpr ends.first, b - (a + 1), by omega, fun k less => ?_, ?_⟩
    · exact fits_blank_iff.mpr (ends.blank (a + 1 + k) (by omega) (by omega))
    · rw [show a + 1 + (b - (a + 1)) = b by omega]
      exact ⟨(Task.fits_is_iff '\n').mpr ends.second, rfl⟩
  rcases lead with rfl | ⟨rfl, lead⟩
  · exact ⟨0, Nat.zero_le 1, nofun, rest⟩
  · refine ⟨1, Nat.le_refl 1, fun k less => ?_, rest⟩
    rw [Nat.lt_one_iff.mp less]
    exact (Task.fits_is_iff '\r').mpr lead

/-- The leftmost blank lines are found, as far as there are not too many characters for a
pattern. -/
theorem blankLines_areLeftmost (short : cs.length ≤ unlimited) :
    Match.AreLeftmost (IsBlankLine cs) cs.length 0 (blankLines.allMatches cs).found := by
  have same : TakesBlankLine (cs.map Char.toNat).toArray 0 = IsBlankLine cs :=
    funext₂ fun _ _ => propext ⟨TakesBlankLine.isBlankLine, IsBlankLine.takes short⟩
  rw [← same]
  exact (blankLines_settles.allMatches_areLeftmost cs).2

end Splitter
end ParseForest
