import Mathlib
import ParseForest.Splitter
import ParseForest.Proofs.Splitter.Parts

namespace ParseForest

/-!
# Texts in parts

Where the matches of a separator come one after the other, splitting takes the whole text
apart: the matches that are not empty and the tokens between them lie one behind the other,
from the beginning of the text to its end.  The parts are found along the matches, with the
end of the last part as what is carried from match to match.
-/

open Pattern

namespace Splitter

theorem between_eq {cs : List Char} {w : Stretch} (inside : w.stop ≤ cs.length) :
    between cs.toArray (Int.ofNat w.first) (Int.ofNat w.stop) = .ok (w.text cs) := by
  unfold between
  rw [if_neg (by simpa using inside), if_neg (by simp)]
  simp [Stretch.text]

/-- Behind the last match the rest of the text is a token, if there is any. -/
theorem exists_parts_nil (cs : List Char) (halt : Option Halt) {last : Nat}
    (le : last ≤ cs.length) :
    ∃ ps, Part.AreBetween [] last cs.length ps ∧
      pieces cs.toArray halt (Int.ofNat last) [] =
        halt.elim (.ok (Part.tokens cs ps)) .error := by
  unfold pieces
  by_cases rest : last < cs.length
  case neg =>
    have done : last = cs.length := Nat.le_antisymm le (Nat.not_lt.mp rest)
    subst done
    refine ⟨[], .nil _, ?_⟩
    cases halt with
    | none => simp [Part.tokens]
    | some halt => rfl
  case pos =>
    refine ⟨_, .last rest, ?_⟩
    cases halt with
    | none =>
        have whole := between_eq (w := ⟨last, cs.length⟩) (Nat.le_refl cs.length)
        simp only [List.size_toArray]
        rw [if_neg (by simpa using rest), whole]
        rfl
    | some halt => rfl

/-- A match that is not empty is a part, and what was left in front of it is a token. -/
theorem exists_parts_cons {cs : List Char} {halt : Option Halt} {last i j : Nat} {ms : List Match}
    {ps : List Part} (before : last ≤ i) (some : i < j) (inside : j ≤ cs.length)
    (parts : Part.AreBetween ms j cs.length ps)
    (found : pieces cs.toArray halt (Int.ofNat j) ms =
      halt.elim (.ok (Part.tokens cs ps)) .error) :
    ∃ ps, Part.AreBetween (.ofEnds i j :: ms) last cs.length ps ∧
      pieces cs.toArray halt (Int.ofNat last) (.ofEnds i j :: ms) =
        halt.elim (.ok (Part.tokens cs ps)) .error := by
  have after := parts.separator some
  unfold pieces
  rw [if_neg (Match.length_ofEnds_ne_zero some), Match.start_ofEnds, Match.stop_ofEnds, found]
  rcases Nat.eq_or_lt_of_le before with rfl | less
  · refine ⟨_, after, ?_⟩
    rw [if_neg (Int.lt_irrefl _), Part.tokens_cons_separator]
  · have less' : Int.ofNat last < Int.ofNat i := Int.ofNat_lt.mpr less
    have inside' : i ≤ cs.length := Nat.le_trans (Nat.le_of_lt some) inside
    refine ⟨_, after.token less, ?_⟩
    rw [if_pos less', between_eq (w := ⟨last, i⟩) inside', Part.tokens_cons_token,
      Part.tokens_cons_separator]
    cases halt <;> rfl

/-- Cutting finds the parts between the matches, and where the search for matches halted it
says so in their place. -/
theorem exists_parts (cs : List Char) (halt : Option Halt) {last : Nat} {ms : List Match}
    (ascending : Match.Ascending (Int.ofNat cs.length) (Int.ofNat last) ms) :
    ∃ ps, Part.AreBetween ms last cs.length ps ∧
      pieces cs.toArray halt (Int.ofNat last) ms =
        halt.elim (.ok (Part.tokens cs ps)) .error := by
  induction ms generalizing last with
  | nil => exact exists_parts_nil cs halt (Int.ofNat_le.mp ascending)
  | cons m ms ih =>
      rcases ascending with ⟨before, nonneg, rest⟩
      by_cases empty : m.length = 0
      case pos =>
        have further : Int.ofNat last ≤ m.start + m.length := by omega
        rcases ih (rest.earlier further) with ⟨ps, parts, found⟩
        refine ⟨ps, parts.skip empty, ?_⟩
        unfold pieces
        rw [if_pos empty, found]
      case neg =>
        rcases Match.exists_ofEnds (Int.le_trans (Int.natCast_nonneg last) before) (by omega) with
          ⟨i, j, some, rfl⟩
        rw [Match.start_ofEnds] at before rest
        rw [Match.stop_ofEnds] at rest
        rcases ih rest with ⟨ps, parts, found⟩
        exact exists_parts_cons (Int.ofNat_le.mp before) some (Int.ofNat_le.mp rest.le) parts found

/-- The parts of a text that is split at matches which come one after the other. -/
theorem split_eq (s : Splitter) {text : Text} {found : List Match} {halt : Option Halt}
    (valid : text.isUtf8 = true) (searched : s.search text.chars = ⟨found, halt⟩)
    (ascending : Match.Ascending (Int.ofNat text.chars.length) 0 found) :
    ∃ ps, Part.AreBetween found 0 text.chars.length ps ∧
      s.split text =
        halt.elim (.ok (Part.tokens text.chars ps)) fun halt => .error (.halted halt) := by
  rcases exists_parts text.chars halt ascending with ⟨ps, parts, eq⟩
  refine ⟨ps, parts, ?_⟩
  unfold split
  rw [if_pos valid]
  change (pieces text.chars.toArray (s.search text.chars).halt (Int.ofNat 0)
    (s.search text.chars).found).mapError _ = _
  rw [searched, eq]
  cases halt <;> rfl

/-- The parts of a text that is cut at a program which finds the leftmost matches. -/
theorem exists_cut {separator : Program} {text : Text} {takes : Nat → Nat → Prop}
    (valid : text.isUtf8 = true) (found : (separator.allMatches text.chars).halt = none)
    (leftmost : Match.AreLeftmost takes text.chars.length 0
      (separator.allMatches text.chars).found) :
    ∃ ps, Part.AreCut takes text.chars.length ps ∧
      cut separator text = .ok (Part.tokens text.chars ps) := by
  have searched : (Splitter.mk separator.allMatches).search text.chars =
      ⟨(separator.allMatches text.chars).found, none⟩ := by
    rw [← found]
  rcases split_eq _ valid searched leftmost.ascending with ⟨ps, parts, cuts⟩
  exact ⟨ps, parts.areCut leftmost, cuts⟩

/-- Splitting takes a text apart, whichever search finds the matches of the separator, as long
as they come one after the other.  The parts of the text, none of which is empty, are the
matches that are not empty and, as long as they can be, the tokens between them.
Every character is on one of them, and one behind the other they are the text.  If the search
halted, splitting says so and gives no tokens. -/
theorem split_partitions (s : Splitter) {text : Text} {found : List Match} {halt : Option Halt}
    (valid : text.isUtf8 = true) (searched : s.search text.chars = ⟨found, halt⟩)
    (ascending : Match.Ascending (Int.ofNat text.chars.length) 0 found) :
    ∃ ps : List Part,
      s.split text = halt.elim (.ok (Part.tokens text.chars ps))
        (fun halt => .error (.halted halt)) ∧
      (ps.filter (!·.isToken)).map Part.place = found.filter (·.length ≠ 0) ∧
      (ps.IsChain fun p q => p.isToken = true → q.isToken = false) ∧
      Part.Tile text.chars.length 0 ps ∧
      (∀ p ∈ ps, p.text text.chars ≠ []) ∧
      (∀ i < text.chars.length, ∃! k : Nat, ∃ p : Part, ps[k]? = some p ∧ p.Covers i) ∧
      ps.flatMap (fun p => p.text text.chars) = text := by
  rcases split_eq s valid searched ascending with ⟨ps, parts, cuts⟩
  refine ⟨ps, cuts, parts.separators, parts.apart, parts.tile, fun p member => ?_,
    fun i inside => parts.tile.existsUnique (Nat.zero_le i) inside, ?_⟩
  · rcases parts.tile.between member with ⟨_, some, inside⟩
    exact Stretch.text_ne_nil some inside
  · rw [parts.tile.flatMap_text, List.extract_eq_take_drop, List.drop_zero, Nat.sub_zero,
      List.take_length, Text.ofChars_chars valid]

/-- The splitter at any number of commas, also none. -/
def commas : Splitter :=
  ⟨(Program.ofPattern
    (.group (some 0) none (.singles {} (.is ','.toNat) false 0 unlimited)) {}).allMatches⟩

theorem split_partitions_commas : ∃ ps : List Part,
    commas.split ",é,,b" = .ok (Part.tokens (Text.chars ",é,,b") ps) ∧
      (ps.filter (!·.isToken)).map Part.place = [⟨0, 1⟩, ⟨2, 2⟩] ∧
      ps.flatMap (fun p => p.text (Text.chars ",é,,b")) = ",é,,b" := by
  have chars : Text.chars ",é,,b" = [',', 'é', ',', ',', 'b'] := by cbv
  have separators : commas.search [',', 'é', ',', ',', 'b'] =
      ⟨[⟨0, 1⟩, ⟨1, 0⟩, ⟨2, 2⟩, ⟨4, 0⟩, ⟨5, 0⟩], none⟩ := by cbv
  have valid : Text.isUtf8 ",é,,b" = true := by cbv
  rw [← chars] at separators
  rcases split_partitions commas valid separators (by
    rw [chars]
    simp [Match.Ascending]) with ⟨ps, split, places, _, _, _, _, whole⟩
  exact ⟨ps, split, places, whole⟩

end Splitter
end ParseForest
