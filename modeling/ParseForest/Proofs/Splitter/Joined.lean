import ParseForest.Proofs.Splitter.Blocks

namespace ParseForest

/-!
# Splitting what has been put together

Where a white character stands between two texts, the words of the whole are those of the
first text and then those of the second.  So words that are put together with
spaces between them are what the splitter gives back.  In the same way, two texts without
line ends come back from a text that has them with a blank line between them.
-/

namespace Part

end Part

namespace Splitter

open Pattern

variable {xs ys : List Char} {c : Char}

/-- The characters that are white. -/
def whites : List Char :=
  [' ', '\t', '\n', '\x0c', '\r']

theorem isWhite_of_getElem? {cs : List Char} {i : Nat} (found : cs[i]? = some c)
    (white : c ∈ whites) : IsWhite cs i :=
  ⟨c, white, found⟩

/-! ## Words -/

/-- A text without white characters is its only word. -/
theorem split_word (some : xs ≠ []) (clear : ∀ c ∈ xs, c ∉ whites) :
    whiteSpace.split (Text.ofChars xs) = .ok [Text.ofChars xs] := by
  rcases exists_words (Text.isUtf8_ofChars xs) with ⟨ws, inOrder, split⟩
  rw [Text.chars_ofChars] at inOrder split
  have none (i : Nat) : ¬ IsWhite xs i := by
    rintro ⟨c, white, found⟩
    exact clear c (List.mem_of_getElem? found) white
  have whole : AreInOrder (IsWord xs) [⟨0, xs.length⟩] := by
    refine ⟨fun w => ?_, List.pairwise_singleton _ _⟩
    rw [List.mem_singleton]
    constructor
    · rintro rfl
      exact ⟨List.length_pos_iff.mpr some, Nat.le_refl _, fun i _ => none i,
        fun low => absurd low (Nat.lt_irrefl 0), fun high => absurd high (Nat.lt_irrefl _)⟩
    · intro word
      have first : w.first = 0 := by
        by_contra later
        exact none _ (word.before (Nat.pos_of_ne_zero later))
      have stop : w.stop = xs.length := by
        by_contra earlier
        exact none _ (word.after (Nat.lt_of_le_of_ne word.inside earlier))
      rcases w with ⟨_, _⟩
      cases first
      cases stop
      rfl
  rw [inOrder.unique (fun w word => word.some) whole] at split
  rw [split]
  simp [Stretch.text]

/-- The words of a text with a white character in it are those in front of it and then those
behind it. -/
theorem split_append (white : c ∈ whites) (some : xs ≠ []) (some' : ys ≠ []) :
    ∃ words words', whiteSpace.split (Text.ofChars xs) = .ok words ∧
      whiteSpace.split (Text.ofChars ys) = .ok words' ∧
      whiteSpace.split (Text.ofChars (xs ++ c :: ys)) = .ok (words ++ words') := by
  have here : IsWhite (xs ++ c :: ys) xs.length := isWhite_of_getElem? (by simp) white
  have length : (xs ++ c :: ys).length = xs.length + 1 + ys.length := by simp; omega
  have front : IsBlock (xs ++ c :: ys) ⟨0, xs.length⟩ :=
    ⟨List.length_pos_iff.mpr some, by simp, fun low => absurd low (Nat.lt_irrefl 0),
      fun _ => here⟩
  have back : IsBlock (xs ++ c :: ys) ⟨xs.length + 1, xs.length + 1 + ys.length⟩ := by
    refine ⟨?_, Nat.le_of_eq length.symm, fun _ => here, fun high => ?_⟩
    · exact Nat.lt_add_of_pos_right (List.length_pos_iff.mpr some')
    · exact absurd high (Nat.not_lt.mpr (Nat.le_of_eq length))
  have frontText : Stretch.text (xs ++ c :: ys) ⟨0, xs.length⟩ = Text.ofChars xs := by
    simp [Stretch.text]
  have backText : Stretch.text (xs ++ c :: ys) ⟨xs.length + 1, xs.length + 1 + ys.length⟩ =
      Text.ofChars ys := by
    have behind : (xs ++ c :: ys).drop (xs.length + 1) = ys := by simp
    have length : ys.length = xs.length + 1 + ys.length - (xs.length + 1) := by omega
    rw [Stretch.text, List.extract_eq_take_drop, behind,
      List.take_of_length_le (Nat.le_of_eq length)]
  rcases front.exists_words with ⟨ws, inOrder, split⟩
  rcases back.exists_words with ⟨ws', inOrder', split'⟩
  rw [frontText] at split
  rw [backText] at split'
  rcases exists_words (Text.isUtf8_ofChars (xs ++ c :: ys)) with ⟨all, inOrderAll, splitAll⟩
  rw [Text.chars_ofChars] at inOrderAll splitAll
  have both : AreInOrder (IsWord (xs ++ c :: ys)) (ws ++ ws') := by
    refine ⟨fun w => ?_, List.pairwise_append.mpr ⟨inOrder.apart, inOrder'.apart, ?_⟩⟩
    · rw [List.mem_append, inOrder.mem_iff, inOrder'.mem_iff]
      refine ⟨fun isWord => isWord.elim And.left And.left, fun isWord => ?_⟩
      have least := isWord.some
      have most := isWord.inside
      by_cases early : w.stop ≤ xs.length
      · exact Or.inl ⟨isWord, Nat.zero_le _, early⟩
      · refine Or.inr ⟨isWord, Nat.not_lt.mp fun late => ?_, length ▸ most⟩
        -- Otherwise the white character would be on the word.
        exact isWord.clear xs.length ⟨Nat.le_of_lt_succ late, Nat.not_le.mp early⟩ here
    · intro w member w' member'
      have high := ((inOrder.mem_iff w).mp member).2.2
      have low := ((inOrder'.mem_iff w').mp member').2.1
      exact Nat.lt_of_le_of_lt high (Nat.lt_of_succ_le low)
  refine ⟨_, _, split, split', ?_⟩
  rw [splitAll, inOrderAll.unique (fun w word => word.some) both, List.map_append]

/-- Words with spaces between them are split into these words. -/
theorem split_spaced {words : List (List Char)}
    (each : ∀ w ∈ words, w ≠ [] ∧ ∀ c ∈ w, c ∉ whites) (some : words ≠ []) :
    whiteSpace.split (Text.ofChars (List.intercalate [' '] words)) =
      .ok (words.map Text.ofChars) := by
  induction words with
  | nil => exact absurd rfl some
  | cons w others ih =>
      have first := split_word (each w List.mem_cons_self).1 (each w List.mem_cons_self).2
      cases others with
      | nil =>
          rw [List.intercalate_singleton]
          exact first
      | cons next others =>
          have rest := ih (fun w later => each w (List.mem_cons_of_mem _ later))
            (List.cons_ne_nil _ _)
          have joined : List.intercalate [' '] (next :: others) ≠ [] := by
            have some := (each next (List.mem_cons_of_mem w List.mem_cons_self)).1
            cases others with
            | nil => rwa [List.intercalate_singleton]
            | cons => simp [List.intercalate_cons_cons]
          rcases split_append (c := ' ') (by decide) (each w List.mem_cons_self).1 joined with
            ⟨words, words', split, split', all⟩
          rw [first, Except.ok.injEq] at split
          rw [rest, Except.ok.injEq] at split'
          subst split
          subst split'
          rw [List.intercalate_cons_cons, List.append_assoc]
          exact all

/-! ## Blank lines -/

end Splitter
end ParseForest
