import ParseForest.Proofs.Splitter.Sentences
import ParseForest.Proofs.Splitter.Words

namespace ParseForest
namespace Splitter

/-!
# Words and blank lines

Blank lines are white space, so every word of a text lies in one of the blocks between them,
and it is a word there as it is in the whole text.  The sentences are the words of the blocks,
and two words belong to one sentence unless there is a blank line between them.
-/

open Pattern
open Stretch (first_shift stop_shift)

variable {cs : List Char} {b w : Stretch}

/-! ## Blocks -/

/-- The stretch is not empty and ends at the ends of the text or at white space. -/
structure IsBlock (cs : List Char) (b : Stretch) : Prop where
  some : b.first < b.stop
  inside : b.stop ≤ cs.length
  before : 0 < b.first → IsWhite cs (b.first - 1)
  after : b.stop < cs.length → IsWhite cs b.stop

/-- The words of a block among those of the text. -/
def IsWordOf (cs : List Char) (b w : Stretch) : Prop :=
  IsWord cs w ∧ b.first ≤ w.first ∧ w.stop ≤ b.stop

theorem getElem?_extract (b : Stretch) (i : Nat) :
    (cs.extract b.first b.stop)[i]? = if i < b.stop - b.first then cs[b.first + i]? else none := by
  rw [List.extract_eq_take_drop, List.getElem?_take]
  simp only [List.getElem?_drop]

theorem isWhite_extract_iff {i : Nat} (inside : i < b.stop - b.first) :
    IsWhite (cs.extract b.first b.stop) i ↔ IsWhite cs (b.first + i) := by
  unfold IsWhite
  simp only [getElem?_extract, if_pos inside]

theorem length_extract (inside : b.stop ≤ cs.length) :
    (cs.extract b.first b.stop).length = b.stop - b.first := by
  rw [List.extract_eq_take_drop, List.length_take, List.length_drop]
  omega

/-- The words of a block are words of the text. -/
theorem IsBlock.isWord_extract_iff (block : IsBlock cs b) :
    IsWord (cs.extract b.first b.stop) w ↔ IsWordOf cs b (w.shift b.first) := by
  have inside := block.inside
  have white {i k : Nat} (same : k = b.first + i) (inside : i < b.stop - b.first) :
      IsWhite (cs.extract b.first b.stop) i ↔ IsWhite cs k := by
    rw [same]
    exact isWhite_extract_iff inside
  constructor
  · rintro ⟨some, stop, clear, before, after⟩
    rw [length_extract inside] at stop after
    refine ⟨⟨by simpa using some, by simp; omega, fun i ⟨low, high⟩ => ?_, fun low => ?_,
      fun high => ?_⟩, by simp, by simp; omega⟩
    · rw [first_shift] at low
      rw [stop_shift] at high
      rw [← white (i := i - b.first) (by omega) (by omega)]
      exact clear (i - b.first) ⟨by omega, by omega⟩
    · rw [first_shift] at low ⊢
      by_cases front : w.first = 0
      · rw [front] at low ⊢
        exact block.before low
      · rw [← white (i := w.first - 1) (by omega) (by omega)]
        exact before (Nat.pos_of_ne_zero front)
    · rw [stop_shift] at high ⊢
      by_cases back : w.stop < b.stop - b.first
      · rw [← white rfl back]
        exact after back
      · have same : b.first + w.stop = b.stop := by
          have := block.some
          omega
        rw [same] at high ⊢
        exact block.after high
  · rintro ⟨⟨some, stop, clear, before, after⟩, low, high⟩
    rw [first_shift] at some before
    rw [stop_shift] at some stop after high
    refine ⟨by omega, by rw [length_extract inside]; omega, fun i ⟨low, high⟩ => ?_,
      fun low => ?_, fun high => ?_⟩
    · rw [white rfl (by omega)]
      exact clear (b.first + i) ⟨Nat.add_le_add_left low _, Nat.add_lt_add_left high _⟩
    · rw [white (k := b.first + w.first - 1) (by omega) (by omega)]
      exact before (by omega)
    · rw [length_extract inside] at high
      rw [white rfl high]
      exact after (by omega)

/-- A block is split into the words of the text that lie in it. -/
theorem IsBlock.exists_words (block : IsBlock cs b) :
    ∃ ws, AreInOrder (IsWordOf cs b) ws ∧
      whiteSpace.split (b.text cs) = .ok (ws.map fun w => w.text cs) := by
  have valid : (b.text cs).isUtf8 = true := Text.isUtf8_ofChars _
  rcases Splitter.exists_words valid with ⟨ws, inOrder, split⟩
  unfold Stretch.text at inOrder split
  rw [Text.chars_ofChars] at inOrder split
  refine ⟨ws.map (Stretch.shift b.first), ⟨fun w => ?_, ?_⟩, ?_⟩
  · rw [List.mem_map]
    constructor
    · rintro ⟨w, member, rfl⟩
      exact block.isWord_extract_iff.mp ((inOrder.mem_iff w).mp member)
    · intro isWord
      have whole : Stretch.shift b.first ⟨w.first - b.first, w.stop - b.first⟩ = w := by
        rcases w with ⟨first, stop⟩
        have some : first < stop := isWord.1.some
        have low : b.first ≤ first := isWord.2.1
        unfold Stretch.shift
        simp only [Stretch.mk.injEq]
        omega
      rw [← whole] at isWord
      exact ⟨_, (inOrder.mem_iff _).mpr (block.isWord_extract_iff.mpr isWord), whole⟩
  · rw [List.pairwise_map]
    exact inOrder.apart.imp fun {w w'} less => Nat.add_lt_add_left less _
  · refine split.trans ?_
    rw [List.map_map]
    refine congrArg Except.ok (List.map_congr_left fun w member => ?_)
    have isWord := (inOrder.mem_iff w).mp member
    have inside := isWord.inside
    rw [length_extract block.inside] at inside
    exact Stretch.text_extract cs inside

/-! ## Blank lines between blocks -/

theorem IsBlankLine.lt {i j : Nat} (line : IsBlankLine cs i j) : i < j := by
  rcases line with ⟨a, b, lead, ends, rfl⟩
  have := ends.before
  omega

/-- Blank lines are white space. -/
theorem IsBlankLine.isWhite {i j : Nat} (line : IsBlankLine cs i j) {k : Nat} (after : i ≤ k)
    (before : k < j) : IsWhite cs k := by
  rcases line with ⟨a, b, lead, ends, rfl⟩
  rcases Nat.lt_trichotomy k a with front | rfl | behind
  · rcases lead with rfl | ⟨rfl, lead⟩
    · omega
    · rw [Nat.le_antisymm (Nat.le_of_lt_succ front) after]
      exact ⟨'\r', by decide, lead⟩
  · exact ⟨'\n', by decide, ends.first⟩
  · rcases Nat.lt_succ_iff_lt_or_eq.mp before with inner | rfl
    · rcases ends.blank k behind inner with ⟨c, blank, found⟩
      have white : [' ', '\t', '\r'] ⊆ [' ', '\t', '\n', '\x0c', '\r'] := by decide
      exact ⟨c, white blank, found⟩
    · exact ⟨'\n', by decide, ends.second⟩

/-- Between two indices there are two line ends with nothing but spaces, tabs and carriage
returns between them. -/
def HasBlankLine (cs : List Char) (first stop : Nat) : Prop :=
  ∃ a b, first ≤ a ∧ b < stop ∧ AreLineEnds cs a b

theorem IsBlankLine.hasBlankLine {i j first stop : Nat} (line : IsBlankLine cs i j)
    (after : first ≤ i) (before : j ≤ stop) : HasBlankLine cs first stop := by
  rcases line with ⟨a, b, lead, ends, rfl⟩
  exact ⟨a, b, by omega, before, ends⟩

section Cut

variable {ps : List Part} (cut : Part.AreCut (IsBlankLine cs) cs.length ps)
include cut

theorem isBlock_of_cut {p : Part} (member : p ∈ ps) (token : p.isToken = true) :
    IsBlock cs p.toStretch := by
  rcases cut.tile.between member with ⟨_, some, inside⟩
  refine ⟨some, inside, fun low => ?_, fun high => ?_⟩
  · rcases cut.exists_separator member token (by omega) (Or.inl (Nat.sub_add_cancel low)) with
      ⟨q, inQ, separates, after, before⟩
    exact (cut.taken q inQ separates).isWhite after before
  · rcases cut.exists_separator member token high (Or.inr rfl) with
      ⟨q, inQ, separates, after, before⟩
    exact (cut.taken q inQ separates).isWhite after before

/-- Every word lies in a block. -/
theorem exists_block (isWord : IsWord cs w) :
    ∃ p ∈ ps, p.isToken = true ∧ IsWordOf cs p.toStretch w := by
  have some := isWord.some
  have inside := isWord.inside
  rcases cut.exists_covers (Nat.lt_of_lt_of_le some inside) with ⟨p, member, after, before⟩
  have token : p.isToken = true := by
    refine Bool.of_not_eq_false fun separates => ?_
    exact isWord.clear w.first ⟨Nat.le_refl _, some⟩
      ((cut.taken p member separates).isWhite after before)
  refine ⟨p, member, token, isWord, after, Nat.not_lt.mp fun less => ?_⟩
  -- The character behind the block would be on the word, but it is white.
  exact isWord.clear p.stop ⟨Nat.le_of_lt before, less⟩
    ((isBlock_of_cut cut member token).after (by omega))

/-- Words in one block have no blank line between them. -/
theorem not_hasBlankLine {p : Part} (member : p ∈ ps) (token : p.isToken = true) {w' : Stretch}
    (here : IsWordOf cs p.toStretch w) (there : IsWordOf cs p.toStretch w') :
    ¬ HasBlankLine cs w.stop w'.first := by
  rintro ⟨a, b, after, before, ends⟩
  have some := here.1.some
  have some' := there.1.some
  have low := here.2.1
  have high := there.2.2
  have less := ends.before
  rcases cut.separated a (b + 1) ends.isBlankLine with ⟨q, inQ, separates, covers⟩
  have same := cut.eq_of_covers member inQ (i := a) ⟨by omega, by omega⟩ covers
  rw [same, separates] at token
  cases token

end Cut

/-! ## Sentences -/

/-- The words of every block can be listed. -/
theorem exists_wordsOf (cs : List Char) : ∃ wordsOf : Stretch → List Stretch,
    ∀ b, IsBlock cs b → AreInOrder (IsWordOf cs b) (wordsOf b) ∧
      whiteSpace.split (b.text cs) = .ok ((wordsOf b).map fun w => w.text cs) := by
  have each (b : Stretch) : ∃ ws, IsBlock cs b → AreInOrder (IsWordOf cs b) ws ∧
      whiteSpace.split (b.text cs) = .ok (ws.map fun w => w.text cs) := by
    by_cases block : IsBlock cs b
    · rcases block.exists_words with ⟨ws, listed⟩
      exact ⟨ws, fun _ => listed⟩
    · exact ⟨[], fun isBlock => absurd isBlock block⟩
  choose wordsOf listed using each
  exact ⟨wordsOf, listed⟩

section Sentences

variable {text : Text} {ps : List Part} {wordsOf : Stretch → List Stretch}
  (cut : Part.AreCut (IsBlankLine cs) cs.length ps)
  (listed : ∀ b, IsBlock cs b → AreInOrder (IsWordOf cs b) (wordsOf b) ∧
    whiteSpace.split (b.text cs) = .ok ((wordsOf b).map fun w => w.text cs))

/-- The words of the blocks, for every block that has one. -/
def groupsOf (wordsOf : Stretch → List Stretch) (ps : List Part) : List (List Stretch) :=
  ((ps.filter Part.isToken).map fun p => wordsOf p.toStretch).filter (!·.isEmpty)

theorem mem_groupsOf {ws : List Stretch} : ws ∈ groupsOf wordsOf ps ↔
    ws ≠ [] ∧ ∃ p ∈ ps, p.isToken = true ∧ wordsOf p.toStretch = ws := by
  unfold groupsOf
  simp only [List.mem_filter, List.mem_map, Bool.not_eq_true', List.isEmpty_eq_false_iff,
    and_assoc]
  rw [and_comm]

include cut listed

theorem areInOrder_groupsOf : AreInOrder (IsWord cs) (groupsOf wordsOf ps).flatten := by
  have listed' {p : Part} (member : p ∈ ps.filter Part.isToken) :=
    listed p.toStretch (isBlock_of_cut cut (List.mem_filter.mp member).1
      (List.mem_filter.mp member).2)
  unfold groupsOf
  rw [List.flatten_filter_not_isEmpty]
  refine ⟨fun w => ?_, ?_⟩
  · rw [← List.flatMap_def, List.mem_flatMap]
    constructor
    · rintro ⟨p, member, on⟩
      exact (((listed' member).1.mem_iff w).mp on).1
    · intro isWord
      rcases exists_block cut isWord with ⟨p, member, token, isWordOf⟩
      have member : p ∈ ps.filter Part.isToken := List.mem_filter.mpr ⟨member, token⟩
      exact ⟨p, member, ((listed' member).1.mem_iff w).mpr isWordOf⟩
  · rw [List.pairwise_flatten, List.forall_mem_map, List.pairwise_map]
    refine ⟨fun p member => (listed' member).1.apart, ?_⟩
    refine cut.pairwise_tokens.imp_of_mem fun {p q} inP inQ separated w inW w' inW' => ?_
    have high := (((listed' inP).1.mem_iff w).mp inW).2.2
    have low := (((listed' inQ).1.mem_iff w').mp inW').2.1
    have := cut.lt_of_separated separated
    omega

theorem sentences_eq (cuts : Splitter.cut blankLines text = .ok (Part.tokens cs ps)) :
    whiteSpace.sentences text =
      .ok ((groupsOf wordsOf ps).map fun ws => ws.map fun w => w.text cs) := by
  have split : (Part.tokens cs ps).mapM whiteSpace.split =
      .ok ((ps.filter Part.isToken).map fun p =>
        (wordsOf p.toStretch).map fun w => w.text cs) := by
    unfold Part.tokens
    rw [List.mapM_map]
    refine Except.mapM_eq_ok fun p member => ?_
    rcases List.mem_filter.mp member with ⟨member, token⟩
    exact (listed p.toStretch (isBlock_of_cut cut member token)).2
  rw [sentences_of_cut cuts, split]
  refine congrArg Except.ok ?_
  unfold groupsOf
  simp [List.filter_map, Function.comp_def]

/-- Words belong to different sentences where there is a blank line between them. -/
theorem apart_iff {w w' : Stretch} (isWord : IsWord cs w) (isWord' : IsWord cs w')
    (order : w.stop < w'.first) :
    (¬ ∃ ws ∈ groupsOf wordsOf ps, w ∈ ws ∧ w' ∈ ws) ↔ HasBlankLine cs w.stop w'.first := by
  rcases exists_block cut isWord with ⟨p, inP, tokenP, here⟩
  rcases exists_block cut isWord' with ⟨q, inQ, tokenQ, there⟩
  have inWords {p : Part} {w : Stretch} (member : p ∈ ps) (token : p.isToken = true) :
      w ∈ wordsOf p.toStretch ↔ IsWordOf cs p.toStretch w :=
    (listed p.toStretch (isBlock_of_cut cut member token)).1.mem_iff w
  constructor
  · intro different
    by_cases same : p = q
    · rw [← same] at there
      have inGroup := (inWords inP tokenP).mpr here
      exact absurd ⟨_, mem_groupsOf.mpr ⟨List.ne_nil_of_mem inGroup, p, inP, tokenP, rfl⟩, inGroup,
        (inWords inP tokenP).mpr there⟩ different
    · have some := isWord.some
      have some' := isWord'.some
      have high := here.2.2
      have low := there.2.1
      rcases cut.separated_or inP inQ tokenP tokenQ same with separated | separated
      · rcases separated with ⟨m, member, separates, after, before⟩
        exact (cut.taken m member separates).hasBlankLine (Nat.le_trans high after)
          (Nat.le_trans before low)
      · -- The words would be in the other order.
        have := cut.lt_of_separated separated
        have := here.2.1
        have := there.2.2
        omega
  · rintro blank ⟨ws, member, inWs, inWs'⟩
    rcases mem_groupsOf.mp member with ⟨_, p, inP, tokenP, rfl⟩
    exact not_hasBlankLine cut inP tokenP ((inWords inP tokenP).mp inWs)
      ((inWords inP tokenP).mp inWs') blank

end Sentences

/-- The sentences of a text are its words, none is empty, and two words belong to different
sentences where there is a blank line between them.  Only in a text that is longer than a
pattern can count it has to be taken for granted that the leftmost blank lines are found. -/
theorem sentences_group_words {text : Text} (valid : text.isUtf8 = true)
    (leftmost : unlimited < text.chars.length →
      Match.AreLeftmost (IsBlankLine text.chars) text.chars.length 0
        (blankLines.allMatches text.chars).found) :
    ∃ (s : Splitter) (groups : List (List Stretch)), make defaultSeparator = .ok s ∧
      AreInOrder (IsWord text.chars) groups.flatten ∧
      s.split text = .ok (groups.flatten.map fun w => w.text text.chars) ∧
      s.sentences text = .ok (groups.map fun ws => ws.map fun w => w.text text.chars) ∧
      [] ∉ groups ∧
      ∀ w ∈ groups.flatten, ∀ w' ∈ groups.flatten, w.stop < w'.first →
        ((¬ ∃ ws ∈ groups, w ∈ ws ∧ w' ∈ ws) ↔
          HasBlankLine text.chars w.stop w'.first) := by
  have lines : Match.AreLeftmost (IsBlankLine text.chars) text.chars.length 0
      (blankLines.allMatches text.chars).found := by
    rcases Nat.lt_or_ge unlimited text.chars.length with long | short
    · exact leftmost long
    · exact blankLines_areLeftmost short
  have found := (blankLines_settles.allMatches_areLeftmost text.chars).1
  rcases exists_cut valid found lines with ⟨ps, cut, cuts⟩
  rcases exists_wordsOf text.chars with ⟨wordsOf, listed⟩
  rcases exists_words valid with ⟨ws, inOrder, split⟩
  have flat := areInOrder_groupsOf cut listed
  have same : ws = (groupsOf wordsOf ps).flatten :=
    inOrder.unique (fun w isWord => isWord.some) flat
  rw [same] at split
  refine ⟨whiteSpace, groupsOf wordsOf ps, make_defaultSeparator, flat, split,
    sentences_eq cut listed cuts, fun empty => ?_, fun w member w' member' order => ?_⟩
  · exact (mem_groupsOf.mp empty).1 rfl
  · exact apart_iff cut listed ((flat.mem_iff w).mp member) ((flat.mem_iff w').mp member') order

/-- Three words, with a form feed between line ends in one gap and carriage returns in the
other one. -/
def threeWords : Text := "a\n\x0C\nb\r\n\r\nc"

theorem sentences_group_words_threeWords : ∃ (s : Splitter) (groups : List (List Stretch)),
    make defaultSeparator = .ok s ∧
      (groups.map fun ws => ws.map fun w => w.text threeWords.chars) =
        ([["a", "b"], ["c"]] : List (List Text)) ∧
      ∀ w ∈ groups.flatten, ∀ w' ∈ groups.flatten, w.stop < w'.first →
        ((¬ ∃ ws ∈ groups, w ∈ ws ∧ w' ∈ ws) ↔
          HasBlankLine threeWords.chars w.stop w'.first) := by
  have valid : threeWords.isUtf8 = true := by cbv
  have length : threeWords.chars.length = 10 := by cbv
  have short : ¬ unlimited < threeWords.chars.length := by
    rw [length]
    decide
  rcases sentences_group_words valid (fun long => absurd long short) with
    ⟨s, groups, made, _, _, sentences, _, apart⟩
  rw [make_defaultSeparator] at made
  cases made
  have known : whiteSpace.sentences threeWords = .ok [["a", "b"], ["c"]] := by
    have cuts : Splitter.cut blankLines threeWords = .ok ["a\n\x0C\nb", "c"] := by cbv
    have first : whiteSpace.split "a\n\x0C\nb" = .ok ["a", "b"] := by cbv
    have second : whiteSpace.split "c" = .ok ["c"] := by cbv
    exact sentences_of_forall₂ cuts (.cons first (.cons second .nil)) (by decide)
  rw [known] at sentences
  exact ⟨whiteSpace, groups, make_defaultSeparator, (Except.ok.inj sentences).symm, apart⟩

end Splitter
end ParseForest
