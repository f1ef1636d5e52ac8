import ParseForest.Proofs.Splitter.BlankLine

namespace ParseForest
namespace Splitter

/-!
# Words

The default separator is a run of white space.  Its search finds every white character, so
the tokens of a text are its words, the runs of other characters that are as long as they can
be.  Words are told by their places, and a list of them in order is determined by what it
has to contain.
-/

open Pattern
open Pattern.Machine (Task)

/-! ## Runs -/

/-- The stretch has none of certain characters on it and cannot be made longer. -/
structure IsRun (gap : Nat → Prop) (size : Nat) (w : Stretch) : Prop where
  some : w.first < w.stop
  inside : w.stop ≤ size
  clear : ∀ i, w.Covers i → ¬ gap i
  before : 0 < w.first → gap (w.first - 1)
  after : w.stop < size → gap w.stop

/-- Runs that have a character in common are the same. -/
theorem IsRun.eq_of_covers {gap : Nat → Prop} {size i : Nat} {w w' : Stretch}
    (run : IsRun gap size w) (run' : IsRun gap size w') (here : w.Covers i)
    (there : w'.Covers i) : w = w' := by
  have first_le {w w' : Stretch} (run : IsRun gap size w) (run' : IsRun gap size w')
      (here : w.Covers i) (there : w'.Covers i) : w'.first ≤ w.first := by
    by_contra later
    have := there.1
    have := here.2
    exact run.clear (w'.first - 1) ⟨by omega, by omega⟩ (run'.before (by omega))
  have le_stop {w w' : Stretch} (run : IsRun gap size w) (run' : IsRun gap size w')
      (here : w.Covers i) (there : w'.Covers i) : w.stop ≤ w'.stop := by
    by_contra later
    have := here.1
    have := there.2
    have := run.inside
    exact run.clear w'.stop ⟨by omega, by omega⟩ (run'.after (by omega))
  have first := Nat.le_antisymm (first_le run' run there here) (first_le run run' here there)
  have stop := Nat.le_antisymm (le_stop run run' here there) (le_stop run' run there here)
  rcases w with ⟨_, _⟩
  rcases w' with ⟨_, _⟩
  cases first
  cases stop
  rfl

/-- The stretches are those of a kind, in order and apart from each other. -/
structure AreInOrder (kind : Stretch → Prop) (words : List Stretch) : Prop where
  mem_iff : ∀ w, w ∈ words ↔ kind w
  apart : words.Pairwise fun w w' => w.stop < w'.first

/-- There is only one way to list stretches in order. -/
theorem AreInOrder.unique {kind : Stretch → Prop} {words words' : List Stretch}
    (some : ∀ w, kind w → w.first < w.stop) (inOrder : AreInOrder kind words)
    (inOrder' : AreInOrder kind words') : words = words' := by
  have backwards {w w' : Stretch} (member : w ∈ words) (later : w.stop < w'.first)
      (earlier : w'.stop < w.first) : ¬ kind w' := by
    intro isKind
    have := some w ((inOrder.mem_iff w).mp member)
    have := some w' isKind
    omega
  have nodup {words : List Stretch} (inOrder : AreInOrder kind words) : words.Nodup := by
    refine inOrder.apart.imp_of_mem fun {w w'} member _ less same => ?_
    have := some w ((inOrder.mem_iff w).mp member)
    rw [← same] at less
    omega
  have perm := (List.perm_ext_iff_of_nodup (nodup inOrder) (nodup inOrder')).mpr fun w =>
    (inOrder.mem_iff w).trans (inOrder'.mem_iff w).symm
  refine perm.eq_of_pairwise (fun w w' member member' later earlier => ?_) inOrder.apart
    inOrder'.apart
  exact absurd ((inOrder'.mem_iff w').mp member') (backwards member later earlier)

/-- Where a text is cut at all characters of a kind and at no others, the tokens are the runs
of the others. -/
theorem areInOrder_tokens {takes : Nat → Nat → Prop} {gap : Nat → Prop} {size : Nat}
    {ps : List Part} (cut : Part.AreCut takes size ps)
    (takes_gap : ∀ i j, takes i j → ∀ k, i ≤ k → k < j → gap k)
    (takes_one : ∀ i, gap i → takes i (i + 1)) :
    AreInOrder (IsRun gap size) ((ps.filter Part.isToken).map Part.toStretch) := by
  have gap_of_separator {p : Part} {i : Nat} (member : p ∈ ps) (separates : p.isToken = false)
      (covers : p.Covers i) : gap i :=
    takes_gap _ _ (cut.taken p member separates) i covers.1 covers.2
  have isRun {p : Part} (member : p ∈ ps) (token : p.isToken = true) :
      IsRun gap size p.toStretch := by
    rcases cut.tile.between member with ⟨_, some, inside⟩
    refine ⟨some, inside, fun i covers isGap => ?_, fun low => ?_, fun high => ?_⟩
    · rcases cut.separated i _ (takes_one i isGap) with ⟨q, inQ, separates, covers'⟩
      rw [cut.eq_of_covers member inQ covers covers', separates] at token
      cases token
    · rcases cut.exists_separator member token (by omega)
        (Or.inl (Nat.sub_add_cancel low)) with ⟨q, inQ, separates, covers⟩
      exact gap_of_separator inQ separates covers
    · rcases cut.exists_separator member token high (Or.inr rfl) with
        ⟨q, inQ, separates, covers⟩
      exact gap_of_separator inQ separates covers
  refine ⟨fun w => ?_, ?_⟩
  · rw [List.mem_map]
    constructor
    · rintro ⟨p, member, rfl⟩
      rcases List.mem_filter.mp member with ⟨member, token⟩
      exact isRun member token
    · intro run
      have here : w.Covers w.first := ⟨Nat.le_refl _, run.some⟩
      rcases cut.exists_covers (Nat.lt_of_lt_of_le run.some run.inside) with ⟨p, member, covers⟩
      have token : p.isToken = true := by
        refine Bool.of_not_eq_false fun separates => ?_
        exact run.clear w.first here (gap_of_separator member separates covers)
      exact ⟨p, List.mem_filter.mpr ⟨member, token⟩,
        (isRun member token).eq_of_covers run covers here⟩
  · rw [List.pairwise_map]
    exact cut.pairwise_tokens.imp cut.lt_of_separated

/-! ## White space -/

/-- There is a space, a tab, a line feed, a form feed or a carriage return at an index. -/
def IsWhite (cs : List Char) (i : Nat) : Prop :=
  ∃ c ∈ [' ', '\t', '\n', '\x0c', '\r'], cs[i]? = some c

/-- The program that finds runs of white space. -/
def white : Program :=
  .ofPattern (.group (some 0) none (.singles {} (.among (.ofRanges space)) false 1 unlimited)) {}

/-- The splitter that is used unless another one is asked for. -/
def whiteSpace : Splitter :=
  ⟨white.allMatches⟩

theorem make_defaultSeparator : make defaultSeparator = .ok whiteSpace := by
  cbv

section Task

variable (text : Array Nat) (start : Int)

/-- The task of finding white space. -/
def whiteTask : Task :=
  ⟨white, text, start⟩

/-- What the task takes. -/
def TakesWhite : Nat → Nat → Prop :=
  (whiteTask text start).TakesExactly .among 0 1
    ((whiteTask text start).TakesMost .among 0 unlimited Eq)

variable {text}

theorem takesWhite_iff {i j : Nat} : TakesWhite text start i j ↔
    i < j ∧ j ≤ i + 1 + unlimited ∧
      ∀ k, i ≤ k → k < j → (whiteTask text start).Fits .among 0 k := by
  constructor
  · rintro ⟨one, count, few, others, rfl⟩
    refine ⟨by omega, by omega, fun k after before => ?_⟩
    rcases Nat.eq_or_lt_of_le after with rfl | after
    · exact one 0 Nat.one_pos
    · have fits := others (k - (i + 1)) (by omega)
      rw [show i + 1 + (k - (i + 1)) = k by omega] at fits
      exact fits
  · rintro ⟨before, few, fits⟩
    refine ⟨fun k less => fits (i + k) (by omega) (by omega), j - (i + 1), by omega,
      fun k less => fits (i + 1 + k) (by omega) (by omega), by omega⟩

theorem TakesWhite.before {i j : Nat} (taken : TakesWhite text start i j) :
    i < j ∧ i < text.size := by
  rcases (takesWhite_iff start).mp taken with ⟨before, _, fits⟩
  exact ⟨before, (fits i (Nat.le_refl i) before).lt⟩

end Task

theorem admits_white : white.lead.Admits fun text => TakesWhite text 0 where
  anchor := rfl
  literal := rfl
  first first given text i j taken := by
    have known : white.lead.first =
        some (⟨{ ranges := [(9, 10), (12, 13), (32, 32)] }, []⟩, false) := rfl
    rw [known] at given
    cases given
    rcases (takesWhite_iff 0).mp taken with ⟨before, _, fits⟩
    rcases fits i (Nat.le_refl i) before with ⟨code, found, holds⟩
    rw [Array.getD_eq_getD_getElem?, show text[i]? = some code from found]
    exact Except.ok.inj holds

theorem isFramed_whiteTask (text : Array Nat) (start : Int) :
    (whiteTask text start).IsFramed 9 :=
  ⟨Task.has_of_cells rfl rfl, Task.has_of_cells rfl rfl, Task.has_of_cells rfl rfl,
    Task.has_of_cells rfl rfl⟩

theorem white_completes (text : Array Nat) (start : Int) (pos : Nat) :
    (whiteTask text start).Completes 16 3 (Task.markedView white pos) 3 (TakesWhite text start)
      (TakesWhite text 0 pos) ((whiteTask text start).Outcome (TakesWhite text 0) pos) := by
  have isWhite : (whiteTask text start).Compares .among 0 := fun _ => ⟨_, rfl⟩
  have one : (whiteTask text start).Has 3 (.exactly .among) [0, Int.ofNat 1] :=
    Task.has_of_cells rfl rfl
  have others : (whiteTask text start).Has 6 (.most .among) [0, Int.ofNat unlimited] :=
    Task.has_of_cells rfl rfl
  have from9 := (isFramed_whiteTask text start).completes_behind 6 (by decide)
    (fun stop (taken : TakesWhite text 0 pos stop) => taken.before.1)
  have from6 := Task.completes_most others (by decide) from9 (by decide) isWhite
  exact Task.completes_exactly one isWhite Nat.one_pos from6

theorem white_settles : white.Settles fun text => TakesWhite text 0 :=
  Program.settles_of_framed admits_white isFramed_whiteTask
    (fun _ _ _ taken => taken.before) white_completes

/-! ## Words of a text -/

variable {cs : List Char} {i j : Nat}

theorem fits_white_iff : (whiteTask (cs.map Char.toNat).toArray 0).Fits .among 0 i ↔
    IsWhite cs i := by
  have set : white.sets[0]? = some ⟨{ ranges := [(9, 10), (12, 13), (32, 32)] }, []⟩ := rfl
  have holds (c : Char) : Text.CodeRanges.holds [(9, 10), (12, 13), (32, 32)] c.toNat = true ↔
      c ∈ [' ', '\t', '\n', '\x0c', '\r'] := by
    have code (d : Char) : c = d ↔ c.toNat = d.toNat := Char.toNat_inj.symm
    simp only [Text.CodeRanges.holds, List.mem_cons, List.not_mem_nil, code]
    simp
    omega
  refine (Task.fits_among_iff set).trans ?_
  unfold IsWhite
  simp only [holds, and_comm]

/-- A word of a text: a run of characters that are not white. -/
def IsWord (cs : List Char) : Stretch → Prop :=
  IsRun (IsWhite cs) cs.length

/-- Every text in UTF-8 is split into its words. -/
theorem exists_words {text : Text} (valid : text.isUtf8 = true) :
    ∃ ws, AreInOrder (IsWord text.chars) ws ∧
      whiteSpace.split text = .ok (ws.map fun w => w.text text.chars) := by
  rcases white_settles.allMatches_areLeftmost text.chars with ⟨found, leftmost⟩
  rcases exists_cut valid found leftmost with ⟨ps, cut, cuts⟩
  refine ⟨_, areInOrder_tokens cut (fun i j taken k after before => ?_) fun i isWhite => ?_, ?_⟩
  · exact fits_white_iff.mp (((takesWhite_iff 0).mp taken).2.2 k after before)
  · refine (takesWhite_iff 0).mpr ⟨Nat.lt_succ_self i, by omega, fun k after before => ?_⟩
    rw [Nat.le_antisymm (Nat.le_of_lt_succ before) after]
    exact fits_white_iff.mpr isWhite
  · rw [List.map_map]
    exact cuts

end Splitter
end ParseForest
