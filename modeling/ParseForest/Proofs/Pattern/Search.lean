import ParseForest.Proofs.Pattern.Matches
import ParseForest.Proofs.Pattern.Taking

namespace ParseForest
namespace Pattern

/-!
# Searches that find what there is

If the runs of a program finish, and find something wherever there is something to be taken,
then so does a search, and the matches in a text are the leftmost ones, one behind the other.
-/

open Machine (State Task View)

/-! ## Runs -/

/-- The stacks are empty, and there is room on them. -/
structure Memory.IsClear (m : Memory) : Prop where
  track : m.track.Holds 16 []
  marks : m.marks.Holds 16 []
  crawl : m.crawl.Holds 16 []

/-- The state at the beginning of a run. -/
def startState (p : Program) (pos : Nat) (m : Memory) : State where
  pos := Int.ofNat pos
  track := m.track
  marks := m.marks
  crawl := m.crawl
  groups := noCaptures p

/-- Whether a match can begin with a code point. -/
def Lead.mayBegin (first : CharSet × Bool) (code : Nat) : Bool :=
  first.1.holds (if first.2 then Text.LowerCase.ofCode code else code)

/-- Where to begin does not depend on conditions or texts, and a search does not pass over
any position from where something can be taken. -/
structure Lead.Admits (l : Lead) (takes : Array Nat → Nat → Nat → Prop) : Prop where
  anchor : l.anchor = none
  literal : l.literal = none
  first : ∀ first ∈ l.first, ∀ text i j, takes text i j → mayBegin first (text.getD i 0) = true

/-- The runs of the program finish.  Either there is nothing to be taken, and they have not
moved, or they find a match that is not empty and stand at its end. -/
structure Program.Settles (p : Program) (takes : Array Nat → Nat → Nat → Prop) : Prop where
  lead : p.lead.Admits takes
  inside : ∀ text i j, takes text i j → i < text.size
  run : ∀ (text : Array Nat) (start : Int) (pos : Nat) (m : Memory), m.IsClear →
    pos ≤ text.size →
    ∃ s, Task.execute ⟨p, text, start⟩ (startState p pos m) = some (.ok s) ∧
      (Memory.ofState s).reset.IsClear ∧
      (s.groups = noCaptures p ∧ s.pos = Int.ofNat pos ∧ (∀ stop, ¬ takes text pos stop) ∨
        ∃ stop, takes text pos stop ∧ pos < stop ∧ stop ≤ text.size ∧ s.pos = Int.ofNat stop ∧
          wholeMatch? s = some (.ofEnds pos stop))

theorem wholeMatch?_noCaptures {p : Program} {s : State} (none : s.groups = noCaptures p) :
    wholeMatch? s = Option.none := by
  unfold wholeMatch?
  rw [none]
  rfl

theorem isClear_empty (p : Program) : (Memory.empty p).IsClear := by
  have clear (room : Nat) (enough : 16 ≤ room) : (Stack.ofRoom room).Holds 16 [] := by
    have same : (Stack.ofRoom room).moveTo 0 = Stack.ofRoom room := by
      simp [Stack.moveTo, Stack.ofRoom]
    rw [← same]
    exact Stack.holds_moveTo (by simpa [Stack.ofRoom] using enough)
  exact ⟨clear _ (by omega), clear _ (by omega), clear _ (by decide)⟩

/-! ## Where to try -/

namespace Lead

theorem findFirst_outcome (text : Array Nat) (first : CharSet × Bool) (count pos : Nat) :
    ∃ found tries,
      findFirst text first.1 first.2 count (Int.ofNat pos) = (Int.ofNat found, tries) ∧
      pos ≤ found ∧ found ≤ pos + count ∧ (tries = false → found = pos + count) ∧
      ∀ i, pos ≤ i → i < found → mayBegin first (text.getD i 0) = false := by
  have unpassed (pos i : Nat) (low : pos ≤ i) (high : i < pos) :
      mayBegin first (text.getD i 0) = false :=
    absurd high (Nat.not_lt.mpr low)
  induction count generalizing pos with
  | zero => exact ⟨pos, false, rfl, Nat.le_refl _, Nat.le_refl _, fun _ => rfl, unpassed pos⟩
  | succ count ih =>
      have unfolded : findFirst text first.1 first.2 (count + 1) (Int.ofNat pos) =
          if mayBegin first (text.getD pos 0) then (Int.ofNat pos, true)
          else findFirst text first.1 first.2 count (Int.ofNat (pos + 1)) := rfl
      rw [unfolded]
      split
      case isTrue => exact ⟨pos, true, rfl, Nat.le_refl _, by omega, nofun, unpassed pos⟩
      case isFalse unfit =>
        rcases ih (pos + 1) with ⟨found, tries, eq, low, high, last, passed⟩
        refine ⟨found, tries, eq, by omega, by omega, fun no => by rw [last no]; omega, ?_⟩
        intro i after before
        rcases Nat.eq_or_lt_of_le after with same | later
        · rw [← same]
          exact Bool.eq_false_iff.mpr unfit
        · exact passed i later before

theorem Admits.next_outcome {l : Lead} {takes : Array Nat → Nat → Nat → Prop}
    (admits : l.Admits takes) {text : Array Nat} (start : Int) {pos : Nat}
    (inside : pos ≤ text.size) :
    ∃ found tries, l.next text start (Int.ofNat pos) = (Int.ofNat found, tries) ∧
      pos ≤ found ∧ found ≤ text.size ∧ (tries = false → found = text.size) ∧
      ∀ i j, pos ≤ i → i < found → ¬ takes text i j := by
  unfold next
  rw [admits.anchor, admits.literal]
  cases first : l.first with
  | none =>
      refine ⟨pos, true, rfl, Nat.le_refl _, inside, nofun, fun i j low high => ?_⟩
      exact absurd high (Nat.not_lt.mpr low)
  | some first' =>
      have left : (Int.ofNat text.size - Int.ofNat pos).toNat = text.size - pos := by
        simp only [Int.ofNat_eq_natCast]
        omega
      rcases findFirst_outcome text first' (text.size - pos) pos with
        ⟨found, tries, eq, low, high, last, passed⟩
      simp only [left, eq]
      refine ⟨found, tries, rfl, low, by omega, fun no => by rw [last no]; omega, ?_⟩
      intro i j after before taken
      have begins := admits.first first' first text i j taken
      rw [passed i after before] at begins
      cases begins

end Lead

/-! ## Searches -/

/-- What a search from a position on comes to: nothing, if nothing can be taken from there on,
or the leftmost match. -/
inductive Searched (takes : Nat → Nat → Prop) (size pos : Nat) :
    Option (Except Halt (Option Found)) → Prop
  | nothing (untaken : ∀ i j, pos ≤ i → ¬ takes i j) : Searched takes size pos (some (.ok none))
  | found {i j : Nat} {memory : Memory} (clear : memory.IsClear) (after : pos ≤ i) (before : i < j)
    (inside : j ≤ size) (taken : takes i j) (first : ∀ i' j', pos ≤ i' → i' < i → ¬ takes i' j') :
    Searched takes size pos
      (some (.ok (some ⟨.ofEnds i j, Int.ofNat j, memory⟩)))

/-- Positions from where nothing can be taken may be passed over. -/
theorem Searched.earlier {takes : Nat → Nat → Prop} {size pos pos' : Nat}
    {result : Option (Except Halt (Option Found))} (searched : Searched takes size pos' result)
    (le : pos ≤ pos') (passed : ∀ i j, pos ≤ i → i < pos' → ¬ takes i j) :
    Searched takes size pos result := by
  cases searched with
  | nothing untaken =>
      refine .nothing fun i j after => ?_
      rcases Nat.lt_or_ge i pos' with less | beyond
      · exact passed i j after less
      · exact untaken i j beyond
  | found clear after before inside taken first =>
      refine .found clear (Nat.le_trans le after) before inside taken fun i j after' before => ?_
      rcases Nat.lt_or_ge i pos' with less | beyond
      · exact passed i j after' less
      · exact first i j beyond before

namespace Program.Settles

variable {p : Program} {takes : Array Nat → Nat → Nat → Prop} {text : Array Nat} {m : Memory}

/-- Every position that is tried in vain leaves fewer of them. -/
theorem searched (settles : p.Settles takes) (start : Int) {pos : Nat} (clear : m.IsClear)
    (inside : pos ≤ text.size) :
    Searched (takes text) text.size pos
      (Task.searchFrom ⟨p, text, start⟩ (Int.ofNat pos) m (noCaptures p)) := by
  induction left : text.size - pos using Nat.strongRecOn generalizing pos m with
  | ind n ih =>
      rcases settles.lead.next_outcome start inside with
        ⟨found, tries, next, low, high, last, passed⟩
      have ended : Searched (takes text) text.size text.size (some (.ok none)) :=
        .nothing fun i j beyond taken => Nat.not_lt.mpr beyond (settles.inside text i j taken)
      unfold Task.searchFrom
      rw [next]
      cases tries with
      | false =>
          have atEnd := last rfl
          rw [atEnd] at passed
          simp only [atEnd, if_true]
          exact ended.earlier inside passed
      | true =>
          rcases settles.run text start found m clear high with ⟨s, run, clear',
            ⟨groups, stays, nothing⟩ | ⟨stop, taken, before, within, stands, whole⟩⟩
          · unfold startState at run
            simp only [run, wholeMatch?_noCaptures groups, groups, stays]
            -- Nothing can be taken from here either, and the search goes on behind it.
            have passed' (i j : Nat) (after : pos ≤ i) (less : i < found + 1) :
                ¬ takes text i j := by
              rcases Nat.lt_succ_iff_lt_or_eq.mp less with earlier | same
              · exact passed i j after earlier
              · rw [same]
                exact nothing j
            split
            case isTrue atEnd =>
              have atEnd : found = text.size := Int.ofNat.inj atEnd
              exact ended.earlier inside fun i j after less =>
                passed' i j after (by omega)
            case isFalse before =>
              have before : found ≠ text.size := fun same => before (congrArg Int.ofNat same)
              have fewer : text.size - (found + 1) < n := by omega
              exact (ih _ fewer clear' (by omega) rfl).earlier (by omega) passed'
          · unfold startState at run
            simp only [run, whole, stands]
            exact .found clear' low before within taken passed

theorem matchesFrom_areLeftmost (settles : p.Settles takes) (text : Array Nat) {pos : Nat}
    (clear : m.IsClear) (inside : pos ≤ text.size) :
    ∃ ms, p.matchesFrom text (Int.ofNat pos) m = some ⟨ms, none⟩ ∧
      Match.AreLeftmost (takes text) text.size pos ms := by
  induction left : text.size - pos using Nat.strongRecOn generalizing pos m with
  | ind n ih =>
      unfold Program.matchesFrom
      have searched := settles.searched (Int.ofNat pos) clear inside
      generalize Task.searchFrom ⟨p, text, Int.ofNat pos⟩ (Int.ofNat pos) m (noCaptures p) = result
        at searched
      cases searched with
      | nothing untaken => exact ⟨[], rfl, .nil inside untaken⟩
      | @found i j memory clear' after before within taken first =>
          have some := Match.length_ofEnds_ne_zero before
          rcases ih (text.size - j) (by omega) clear' within rfl with ⟨ms, rest, leftmost⟩
          refine ⟨.ofEnds i j :: ms, ?_, .cons after before taken first leftmost⟩
          simp only [some, decide_false, Bool.false_and, Bool.false_eq_true, if_false, rest]
          rfl

/-- Where the runs of a program finish, the leftmost matches are found. -/
theorem allMatches_areLeftmost (settles : p.Settles takes) (cs : List Char) :
    (p.allMatches cs).halt = none ∧
      Match.AreLeftmost (takes (cs.map Char.toNat).toArray) cs.length 0
        (p.allMatches cs).found := by
  have size : (cs.map Char.toNat).toArray.size = cs.length := by simp
  rcases settles.matchesFrom_areLeftmost (cs.map Char.toNat).toArray (isClear_empty p)
    (Nat.zero_le _) with ⟨ms, run, leftmost⟩
  have found : p.allMatches cs = ⟨ms, none⟩ := by
    change (Program.matchesFrom _ _ (Int.ofNat 0) _).getD _ = _
    rw [run]
    rfl
  rw [size] at leftmost
  rw [found]
  exact ⟨rfl, leftmost⟩

end Program.Settles
end Pattern
end ParseForest
