import ParseForest.Proofs.Pattern.Search

namespace ParseForest
namespace Pattern

/-!
# Programs of patterns without alternatives

A pattern that is tried at its place and nowhere else has the same instructions around what
it takes: a fork to the end of the program, which is gone back to when nothing can be taken,
a mark where the match begins, and the capture of the match.  Such a program settles if what
stands between the mark and the capture completes.
-/

open Machine (State Task View)

namespace Machine.Task

variable {t : Task} {takes : Nat → Nat → Prop} {behind pos : Nat}

/-- The instructions around what the program takes, of which the capture stands behind it. -/
structure IsFramed (t : Task) (behind : Nat) : Prop where
  fork : t.Has 0 .fork [Int.ofNat (behind + 3)]
  mark : t.Has 2 .markHere []
  capture : t.Has (Int.ofNat behind) .capture [Int.ofNat 0, -1]
  stop : t.Has (Int.ofNat (behind + 3)) .stop []

/-- The view of the machine behind the mark. -/
def markedView (p : Program) (pos : Nat) : View where
  pos := Int.ofNat pos
  marks := [Int.ofNat pos]
  groups := noCaptures p

/-- What a run comes to: nothing, or a match from where it began. -/
def Outcome (t : Task) (takes : Nat → Nat → Prop) (pos : Nat) (v : View) : Prop :=
  v.groups = noCaptures t.program ∧ v.pos = Int.ofNat pos ∧ (∀ stop, ¬ takes pos stop) ∨
    ∃ stop c, takes pos stop ∧ pos < stop ∧ stop ≤ t.text.size ∧ v.pos = Int.ofNat stop ∧
      v.groups[0]? = some c ∧ c.entries = [(Int.ofNat pos, Int.ofNat stop - Int.ofNat pos)]

/-- Behind what the program takes there is a match. -/
theorem IsFramed.completes_behind (framed : t.IsFramed behind) (depth : Nat) (low : depth ≤ 13)
    (some : ∀ stop, takes pos stop → pos < stop) :
    t.Completes 16 depth (markedView t.program pos) (Int.ofNat behind) Eq (takes pos)
      (t.Outcome takes pos) := by
  intro stop track within short aims _
  have taken := aims stop rfl
  have before := some stop taken
  refine finishes_capture framed.capture rfl rfl rfl (by simp; omega) (Nat.zero_lt_succ 15) ?_
  refine finishes_stop framed.stop rfl
    (Or.inr ⟨stop, _, taken, before, within, rfl, rfl, ?_⟩)
  have le : Int.ofNat pos ≤ Int.ofNat stop := Int.ofNat_le.mpr (Nat.le_of_lt before)
  change [(min (Int.ofNat pos) (Int.ofNat stop),
    max (Int.ofNat pos) (Int.ofNat stop) - min (Int.ofNat pos) (Int.ofNat stop))] = _
  rw [Int.min_eq_left le, Int.max_eq_right le]

theorem IsFramed.finishes (framed : t.IsFramed behind) (within : pos ≤ t.text.size)
    (body : t.Completes 16 3 (markedView t.program pos) 3 takes (takes pos)
      (t.Outcome takes pos)) :
    t.Finishes 16 { pos := Int.ofNat pos, groups := noCaptures t.program }
      (t.Outcome takes pos) := by
  have line := body pos [2, 0, Int.ofNat pos] within (Nat.le_refl 3) (fun _ taken => taken) ?_
  · have marked := finishes_mark framed.mark (v := {
      place := 2, pos := Int.ofNat pos, track := [0, Int.ofNat pos]
      groups := noCaptures t.program }) rfl (by simp) (by simp) line
    exact finishes_fork framed.fork (v := {
      pos := Int.ofNat pos, groups := noCaptures t.program }) rfl (by simp) marked
  · -- If nothing can be taken, the mark and the fork lead to the end of the program.
    intro nothing
    have none (pos' : Int) : t.Finishes 16 _ (t.Outcome takes pos) :=
      finishes_back_fork framed.fork (v := {
        place := 0, phase := .back, pos := pos', track := [Int.ofNat pos]
        groups := noCaptures t.program }) rfl rfl
        (finishes_stop framed.stop rfl (Or.inl ⟨rfl, rfl, nothing⟩))
    have noMark (pos' : Int) : t.Finishes 16 _ (t.Outcome takes pos) :=
      finishes_back_mark framed.mark (v := {
        place := 2, phase := .back, pos := pos', track := [0, Int.ofNat pos]
        marks := [Int.ofNat pos], groups := noCaptures t.program }) rfl rfl
        ⟨0, [Int.ofNat pos], rfl, Int.le_refl 0, none⟩
    exact ⟨2, [0, Int.ofNat pos], rfl, by decide, noMark⟩

end Machine.Task

/-- A program settles if what it takes completes. -/
theorem Program.settles_of_framed {p : Program} {takes : Array Nat → Nat → Nat → Prop}
    {behind : Nat} (lead : p.lead.Admits takes)
    (framed : ∀ text start, Task.IsFramed ⟨p, text, start⟩ behind)
    (inside : ∀ text i j, takes text i j → i < j ∧ i < text.size)
    (body : ∀ text start pos, Task.Completes ⟨p, text, start⟩ 16 3 (Task.markedView p pos) 3
      (takes text) (takes text pos) (Task.Outcome ⟨p, text, start⟩ (takes text) pos)) :
    p.Settles takes where
  lead := lead
  inside text i j taken := (inside text i j taken).2
  run text start pos m clear within := by
    have shows : (startState p pos m).Shows 16
        { pos := Int.ofNat pos, groups := noCaptures p } :=
      ⟨rfl, rfl, rfl, clear.track, clear.marks, clear.crawl, rfl⟩
    rcases (framed text start).finishes within (body text start pos) _ shows with
      ⟨s, v, shows', outcome, run⟩
    refine ⟨s, run, ?_, ?_⟩
    · exact ⟨Stack.holds_moveTo shows'.track.room_le, Stack.holds_moveTo shows'.marks.room_le,
        Stack.holds_moveTo shows'.crawl.room_le⟩
    · rcases outcome with ⟨groups, stays, nothing⟩ |
        ⟨stop, c, taken, before, inside, stands, found, entries⟩
      · exact Or.inl ⟨shows'.groups_eq.trans groups, shows'.pos_eq.trans stays, nothing⟩
      · refine Or.inr ⟨stop, taken, before, inside, shows'.pos_eq.trans stands, ?_⟩
        unfold wholeMatch?
        rw [shows'.groups_eq, found]
        simp [entries, Match.ofEnds]

end Pattern
end ParseForest
