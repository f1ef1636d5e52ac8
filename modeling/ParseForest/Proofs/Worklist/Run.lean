import ParseForest.Proofs.Worklist.Moves

namespace ParseForest

/-!
# Runs of the machine

A run seeds the chart, visits the arc under the cursor as long as there is one,
and moves on to the next cell when there is none.  Two things hold at every
point of a run.  The machine is coherent, so nothing it does can fail.  And
what the seeds and the arcs behind the cursor propose is settled, because cells
that the cursor has left are final: a later arc cannot make an earlier one
offer more.

When the cursor has passed the last cell, every arc of the chart is behind it.
So a filled chart settles everything that its own arcs offer.
-/

namespace Worklist

theorem current?_eq (work : Worklist) :
    work.current? = (work.chart.arcsIn work.cell)[work.index]? := by
  simp only [current?, Chart.arcsIn, Chart.cellAt, Array.getElem?_toList]
  cases work.chart.cells[work.cell]? with
  | none => simp [Cell.empty]
  | some cell => rfl

/-- The cursor at the beginning of the next cell. -/
def advance (work : Worklist) : Worklist :=
  { work with cell := work.cell + 1, index := 0 }

end Worklist

namespace Problem

/-- The states that a run passes through. -/
inductive Reaches (p : Problem) (policy : Policy) (serial : Nat) : Worklist → Prop
  | seeded {work : Worklist} (run : p.seeded policy serial = .ok work) :
      Reaches p policy serial work
  | visited {work work' : Worklist} {a : Arc} (reached : Reaches p policy serial work)
      (current : work.current? = some a) (run : p.visit work a = .ok work') :
      Reaches p policy serial work'
  | advanced {work : Worklist} (reached : Reaches p policy serial work)
      (done : work.current? = none) : Reaches p policy serial work.advance

/-- The arc at index `j` of cell `e` is behind the cursor. -/
def Behind (work : Worklist) (e j : Nat) : Prop :=
  e < work.cell ∨ e = work.cell ∧ j < work.index

/-- The seeds and the moves of all arcs behind the cursor are settled. -/
structure Settled (p : Problem) (work : Worklist) : Prop where
  seeds : ∀ r ∈ p.grammar.rules, r.head = p.start → work.chart.Settles (.predict r 0)
  visited : ∀ e j a, Behind work e j → (work.chart.arcsIn e)[j]? = some a →
    ∀ m, p.Offers work.chart a m → work.chart.Settles m

variable {p : Problem} {policy : Policy} {serial : Nat} {work : Worklist} {a : Arc}

/-! ## Single steps -/

/-- The state after seeding. -/
structure Seeded (p : Problem) (policy : Policy) (work : Worklist) : Prop where
  coherent : work.Coherent p
  policy_eq : work.chart.policy = policy
  cell_eq : work.cell = 0
  index_eq : work.index = 0
  seeds : ∀ r ∈ p.grammar.rules, r.head = p.start → work.chart.Settles (.predict r 0)

/-- The machine before anything is proposed. -/
def blank (p : Problem) (policy : Policy) (serial : Nat) : Worklist :=
  ⟨⟨Array.replicate (p.tokens.length + 1) .empty, policy⟩, 0, 0, serial⟩

/-- The proposals that a run begins with. -/
def seeds (p : Problem) : List Move :=
  (p.grammar.rulesFor p.start).map (.predict · 0)

theorem blank_arcsIn (e : Nat) : (p.blank policy serial).chart.arcsIn e = [] :=
  Chart.arcsIn_replicate

theorem blank_coherent : (p.blank policy serial).Coherent p := by
  have nothing : ∀ e a, a ∉ (p.blank policy serial).chart.arcsIn e := by
    intro e a member
    rw [blank_arcsIn] at member
    cases member
  refine ⟨⟨Chart.tidy_replicate, by simp [blank, Chart.length], ?_, ?_⟩, ⟨?_, ?_⟩⟩
  · intro e a member
    exact absurd member (nothing e a)
  · intro e a member
    exact absurd member (nothing e a)
  · rintro x ⟨e, a, member, _⟩
    exact absurd member (nothing e a)
  · rintro x y ⟨e, a, member, _⟩
    exact absurd member (nothing e a)

theorem seeded_eq (policy : Policy) (serial : Nat) (fits : p.tokens.length < Chart.maxLength) :
    p.seeded policy serial = (p.blank policy serial).proposeAll p.seeds := by
  rw [seeded, Chart.make_eq fits]
  rfl

theorem grounded_of_mem_seeds {chart : Chart} {m : Move} (member : m ∈ p.seeds) :
    m.Grounded p chart := by
  rcases List.mem_map.mp member with ⟨r, found, rfl⟩
  rcases Grammar.mem_rulesFor.mp found with ⟨inGrammar, head⟩
  exact grounded_seed inGrammar head

theorem stop_of_mem_seeds {m : Move} (member : m ∈ p.seeds) : (m.arc 0).span.stop = 0 := by
  rcases List.mem_map.mp member with ⟨r, _, rfl⟩
  rfl

/-- Seeding succeeds if there is room for the sentence. -/
theorem exists_seeded (policy : Policy) (serial : Nat) (fits : p.tokens.length < Chart.maxLength) :
    ∃ work, p.seeded policy serial = .ok work ∧ p.Seeded policy work := by
  have coherent : (p.blank policy serial).Coherent p := blank_coherent
  rcases coherent.proposeAll p.seeds (fun m member => grounded_of_mem_seeds member)
    (k := 0) (fun m member => Int.le_of_eq (stop_of_mem_seeds member).symm) with
    ⟨work, run, coherent, grows, settled, cellEq, indexEq⟩
  refine ⟨work, (seeded_eq policy serial fits).trans run, coherent, grows.policy_eq, cellEq,
    indexEq, ?_⟩
  intro r inGrammar head
  exact settled _ (List.mem_map.mpr ⟨r, Grammar.mem_rulesFor.mpr ⟨inGrammar, head⟩, rfl⟩)

theorem fits_of_seeded (run : p.seeded policy serial = .ok work) :
    p.tokens.length < Chart.maxLength := by
  cases made : Chart.make p.tokens.length policy with
  | error fault => simp [seeded, made, bind, Except.bind] at run
  | ok chart => exact Chart.lt_maxLength_of_make made

theorem Seeded.of_run (run : p.seeded policy serial = .ok work) : p.Seeded policy work := by
  rcases exists_seeded policy serial (fits_of_seeded run) with ⟨work', run', seeded⟩
  rw [run, Except.ok.injEq] at run'
  exact run' ▸ seeded

theorem Seeded.settled (seeded : p.Seeded policy work) : p.Settled work where
  seeds := seeded.seeds
  visited e j a behind := by
    rcases behind with before | ⟨_, before⟩
    · rw [seeded.cell_eq] at before
      exact absurd before (Nat.not_lt_zero _)
    · rw [seeded.index_eq] at before
      exact absurd before (Nat.not_lt_zero _)

/-- A visit succeeds, settles the moves of the arc and leaves the cells before
the cursor alone. -/
theorem exists_visit (coherent : work.Coherent p) (current : work.current? = some a) :
    ∃ work', p.visit work a = .ok work' ∧ work'.Coherent p ∧
      work.chart.Grows work.cell work'.chart ∧
      (∀ m, p.Offers work.chart a m → work'.chart.Settles m) ∧
      work'.cell = work.cell ∧ work'.index = work.index + 1 := by
  rw [work.current?_eq] at current
  have member := List.mem_of_getElem? current
  have charted := coherent.charted
  rcases exists_moves charted (charted.sound member) with
    ⟨moves, movesEq, offered⟩
  have next := coherent.moved work.cell (work.index + 1)
  have grounded : ∀ m ∈ moves, m.Grounded p work.chart := by
    intro m inMoves
    exact ((offered m).mp inMoves).grounded charted member
  have behind : ∀ m ∈ moves, (work.cell : Int) ≤ (m.arc 0).span.stop := by
    intro m inMoves
    rcases ((offered m).mp inMoves).stop_eq charted member 0 with here | there <;> omega
  rcases next.proposeAll moves grounded behind with
    ⟨work', run, coherent', grows, settled, cellEq, indexEq⟩
  refine ⟨work', ?_, coherent', grows, ?_, cellEq, indexEq⟩
  · simp only [visit, movesEq]
    exact run
  · intro m offer
    exact settled m ((offered m).mpr offer)

/-- What a visit does: the moves of the arc are proposed one after the other. -/
structure Visits (p : Problem) (work next : Worklist) (a : Arc) (moves : List Move) : Prop where
  member : a ∈ work.chart.arcsIn work.cell
  moves_eq : p.moves work.chart a = .ok moves
  offers : ∀ m ∈ moves, p.Offers work.chart a m
  grounded : ∀ m ∈ moves, m.Grounded p work.chart
  proposed : { work with index := work.index + 1 }.proposeAll moves = .ok next
  grows : work.chart.Grows work.cell next.chart
  cell_eq : next.cell = work.cell
  index_eq : next.index = work.index + 1

theorem exists_visits (coherent : work.Coherent p) (current : work.current? = some a)
    {next : Worklist} (run : p.visit work a = .ok next) : ∃ moves, p.Visits work next a moves := by
  rcases exists_visit coherent current with ⟨next', run', _, grows, _, cellEq, indexEq⟩
  rw [run, Except.ok.injEq] at run'
  subst run'
  rw [work.current?_eq] at current
  have member := List.mem_of_getElem? current
  rcases exists_moves coherent.charted (coherent.charted.sound member) with
    ⟨moves, movesEq, offered⟩
  simp only [visit, movesEq] at run
  refine ⟨moves, member, movesEq, fun m => (offered m).mp, ?_, run, grows, cellEq, indexEq⟩
  intro m inMoves
  exact ((offered m).mp inMoves).grounded coherent.charted member

/-- Of an arc behind the cursor, growth from the cursor's cell on takes nothing
away and adds nothing to. -/
theorem Settled.visit (settled : p.Settled work) (coherent : work.Coherent p)
    (current : work.current? = some a) {work' : Worklist}
    (grows : work.chart.Grows work.cell work'.chart)
    (moves : ∀ m, p.Offers work.chart a m → work'.chart.Settles m)
    (cellEq : work'.cell = work.cell) (indexEq : work'.index = work.index + 1) :
    p.Settled work' where
  seeds r inGrammar head := (settled.seeds r inGrammar head).mono grows
  visited e j b behind found m offer := by
    rw [work.current?_eq] at current
    have inside := (List.getElem?_eq_some_iff.mp current).1
    unfold Behind at behind
    rw [cellEq, indexEq] at behind
    have upTo : e ≤ work.cell := by omega
    -- The entry was there before, since nothing was put in front of it.
    have old : (work.chart.arcsIn e)[j]? = some b := by
      rcases behind with before | ⟨here, before⟩
      · rw [← grows.kept e before]
        exact found
      · subst here
        have reach : j < (work.chart.arcsIn work.cell).length := by omega
        rcases grows.extended work.cell with ⟨rest, extended⟩
        rw [← extended, List.getElem?_append_left reach] at found
        exact found
    have offer := offer.of_grows coherent.charted (List.mem_of_getElem? old) grows upTo
    by_cases now : e = work.cell ∧ j = work.index
    · rcases now with ⟨rfl, rfl⟩
      rw [current, Option.some.injEq] at old
      exact moves m (old ▸ offer)
    · have earlier : Behind work e j := by
        unfold Behind
        omega
      exact (settled.visited e j b earlier old m offer).mono grows

theorem Settled.advance (settled : p.Settled work) (done : work.current? = none) :
    p.Settled work.advance where
  seeds := settled.seeds
  visited e j b behind found := by
    refine settled.visited e j b ?_ found
    rw [work.current?_eq, List.getElem?_eq_none_iff] at done
    have inside : j < (work.chart.arcsIn e).length := (List.getElem?_eq_some_iff.mp found).1
    rcases behind with before | ⟨_, before⟩
    · rcases Nat.lt_or_eq_of_le (Nat.le_of_lt_succ before) with left | here
      · exact Or.inl left
      · subst here
        exact Or.inr ⟨rfl, Nat.lt_of_lt_of_le inside done⟩
    · exact absurd before (Nat.not_lt_zero _)

/-! ## Whole runs -/

/-- What holds at every point of a run. -/
theorem Reaches.invariant (reached : p.Reaches policy serial work) :
    work.Coherent p ∧ work.chart.policy = policy ∧ p.Settled work := by
  induction reached with
  | seeded run =>
      have seeded := Seeded.of_run run
      exact ⟨seeded.coherent, seeded.policy_eq, seeded.settled⟩
  | visited reached current run ih =>
      rcases ih with ⟨coherent, policyEq, settled⟩
      rcases exists_visit coherent current with
        ⟨work', run', coherent', grows, moves, cellEq, indexEq⟩
      rw [run, Except.ok.injEq] at run'
      subst run'
      exact ⟨coherent', grows.policy_eq.trans policyEq,
        settled.visit coherent current grows moves cellEq indexEq⟩
  | advanced reached done ih =>
      rcases ih with ⟨coherent, policyEq, settled⟩
      exact ⟨coherent.moved _ _, policyEq, settled.advance done⟩

theorem Reaches.coherent (reached : p.Reaches policy serial work) : work.Coherent p :=
  reached.invariant.1

theorem Reaches.length_eq (reached : p.Reaches policy serial work) :
    work.chart.length = p.tokens.length + 1 :=
  reached.coherent.charted.length_eq

/-- A walk through a cell that comes to an end has met no fault and stands
behind the last arc of the cell. -/
theorem Reaches.walkCell {σ : Type} {observe : Worklist → σ → σ} {seen : σ}
    {result : Except Fault (Worklist × σ)} (run : p.walkCell observe work seen = some result)
    (reached : p.Reaches policy serial work) :
    ∃ work' seen', result = .ok (work', seen') ∧ p.Reaches policy serial work' ∧
      work'.current? = none ∧ work'.cell = work.cell := by
  revert reached
  refine walkCell.partial_correctness p observe (fun work _ result =>
    p.Reaches policy serial work → ∃ work' seen', result = .ok (work', seen') ∧
      p.Reaches policy serial work' ∧ work'.current? = none ∧ work'.cell = work.cell)
    ?_ work seen result run
  intro approx ih work seen result run reached
  cases current : work.current? with
  | none =>
      simp only [current, Option.some.injEq] at run
      exact ⟨work, seen, run.symm, reached, current, rfl⟩
  | some a =>
      rcases exists_visit reached.coherent current with ⟨next, visited, _, _, _, cellEq, _⟩
      simp only [current, visited] at run
      rcases ih next _ result run (.visited reached current visited) with
        ⟨work', seen', equal, reached', done, cellEq'⟩
      exact ⟨work', seen', equal, reached', done, cellEq'.trans cellEq⟩

/-- A walk through all cells that comes to an end has met no fault and leaves
the cursor behind the last cell. -/
theorem Reaches.walk {σ : Type} {observe : Worklist → σ → σ} {cells : Nat} {seen : σ}
    {result : Except Fault (Worklist × σ)} (run : p.walk observe cells work seen = some result)
    (reached : p.Reaches policy serial work) :
    ∃ work' seen', result = .ok (work', seen') ∧ p.Reaches policy serial work' ∧
      work'.cell = work.cell + cells := by
  induction cells generalizing work seen with
  | zero =>
      simp only [Problem.walk, Option.some.injEq] at run
      exact ⟨work, seen, run.symm, reached, rfl⟩
  | succ cells ih =>
      cases walked : p.walkCell observe work seen with
      | none => simp [Problem.walk, walked] at run
      | some inner =>
          rcases reached.walkCell walked with
            ⟨middle, seenMiddle, equal, reachedMiddle, done, cellEq⟩
          subst equal
          simp only [Problem.walk, walked] at run
          rcases ih run (.advanced reachedMiddle done) with ⟨work', seen', equal, reached', cellEq'⟩
          refine ⟨work', seen', equal, reached', ?_⟩
          change work'.cell = middle.cell + 1 + cells at cellEq'
          omega

end Problem
end ParseForest
