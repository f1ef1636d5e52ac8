import ParseForest.Grammar.English
import ParseForest.Proofs.Batch.Schedule

namespace ParseForest

/-!
# Parsing batches

Sentences are parsed by workers one after the other, which is one of the orders
that a batch can go through.  So what holds of every schedule holds of the
batches that are parsed, and the forests come in the order of the sentences.
-/

namespace Batch

variable {α β : Type} {b b' : Batch α β} {event : Event}

/-! ## Worker after worker -/

theorem exists_afterAll?_runAll (b : Batch α β) (events : List Event) :
    ∃ possible, possible.Sublist events ∧ b.afterAll? possible = some (b.runAll events) := by
  induction events generalizing b with
  | nil => exact ⟨[], List.Sublist.slnil, rfl⟩
  | cons event events ih =>
      change ∃ possible, _ ∧ _ = some (((b.after? event).getD b).runAll events)
      cases next : b.after? event with
      | none =>
          rcases ih b with ⟨possible, among, ran⟩
          exact ⟨possible, among.cons _, ran⟩
      | some b' =>
          rcases ih b' with ⟨possible, among, ran⟩
          refine ⟨event :: possible, among.cons_cons _, ?_⟩
          unfold afterAll?
          rw [List.foldlM_cons, next]
          exact ran

theorem runAll_cons (next : b.after? event = some b') (events : List Event) :
    b.runAll (event :: events) = b'.runAll events := by
  unfold runAll
  rw [List.foldl_cons, next]
  rfl

/-- The workers before this one have ended and the others are waiting. -/
def IsAt (b : Batch α β) (worker : Nat) : Prop :=
  ∀ i s, b.stages[i]? = some s → if i < worker then s.isOver = true else s = .waiting

/-- When its turn comes, a worker goes from its launch to its end. -/
theorem IsAt.stages_turn {worker : Nat} {item : α} (turn : b.IsAt worker) (room : 0 < b.limit)
    (found : b.items[worker]? = some item) (inside : worker < b.stages.length) :
    ∃ s : Stage, s.isOver = true ∧
      (b.runAll [.launch, .look worker, .store worker]).stages = b.stages.set worker s := by
  have waits : b.stages[worker] = .waiting := by
    have stage := turn worker _ (List.getElem?_eq_getElem inside)
    rwa [if_neg (Nat.lt_irrefl worker)] at stage
  have idle : b.busy = 0 := by
    refine List.countP_eq_zero.mpr fun s member isBusy => ?_
    rcases List.mem_iff_getElem?.mp member with ⟨i, at_i⟩
    have stage := turn i s at_i
    split at stage
    · rw [Stage.isBusy_of_isOver stage] at isBusy
      cases isBusy
    · rw [stage] at isBusy
      cases isBusy
  have next : b.stages.idxOf? .waiting = some worker := by
    refine List.idxOf?_eq_some_iff.mpr ⟨inside, waits, fun i before other => ?_⟩
    have stage := turn i _ (List.getElem?_eq_getElem (Nat.lt_trans before inside))
    rw [if_pos before, other] at stage
    cases stage
  have launch : b.after? .launch = some (b.setStage worker .launched) := by
    simp only [after?, next, idle, if_pos room]
  have looks : (b.setStage worker .launched).stages[worker]? = some .launched := by
    simp [setStage, inside]
  cases cancelled : b.cancelled with
  | true =>
      refine ⟨.refused, rfl, ?_⟩
      have look : (b.setStage worker .launched).after? (.look worker) =
          some (b.setStage worker .refused) := by
        simp only [after?, if_pos looks]
        simp [setStage, cancelled]
      have store : (b.setStage worker .refused).after? (.store worker) = none := by
        simp [after?, setStage, found, inside]
      rw [runAll_cons launch, runAll_cons look]
      change (((b.setStage worker .refused).after? (.store worker)).getD
        (b.setStage worker .refused)).stages = _
      rw [store]
      rfl
  | false =>
      refine ⟨.stored, rfl, ?_⟩
      have look : (b.setStage worker .launched).after? (.look worker) =
          some (b.setStage worker .working) := by
        simp only [after?, if_pos looks]
        simp [setStage, cancelled]
      rw [runAll_cons launch, runAll_cons look]
      simp [runAll, after?, setStage, found, inside]

theorem IsAt.step {worker : Nat} {s : Stage} (turn : b.IsAt worker)
    (ended : s.isOver = true) (changed : b'.stages = b.stages.set worker s) :
    b'.IsAt (worker + 1) := by
  intro i s' at_i
  rw [changed, List.getElem?_set] at at_i
  by_cases same : worker = i
  · subst same
    rw [if_pos rfl] at at_i
    rw [if_pos (Nat.lt_succ_self worker)]
    split at at_i
    · cases at_i
      exact ended
    · cases at_i
  · rw [if_neg same] at at_i
    have stage := turn i s' at_i
    split at stage
    · rw [if_pos (by omega)]
      exact stage
    · rw [if_neg (by omega)]
      exact stage

theorem isAt_runAll (work : α → β) (jobs : Int) (cancelled : Bool) (items : List α) {count : Nat}
    (most : count ≤ items.length) :
    ((start work jobs cancelled items).runAll (schedule count)).IsAt count := by
  induction count with
  | zero =>
      intro i s at_i
      rcases List.getElem?_eq_some_iff.mp at_i with ⟨inside, rfl⟩
      simp [runAll, schedule, start]
  | succ count ih =>
      have turn := ih (by omega)
      rcases exists_afterAll?_runAll (start work jobs cancelled items) (schedule count)
        with ⟨possible, _, ran⟩
      have follows := Follows.of_afterAll? ran (follows_start work jobs cancelled items)
      have found : (start work jobs cancelled items).items[count]? = some items[count] :=
        List.getElem?_eq_getElem most
      rw [← follows.items_eq] at found
      have inside := (List.getElem?_eq_some_iff.mp found).1
      rw [← follows.stages_length] at inside
      have room : 0 < ((start work jobs cancelled items).runAll (schedule count)).limit := by
        rw [follows.limit_eq]
        change 0 < (max jobs 1).toNat
        omega
      rcases turn.stages_turn room found inside with ⟨s, ended, changed⟩
      refine turn.step ended ?_
      rw [← changed]
      simp [schedule, runAll, List.range_succ, List.flatMap_append]

theorem isOver_runAll (work : α → β) (jobs : Int) (cancelled : Bool) (items : List α) :
    ((start work jobs cancelled items).runAll (schedule items.length)).IsOver := by
  rcases exists_afterAll?_runAll (start work jobs cancelled items) (schedule items.length)
    with ⟨possible, _, ran⟩
  have follows := Follows.of_afterAll? ran (follows_start work jobs cancelled items)
  intro s member
  rcases List.mem_iff_getElem?.mp member with ⟨i, at_i⟩
  have stage := isAt_runAll work jobs cancelled items (Nat.le_refl _) i s at_i
  have inside := (List.getElem?_eq_some_iff.mp at_i).1
  rw [follows.stages_length, follows.items_eq] at inside
  rwa [if_pos (show i < items.length from inside)] at stage

end Batch

namespace Parser

open Batch (SawCancelled)

variable {events : List Batch.Event} {b : Batch (List Text) (Except Fault (List Tree))}

/-- The forests that a batch of sentences came to. -/
def collected (outcome : Except Cancelled (List (Option (Except Fault (List Tree))))) :
    Except BatchError (List (List Tree)) :=
  match outcome with
  | .error _ => .error .cancelled
  | .ok results =>
    match results.mapM (fun result => result.getD (.ok [])) with
    | .error fault => .error (.fault fault)
    | .ok forests => .ok forests

theorem collected_map (parser : Parser) (start : Symbol) (sentences : List (List Text)) :
    collected (.ok (sentences.map fun tokens => some (parser.parse start tokens))) =
      (sentences.mapM (parser.parse start)).mapError .fault := by
  have same : (fun result => result.getD (.ok [])) ∘
      (fun tokens => some (parser.parse start tokens)) = parser.parse start := rfl
  simp only [collected, List.mapM_map, same]
  cases sentences.mapM (parser.parse start) <;> rfl

/-- The order in which sentences are parsed is one of those in which workers can
proceed to their ends. -/
theorem exists_afterAll?_parseBatch (parser : Parser) (start : Symbol) (jobs : Int)
    (cancelled : Bool) (sentences : List (List Text)) :
    ∃ events b, .cancel ∉ events ∧
      (Batch.start (parser.parse start) jobs cancelled sentences).afterAll? events = some b ∧
      b.IsOver ∧ parser.parseBatch start jobs cancelled sentences = collected b.outcome := by
  rcases Batch.exists_afterAll?_runAll (Batch.start (parser.parse start) jobs cancelled sentences)
    (Batch.schedule sentences.length) with ⟨events, among, ran⟩
  refine ⟨events, _, fun outside => ?_, ran, Batch.isOver_runAll _ _ _ _, rfl⟩
  have scheduled := among.subset outside
  simp [Batch.schedule] at scheduled

theorem parseBatch_of_going (parser : Parser) (start : Symbol) (jobs : Int)
    (sentences : List (List Text)) :
    parser.parseBatch start jobs false sentences =
      (sentences.mapM (parser.parse start)).mapError .fault := by
  rcases exists_afterAll?_parseBatch parser start jobs false sentences with
    ⟨events, b, inner, ran, finished, outcome⟩
  have follows := Batch.Follows.of_afterAll? ran (Batch.follows_start ..)
  have saw : ¬ SawCancelled false events := by
    rintro ⟨before, worker, reach, early | early⟩
    · cases early
    · exact inner (reach.subset (List.mem_append_left _ early))
  rw [outcome, follows.outcome_ok finished saw]
  exact collected_map parser start sentences

/-- The order in which sentences are parsed makes no difference: any other order in which
all workers come to their ends gives the same forests, unless one of them has seen that the
batch was cancelled. -/
theorem collected_eq_parseBatch {parser : Parser} {start : Symbol} {jobs : Int} {cancelled : Bool}
    {sentences : List (List Text)}
    (ran : (Batch.start (parser.parse start) jobs cancelled sentences).afterAll? events = some b)
    (finished : b.IsOver) (saw : ¬ SawCancelled cancelled events) :
    collected b.outcome = parser.parseBatch start jobs false sentences := by
  have follows := Batch.Follows.of_afterAll? ran (Batch.follows_start ..)
  rw [parseBatch_of_going, follows.outcome_ok finished saw]
  exact collected_map parser start sentences

/-- Whatever the workers do and in whatever order, at most as many of them are busy as
are allowed, and they can come to their ends.  When all have, there are forests for all
sentences, in their order, or none.  There are none exactly if a worker has seen that
the batch was cancelled. -/
theorem batch_in_any_order (parser : Parser) (start : Symbol) (jobs : Int) (cancelled : Bool)
    (sentences : List (List Text))
    (ran : (Batch.start (parser.parse start) jobs cancelled sentences).afterAll? events = some b) :
    b.busy ≤ (max jobs 1).toNat ∧
      events.countP (!·.isCancel) ≤ 3 * sentences.length ∧
      (∃ more last, b.afterAll? more = some last ∧ last.IsOver) ∧
      (b.IsOver →
        (collected b.outcome = .error .cancelled ↔ SawCancelled cancelled events) ∧
        (¬ SawCancelled cancelled events →
          b.outcome = .ok (sentences.map fun tokens => some (parser.parse start tokens)) ∧
          collected b.outcome = (sentences.mapM (parser.parse start)).mapError .fault)) ∧
      (SawCancelled cancelled events →
        sentences ≠ [] ∧ (cancelled = true ∨ .cancel ∈ events)) := by
  have follows := Batch.Follows.of_afterAll? ran (Batch.follows_start ..)
  have room : 0 < (max jobs 1).toNat := by omega
  have outcome (finished : b.IsOver) (saw : ¬ SawCancelled cancelled events) :
      b.outcome = .ok (sentences.map fun tokens => some (parser.parse start tokens)) :=
    follows.outcome_ok finished saw
  have forests (finished : b.IsOver) (saw : ¬ SawCancelled cancelled events) :
      collected b.outcome = (sentences.mapM (parser.parse start)).mapError .fault := by
    rw [outcome finished saw]
    exact collected_map parser start sentences
  refine ⟨?_, ?_, follows.exists_over room, fun finished =>
    ⟨⟨fun failed => ?_, fun saw => ?_⟩, fun saw => ⟨outcome finished saw, forests finished saw⟩⟩,
    fun saw => ⟨?_, ?_⟩⟩
  · have most := follows.busy_le
    rwa [follows.limit_eq] at most
  · have most := follows.progress_le
    rwa [follows.progress_eq] at most
  · by_contra saw
    rw [forests finished saw] at failed
    cases parsed : sentences.mapM (parser.parse start) <;> rw [parsed] at failed <;> cases failed
  · rw [follows.outcome_error saw]
    rfl
  · rintro rfl
    have refused := follows.refused_iff.mpr saw
    have none : b.stages = [] := by
      rw [← List.length_eq_zero_iff, follows.stages_length, follows.items_eq]
      rfl
    rw [none] at refused
    cases refused
  · rcases saw with ⟨before, worker, reach, early | early⟩
    · exact Or.inl early
    · exact Or.inr (reach.subset (List.mem_append_left _ early))

/-- Two noun phrases, one worker at a time, and a cancellation before the second. -/
def interrupted : Batch (List Text) (Except Fault (List Tree)) where
  work := (Parser.mk Grammar.english.grammar .span).parse (.nonterminal "np")
  limit := 1
  items := [["the", "boy"], ["a", "dog"]]
  stages := [.stored, .refused]
  results :=
    [some ((Parser.mk Grammar.english.grammar .span).parse (.nonterminal "np") ["the", "boy"]),
      none]
  cancelled := true

theorem batch_in_any_order_interrupted :
    (Batch.start ((Parser.mk Grammar.english.grammar .span).parse (.nonterminal "np")) 0 false
        [["the", "boy"], ["a", "dog"]]).afterAll?
        [.launch, .look 0, .cancel, .store 0, .launch, .look 1] = some interrupted ∧
      interrupted.busy ≤ 1 ∧ collected interrupted.outcome = .error .cancelled := by
  have ran : (Batch.start ((Parser.mk Grammar.english.grammar .span).parse (.nonterminal "np")) 0
      false [["the", "boy"], ["a", "dog"]]).afterAll?
      [.launch, .look 0, .cancel, .store 0, .launch, .look 1] = some interrupted := rfl
  have facts := batch_in_any_order _ _ _ _ _ ran
  have saw : SawCancelled false [.launch, .look 0, .cancel, .store 0, .launch, .look 1] :=
    ⟨[.launch, .look 0, .cancel, .store 0, .launch], 1, List.prefix_refl _, Or.inr (by simp)⟩
  exact ⟨ran, facts.1, (facts.2.2.2.1 (by decide)).1.mpr saw⟩

end Parser
end ParseForest
