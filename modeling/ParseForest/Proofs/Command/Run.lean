import ParseForest.Command.Run
import ParseForest.Proofs.Batch.Parsing
import ParseForest.Proofs.Output.Reports
import ParseForest.Proofs.Splitter.Sentences
import ParseForest.Proofs.Worklist.Watching

namespace ParseForest

/-!
# What the command that parses comes to

Before the first chunk is written, the command has its forests.  So a run either fails with
its output as it was, or it writes the reports on the sentences of its input and
ends as their course says.
-/

/-- If a batch has forests, they are those of its sentences. -/
theorem Parser.forall₂_of_parseBatch {parser : Parser} {start : Symbol} {jobs : Int}
    {cancelled : Bool} {sentences : List (List Text)} {forests : List (List Tree)}
    (ran : parser.parseBatch start jobs cancelled sentences = .ok forests) :
    List.Forall₂ (fun tokens trees => parser.parse start tokens = .ok trees) sentences forests := by
  rcases exists_afterAll?_parseBatch parser start jobs cancelled sentences with
    ⟨events, b, _, went, finished, outcome⟩
  have follows := Batch.Follows.of_afterAll? went (Batch.follows_start ..)
  by_cases saw : Batch.SawCancelled cancelled events
  · rw [outcome, follows.outcome_error saw] at ran
    cases ran
  · have all := collected_map parser start sentences
    rw [outcome, follows.outcome_ok finished saw] at ran
    rcases Except.mapM_cases (parser.parse start) sentences with
      ⟨_, _, _, _, failed⟩ | ⟨forests', parsed, each⟩
    · rw [failed] at all
      cases ran.symm.trans all
    · rw [parsed] at all
      cases ran.symm.trans all
      exact each

/-- From a symbol without rules nothing is parsed. -/
theorem Parser.Ends.parse_eq_nil {parser : Parser} {start : Symbol} {tokens : List Text}
    (ends : parser.Ends start tokens) (headless : ∀ r ∈ parser.grammar.rules, r.head ≠ start) :
    parser.parse start tokens = .ok [] := by
  rcases ends.parse_eq with ⟨chart, filled, parsed⟩
  rw [parsed]
  congr 1
  apply List.eq_nil_iff_forall_not_mem.mpr
  intro t member
  rcases Problem.mem_roots.mp member with ⟨a, inCell, _, built, head⟩
  have sound := filled.charted.sound inCell
  exact headless a.rule sound.rule_mem ((sound.builds built).applies.1.symm.trans head)

namespace Command

/-! ## Steps of a command -/

namespace Running

variable {ε α β : Type} (failure : ε → Failure)

@[simp]
theorem orFail_ok_bind (a : α) (next : α → Running β) :
    (orFail failure (.ok a) >>= next) = next a :=
  rfl

@[simp]
theorem orFail_error_bind (e : ε) (next : α → Running β) :
    (orFail failure (.error e) >>= next) = throw (failure e) :=
  rfl

end Running

/-- A run that writes at its end comes to what its writer comes to. -/
theorem Outcome.ofRun_write (explain : Failure → Text) {sink after : Sink}
    {command : Running Unit} {w : Writing Unit} {trace : Text} {reason : Option Text}
    (runs : command { output := sink } = Running.write w ⟨sink, trace⟩)
    (finished : w.finish sink = (reason, after)) :
    (ofRun explain sink command).failure = reason ∧
      (ofRun explain sink command).output = after := by
  unfold ofRun
  rw [runs, Running.write]
  unfold Writing.finish at finished
  cases ran : w sink with
  | ok done last =>
      cases done
      rw [ran] at finished
      cases finished
      exact ⟨rfl, rfl⟩
  | error reason last =>
      rw [ran] at finished
      cases finished
      exact ⟨rfl, rfl⟩

/-- Where nothing is refused, a run that writes at its end comes to what the course says. -/
theorem Outcome.ofRun_follow (explain : Failure → Text) {sink : Sink} (sound : sink.IsSound)
    {command : Running Unit} {c : Course} {trace : Text}
    (runs : command { output := sink } = Running.write (Writing.follow c) ⟨sink, trace⟩) :
    (ofRun explain sink command).failure = c.failure ∧
      (ofRun explain sink command).output = sink.accepting (c.chunks.map Chunk.text) :=
  ofRun_write explain runs (Writing.finish_of_isSound sound c)

namespace Job

variable {job : Job} {o : ParseOptions} {file : Option Text} {around : Surroundings}

/-- A job is made if everything that it needs is there. -/
theorem make_of_ok {d : Definition} {policy : Policy} {splitter : Splitter} {format : Format}
    {text : Text} (definition : loadDefinition around o.grammar o.nounAttachment = .ok d)
    (policyNamed : Policy.ofName o.policy = .ok policy)
    (separates : around.splitter o.separator = .ok splitter)
    (formatNamed : Format.ofName o.format = .ok format)
    (read : inputText around file = .ok text) :
    make o file around = .ok
      ⟨⟨d.grammar, policy⟩, startSymbol o.start d.start, splitter, format, text⟩ := by
  unfold make
  rw [definition, policyNamed, separates, formatNamed, read]
  rfl

/-- The sentences of the input: those of a batch, or the whole input as one. -/
def sentences (job : Job) (batch : Bool) : Except SplitError (List (List Text)) :=
  if batch then job.splitter.sentences job.input
  else (job.splitter.split job.input).map fun tokens => [tokens]

theorem single_of_error (job : Job) {e : SplitError} (failed : job.splitter.split job.input = .error e)
    (traced : Bool) : job.single traced = throw (.unsplittable e) := by
  unfold single
  rw [failed, Running.orFail_error_bind]

/-- A run for one sentence writes its report, and before that it can leave a trace. -/
theorem exists_single_eq (job : Job) {tokens : List Text} {trees : List Tree}
    (split : job.splitter.split job.input = .ok tokens)
    (parsed : job.parser.parse job.start tokens = .ok trees) (traced : Bool) :
    ∃ trace, ∀ sink, job.single traced { output := sink } =
      Running.write (Writing.follow (Report.course job.format tokens trees))
        { output := sink, trace := trace } := by
  rcases (Parser.Ends.of_parse parsed).exists_parseWatched with ⟨trees', parsed', watched⟩
  rw [parsed, Except.ok.injEq] at parsed'
  subst parsed'
  rcases watched { trace := if traced then some .sound else none } with ⟨seen, run⟩
  refine ⟨(seen.trace.map Sink.text).getD [], fun sink => ?_⟩
  unfold single
  simp only [split, run, Running.orFail_ok_bind, ← Report.write_eq]
  rfl

theorem batch_of_error {e : SplitError} (failed : job.splitter.sentences job.input = .error e)
    (jobs : Int) (cancelled : Bool) : job.batch jobs cancelled = throw (.unsplittable e) := by
  unfold batch
  rw [failed, Running.orFail_error_bind]

/-- A batch that is not cancelled writes the reports on all sentences. -/
theorem batch_eq {sentences : List (List Text)} {forests : List (List Tree)}
    (found : job.splitter.sentences job.input = .ok sentences)
    (parsed : List.Forall₂ (fun tokens trees => job.parser.parse job.start tokens = .ok trees)
      sentences forests) (jobs : Int) :
    job.batch jobs false =
      Running.write (Writing.follow (course job.format (sentences.zip forests))) := by
  have all : sentences.mapM (job.parser.parse job.start) = .ok forests :=
    Except.mapM_of_forall₂ parsed
  unfold batch
  rw [found, Running.orFail_ok_bind, Parser.parseBatch_of_going, all, ← writeReports_eq]
  rfl

end Job

variable {o : ParseOptions} {file : Option Text} {around : Surroundings} {job : Job}

theorem runParse_eq (made : Job.make o file around = .ok job)
    (possible : (o.trace && o.batch) = false) :
    runParse o file around =
      if o.batch then job.batch o.jobs around.cancelled else job.single o.trace := by
  unfold runParse
  rw [made, possible]
  rfl

/-- Before a run for sentences writes anything, it has forests for all of them, and then
nothing can keep it from writing their reports.  A run that does not get so far leaves its
output as it was, wherever that goes. -/
theorem runParse_cases (o : ParseOptions) (file : Option Text) (around : Surroundings) :
    (∃ f, ∀ sink, runParse o file around { output := sink } = .error f { output := sink }) ∨
      ∃ job sentences forests, Job.make o file around = .ok job ∧
        job.sentences o.batch = .ok sentences ∧
        List.Forall₂ (fun tokens trees => job.parser.parse job.start tokens = .ok trees)
          sentences forests ∧
        ∃ trace, ∀ sink, runParse o file around { output := sink } =
          Running.write (Writing.follow (Job.course job.format (sentences.zip forests)))
            { output := sink, trace := trace } := by
  by_cases possible : (o.trace && o.batch) = true
  · refine Or.inl ⟨.traceOfBatch, fun sink => ?_⟩
    unfold runParse
    rw [possible]
    rfl
  have possible : (o.trace && o.batch) = false := Bool.eq_false_iff.mpr possible
  cases made : Job.make o file around with
  | error f =>
      refine Or.inl ⟨f, fun sink => ?_⟩
      unfold runParse
      rw [made, possible]
      rfl
  | ok job =>
      rw [runParse_eq made possible]
      unfold Job.sentences
      cases mode : o.batch with
      | true =>
          simp only [if_true]
          cases found : job.splitter.sentences job.input with
          | error e =>
              rw [Job.batch_of_error found]
              exact Or.inl ⟨.unsplittable e, fun _ => rfl⟩
          | ok sentences =>
              cases parsed : job.parser.parseBatch job.start o.jobs around.cancelled sentences with
              | error e =>
                  refine Or.inl ⟨.badBatch e, fun _ => ?_⟩
                  unfold Job.batch
                  rw [found, Running.orFail_ok_bind, parsed]
                  rfl
              | ok forests =>
                  refine Or.inr ⟨job, sentences, forests, rfl, found,
                    Parser.forall₂_of_parseBatch parsed, [], fun _ => ?_⟩
                  unfold Job.batch
                  rw [found, Running.orFail_ok_bind, parsed, ← Job.writeReports_eq]
                  rfl
      | false =>
          simp only [Bool.false_eq_true, if_false]
          cases split : job.splitter.split job.input with
          | error e =>
              rw [job.single_of_error split]
              exact Or.inl ⟨.unsplittable e, fun _ => rfl⟩
          | ok tokens =>
              cases watched : job.parser.parseWatched job.start tokens
                  { trace := if o.trace then some .sound else none } with
              | error fault =>
                  refine Or.inl ⟨.fault fault, fun _ => ?_⟩
                  unfold Job.single
                  rw [split, Running.orFail_ok_bind, watched]
                  rfl
              | ok result =>
                  rcases result with ⟨trees, seen⟩
                  have parsed := Parser.parse_of_parseWatched watched
                  rcases job.exists_single_eq split parsed o.trace with ⟨trace, run⟩
                  refine Or.inr ⟨job, [tokens], [trees], rfl, ?_, .cons parsed .nil, trace, run⟩
                  rw [split]
                  rfl

/-- A run for sentences either fails and leaves its output as it was, or comes to what the
course of the reports says. -/
theorem Request.run_parse_cases (o : ParseOptions) (file : Option Text) (around : Surroundings) :
    (∀ sink, ((Request.parse o file).run { around with output := sink }).failure ≠ none ∧
      ((Request.parse o file).run { around with output := sink }).output = sink) ∨
    ∃ job sentences forests, Job.make o file around = .ok job ∧
      job.sentences o.batch = .ok sentences ∧
      List.Forall₂ (fun tokens trees => job.parser.parse job.start tokens = .ok trees)
        sentences forests ∧
      ∀ sink, (((Request.parse o file).run { around with output := sink }).failure,
          ((Request.parse o file).run { around with output := sink }).output) =
        (Writing.follow (Job.course job.format (sentences.zip forests))).finish sink := by
  rcases runParse_cases o file around with ⟨f, fails⟩ |
    ⟨job, sentences, forests, made, found, parsed, trace, writes⟩
  · refine Or.inl fun sink => ?_
    change (Outcome.ofRun _ _ (runParse o file around)).failure ≠ none ∧
      (Outcome.ofRun _ _ (runParse o file around)).output = sink
    unfold Outcome.ofRun
    rw [fails sink]
    exact ⟨Option.some_ne_none _, rfl⟩
  · refine Or.inr ⟨job, sentences, forests, made, found, parsed, fun sink => ?_⟩
    rcases finished : (Writing.follow (Job.course job.format (sentences.zip forests))).finish sink
      with ⟨reason, after⟩
    rcases Outcome.ofRun_write Failure.report (writes sink) finished with
      ⟨failure, output⟩
    exact Prod.ext failure output

end Command
end ParseForest
