import Mathlib
import ParseForest.Proofs.Command.Rows
import ParseForest.Proofs.Worklist.Termination

namespace ParseForest

/-!
# What reaches the output when a run fails

The command that parses has its forests before it writes the first chunk.  Whatever goes
wrong until then, the output is as it was before.  From then on the run fails only if a
chunk is refused or a tree is too deep for its format.  In a batch every chunk but
the empty lines between reports ends the run if it is refused, and then the
output has the chunks before it.  A refused empty line is missing from the output and
nothing else shows it.
-/

namespace Command

variable {o : ParseOptions} {file : Option Text} {around : Surroundings} {arguments : List Text}

/-! ## One refused write in a batch -/

theorem run_of_read (read : Request.read arguments = .ok (.parse o file))
    (around : Surroundings) :
    run arguments around = (Request.parse o file).run around := by
  rw [run, read]

/-- Where a batch writes to a sink that refuses nothing, it writes the chunks of the
reports on its sentences.  Where one of them is refused, the run fails with the
reason, and the chunks before it are written; but an empty line between
reports is left out, and the run goes on and ends as if nothing had
been refused. -/
theorem batch_refused_write (arguments : List Text) (around : Surroundings) {o : ParseOptions}
    {file : Option Text} (read : Request.read arguments = .ok (.parse o file))
    (batch : o.batch = true)
    (clean : (run arguments { around with output := .sound }).failure = none) :
    ∃ job sentences forests, Job.make o file around = .ok job ∧
      job.splitter.sentences job.input = .ok sentences ∧
      List.Forall₂ (fun tokens trees => job.parser.parse job.start tokens = .ok trees)
        sentences forests ∧
      let chunks := Job.chunks job.format (sentences.zip forests)
      let writes := (run arguments { around with output := .sound }).output.taken.reverse
      writes = chunks.map Chunk.text ∧
      ∀ k < writes.length, ∀ reason,
        let outcome := run arguments { around with output := .refusing k reason }
        (chunks[k]? ≠ some Job.emptyLine →
          (∃ context, outcome.failure = some (context ++ reason)) ∧
          outcome.output.text = (writes.take k).flatten) ∧
        (chunks[k]? = some Job.emptyLine → outcome.failure = none ∧
          outcome.output.text = (writes.eraseIdx k).flatten) := by
  simp only [run_of_read read] at clean ⊢
  rcases Request.run_parse_cases o file around with fails |
    ⟨job, sentences, forests, made, found, parsed, outcome⟩
  · exact absurd clean (fails .sound).1
  have sound := outcome .sound
  rw [Writing.finish_of_isSound Sink.isSound_sound, Prod.mk.injEq] at sound
  have ends : (Job.course job.format (sentences.zip forests)).failure = none :=
    sound.1.symm.trans clean
  have writes : ((Request.parse o file).run { around with output := .sound }).output.taken.reverse =
      (Job.chunks job.format (sentences.zip forests)).map Chunk.text := by
    rw [sound.2]
    simp [Sink.accepting, Sink.sound, Job.chunks]
  rw [Job.sentences, if_pos batch] at found
  refine ⟨job, sentences, forests, made, found, parsed, writes, fun k inside reason => ?_⟩
  rw [writes, List.length_map] at inside
  have entry := List.getElem?_eq_getElem inside
  have refused := outcome (.refusing k reason)
  rw [writes]
  constructor
  · intro other
    have other : (Job.chunks job.format (sentences.zip forests))[k] ≠ Job.emptyLine :=
      fun line => other (entry.trans (congrArg some line))
    rcases Job.exists_context (List.getElem_mem inside) other with ⟨context, stops⟩
    rcases Writing.finish_refusing_of_context entry stops reason with ⟨sink, finished, text⟩
    rw [finished, Prod.mk.injEq] at refused
    exact ⟨⟨context, refused.1⟩, by rw [refused.2, text]; rfl⟩
  · intro line
    rcases Writing.finish_refusing_of_silent line rfl reason with ⟨sink, finished, text⟩
    rw [finished, Prod.mk.injEq, ends] at refused
    exact ⟨refused.1, by rw [refused.2, text]; rfl⟩

/-- The splitter at each space. -/
def eachSpace : Splitter :=
  ⟨(Pattern.Program.ofPattern (.group (some 0) none (.single {} (.is ' '.toNat))) {}).allMatches⟩

/-- Two sentences, to be parsed from a symbol without rules. -/
def unparsedArguments : List Text :=
  ["parse", "--batch", "--separator", " ", "--start", "x"]

def unparsedAround : Surroundings where
  entry := fun _ => .unavailable []
  input := .ok "a\n\nb"

def unparsedOptions : ParseOptions where
  start := "x"
  separator := " "
  batch := true

def unparsedJob : Job where
  parser := ⟨Grammar.english.grammar, .span⟩
  start := .nonterminal "x"
  splitter := eachSpace
  format := .indented
  input := "a\n\nb"

theorem read_unparsed : Request.read unparsedArguments = .ok (.parse unparsedOptions none) := by
  rfl

theorem make_unparsed (input : Text) :
    Job.make unparsedOptions none { unparsedAround with input := .ok input } =
      .ok { unparsedJob with input := input } := by
  have separates : Splitter.make " " = .ok eachSpace := by cbv
  exact Job.make_of_ok rfl rfl separates rfl rfl

theorem sentences_unparsed : eachSpace.sentences "a\n\nb" = .ok [["a"], ["b"]] := by
  have cuts : Splitter.cut Splitter.blankLines "a\n\nb" = .ok ["a", "b"] := by cbv
  have first : eachSpace.split "a" = .ok ["a"] := by cbv
  have second : eachSpace.split "b" = .ok ["b"] := by cbv
  exact Splitter.sentences_of_forall₂ cuts (.cons first (.cons second .nil)) (by decide)

theorem runParse_unparsed : runParse unparsedOptions none unparsedAround =
    Running.write (Job.writeReports .indented [(["a"], []), (["b"], [])]) := by
  have acyclic : Grammar.english.grammar.UnaryAcyclic :=
    Grammar.unaryAcyclic_of_rank (fun _ => 0) (by decide)
  have headless : ∀ r ∈ Grammar.english.grammar.rules, r.head ≠ .nonterminal "x" := by decide
  have first : unparsedJob.parser.parse unparsedJob.start ["a"] = .ok [] :=
    (Parser.ends_of_acyclic acyclic _ (by decide)).parse_eq_nil headless
  have second : unparsedJob.parser.parse unparsedJob.start ["b"] = .ok [] :=
    (Parser.ends_of_acyclic acyclic _ (by decide)).parse_eq_nil headless
  have made : Job.make unparsedOptions none unparsedAround = .ok unparsedJob :=
    make_unparsed "a\n\nb"
  rw [runParse_eq made rfl, Job.writeReports_eq]
  exact Job.batch_eq sentences_unparsed (.cons first (.cons second .nil)) 1

theorem run_unparsed (sink : Sink) :
    run unparsedArguments { unparsedAround with output := sink } =
      .ofRun Failure.report sink
        (Running.write (Job.writeReports .indented [(["a"], []), (["b"], [])])) := by
  rw [← runParse_unparsed, run_of_read read_unparsed]
  rfl

theorem clean_unparsed :
    (run unparsedArguments { unparsedAround with output := .sound }).failure = none := by
  rw [run_unparsed]
  rfl

theorem writes_unparsed :
    (run unparsedArguments { unparsedAround with output := .sound }).output.taken.reverse =
      ["Input: a\n", "# parses: 0\n", "\n", "Input: b\n", "# parses: 0\n"] := by
  rw [run_unparsed]
  cbv

/-- A refused empty line is not reported, and the reports go on behind it. -/
theorem batch_hides_refused_line :
    (run unparsedArguments { unparsedAround with output := .sound }).failure = none ∧
      (run unparsedArguments { unparsedAround with output := .sound }).output.taken.reverse =
        ["Input: a\n", "# parses: 0\n", "\n", "Input: b\n", "# parses: 0\n"] ∧
      let outcome := run unparsedArguments
        { unparsedAround with output := .refusing 2 "write refused" }
      outcome.failure = none ∧
        outcome.output.text = "Input: a\n# parses: 0\nInput: b\n# parses: 0\n" := by
  refine ⟨clean_unparsed, writes_unparsed, ?_, ?_⟩
  · rw [run_unparsed]
    rfl
  · rw [run_unparsed]
    cbv

/-- Any other refused chunk is reported, and nothing is written behind it. -/
theorem batch_refused_write_unparsed :
    Request.read unparsedArguments = .ok (.parse unparsedOptions none) ∧
      unparsedOptions.batch = true ∧
      (run unparsedArguments { unparsedAround with output := .sound }).failure = none ∧
      let outcome := run unparsedArguments
        { unparsedAround with output := .refusing 3 "write refused" }
      (∃ context : Text, outcome.failure = some (context ++ "write refused")) ∧
        outcome.output.text = "Input: a\n# parses: 0\n\n" := by
  rcases batch_refused_write unparsedArguments unparsedAround read_unparsed rfl clean_unparsed with
    ⟨job, sentences, forests, _, _, _, writes, refused⟩
  rw [writes_unparsed] at writes
  have inside : 3 < (run unparsedArguments { unparsedAround with
      output := .sound }).output.taken.reverse.length := by
    rw [writes_unparsed]
    decide
  have other : (Job.chunks job.format (sentences.zip forests))[3]? ≠ some Job.emptyLine := by
    intro line
    have fourth := congrArg (·[3]?) writes
    simp only [List.getElem?_map, line, Option.map_some] at fourth
    exact absurd fourth (by decide)
  rcases (refused 3 inside "write refused").1 other with ⟨failure, text⟩
  rw [writes_unparsed] at text
  exact ⟨read_unparsed, rfl, clean_unparsed, failure, text⟩

/-! ## All or nothing -/

/-- What arguments to the command that parses can come to. -/
theorem Request.ofParse_cases (arguments : List Text) :
    (∃ e, ofParse arguments = .error (.badFlags .parse e)) ∨
    (∃ received, ofParse arguments = .error (.tooManyWords .parse received)) ∨
    ofParse arguments = .ok (.help .parse) ∨
    ∃ o file, ofParse arguments = .ok (.parse o file) := by
  unfold ofParse options
  cases Flag.readAll ParseOptions.flags {} arguments with
  | error e => exact Or.inl ⟨e, rfl⟩
  | ok found =>
      rcases found with ⟨o, words⟩
      simp only [Except.mapError, bind, Except.bind]
      cases o.help with
      | true => exact Or.inr (Or.inr (Or.inl rfl))
      | false =>
          rcases words with _ | ⟨file, _ | ⟨second, others⟩⟩
          · exact Or.inr (Or.inr (Or.inr ⟨o, none, rfl⟩))
          · exact Or.inr (Or.inr (Or.inr ⟨o, some file, rfl⟩))
          · exact Or.inr (Or.inl ⟨_, rfl⟩)

theorem Request.read_eq_ofParse (selected : (locate arguments).1 = .parse) :
    read arguments = ofParse (locate arguments).2 := by
  unfold read
  rcases found : locate arguments with ⟨c, left⟩
  rw [found] at selected
  simp only at selected
  rw [selected]

/-- The command that parses fails before it writes anything, as long as nothing that it
writes is refused; but a tree that is too deep for JSON it finds only when it comes to write
it.  Then it has written the chunks before this tree and nothing else. -/
theorem parse_all_or_nothing (arguments : List Text) (around : Surroundings)
    (selected : (locate arguments).1 = .parse)
    (unrefused : (run arguments around).output.losses = around.output.losses)
    (failed : (run arguments around).failure.isSome = true) :
    (run arguments around).output = around.output ∨
      ∃ o file job sentences forests, Request.read arguments = .ok (.parse o file) ∧
        Job.make o file around = .ok job ∧ job.format = .json ∧
        job.sentences o.batch = .ok sentences ∧
        List.Forall₂ (fun tokens trees => job.parser.parse job.start tokens = .ok trees)
          sentences forests ∧
        (∃ trees ∈ forests, ∃ t ∈ trees, Tree.jsonDepthLimit < t.jsonDepth) ∧
        (run arguments around).failure = some ("encode: exceeded max depth" : Text) ∧
        (run arguments around).output = around.output.accepting
          ((Job.chunks job.format (sentences.zip forests)).map Chunk.text) := by
  rcases Option.isSome_iff_exists.mp failed with ⟨reason, failed⟩
  unfold run at *
  rw [Request.read_eq_ofParse selected] at *
  rcases Request.ofParse_cases (locate arguments).2 with
    ⟨e, read⟩ | ⟨received, read⟩ | read | ⟨o, file, read⟩
  · rw [read]
    exact Or.inl rfl
  · rw [read]
    exact Or.inl rfl
  · rcases Writing.exists_finish_offer Command.parse.helpText around.output with ⟨_, finished⟩
    rw [read] at failed
    change (Outcome.ofRun _ _ _).failure = _ at failed
    rw [(Outcome.ofRun_write Failure.report rfl finished).1] at failed
    cases failed
  · rw [read] at unrefused failed ⊢
    rcases Request.run_parse_cases o file around with fails |
      ⟨job, sentences, forests, made, found, parsed, outcome⟩
    · exact Or.inl (fails around.output).2
    · have ended := outcome around.output
      have lossless : ((Writing.follow (Job.course job.format (sentences.zip forests))).finish
          around.output).2.losses = around.output.losses := by
        rw [← ended]
        exact unrefused
      rw [Writing.finish_of_losses_eq _ lossless, Prod.mk.injEq] at ended
      have reason_eq := ended.1.symm.trans failed
      rcases Job.failure_eq_some reason_eq with ⟨json, ⟨report, member, deep⟩, rfl⟩
      exact Or.inr ⟨o, file, job, sentences, forests, rfl, made, json, found, parsed,
        ⟨report.2, (List.of_mem_zip member).2, deep⟩, failed, ended.2⟩

/-- A row that is too long for JSON is found to be so only behind two lines of output. -/
theorem parse_fails_row :
    let arguments : List Text := ["parse", "-f", "json", "-g", "g"]
    let outcome := run arguments (growingAround (rowText 5001))
    Request.read arguments = .ok (.parse growingOptions none) ∧ outcome.output.losses = 0 ∧
      outcome.failure = some ("encode: exceeded max depth" : Text) ∧
      outcome.output.text =
        "Input: " ++ Text.spaced (Parser.row 5001) ++ "\n" ++ "# parses: 1\n" := by
  have read : Request.read ["parse", "-f", "json", "-g", "g"] =
      .ok (.parse growingOptions none) := by rfl
  have long := Nat.le_refl 5001
  rcases exists_single_row long (by decide) with ⟨trace, single⟩
  have command : runParse growingOptions none (growingAround (rowText 5001)) =
      (growingJob (rowText 5001)).single false := runParse_eq (make_growing false _) rfl
  rcases Outcome.ofRun_follow Failure.report Sink.isSound_sound (single .sound) with
    ⟨failure, output⟩
  intro arguments outcome
  have ended : outcome = .ofRun Failure.report .sound
      ((growingJob (rowText 5001)).single false) := by
    rw [← command]
    exact run_of_read read _
  rw [ended, failure, output, ← Report.text_rowCourse, Sink.text_accepting, Sink.losses_accepting]
  exact ⟨read, rfl, rfl, rfl⟩

/-- A batch that cannot be split, where the first chunk would be refused. -/
def illegibleAround : Surroundings :=
  { unparsedAround with input := .ok [0x61, 0xFF], output := .refusing 0 "write refused" }

theorem parse_all_or_nothing_illegible :
    (locate unparsedArguments).1 = .parse ∧
      (run unparsedArguments illegibleAround).output.losses = illegibleAround.output.losses ∧
      (run unparsedArguments illegibleAround).failure.isSome = true ∧
      (run unparsedArguments illegibleAround).output = illegibleAround.output := by
  have illegible : eachSpace.sentences [0x61, 0xFF] = .error .notUtf8 := by cbv
  have made : Job.make unparsedOptions none illegibleAround =
      .ok { unparsedJob with input := [0x61, 0xFF] } := make_unparsed [0x61, 0xFF]
  have fails : runParse unparsedOptions none illegibleAround =
      throw (.unsplittable .notUtf8) := by
    rw [runParse_eq made rfl]
    exact Job.batch_of_error illegible _ _
  have ended : run unparsedArguments illegibleAround =
      .ofRun Failure.report illegibleAround.output (throw (.unsplittable .notUtf8)) := by
    rw [← fails]
    exact run_of_read read_unparsed illegibleAround
  have selected : (locate unparsedArguments).1 = .parse := by rfl
  have unrefused : (run unparsedArguments illegibleAround).output.losses =
      illegibleAround.output.losses := by
    rw [ended]
    rfl
  have failed : (run unparsedArguments illegibleAround).failure.isSome = true := by
    rw [ended]
    rfl
  refine ⟨selected, unrefused, failed, ?_⟩
  rcases parse_all_or_nothing unparsedArguments illegibleAround selected unrefused failed with
    unchanged | ⟨_, _, _, _, _, _, _, _, _, _, _, failure, _⟩
  · exact unchanged
  · rw [ended] at failure
    cases failure

end Command
end ParseForest
