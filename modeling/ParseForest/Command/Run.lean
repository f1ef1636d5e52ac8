import ParseForest.Batch
import ParseForest.Command.Files
import ParseForest.Command.Request
import ParseForest.Command.Usage
import ParseForest.Ebnf.Rules
import ParseForest.Grammar.English
import ParseForest.Grammar.Listing
import ParseForest.Report

namespace ParseForest
namespace Command

/-!
# Running a command

A command is a computation that writes as it goes and may fail at any point.  What
it has written by then stays written, and then the failure is explained.
-/

/-- What a command finds around it. -/
structure Surroundings where
  /-- Where names lead. -/
  entry : Text → Entry
  /-- What comes in, or why it cannot be read. -/
  input : Except Text Text
  /-- How the pattern of a separator becomes a splitter. -/
  splitter : Text → Except SplitterError Splitter := Splitter.make
  /-- Whether batches are cancelled. -/
  cancelled : Bool := false
  /-- Where the output goes. -/
  output : Sink := .sound

/-- Why a command failed. -/
inductive Failure where
  | traceOfBatch
  | attachmentToFile
  | noGrammarFile (name reason : Text)
  | badGrammar (error : Ebnf.LoadError)
  | noFile (reason : Text)
  | unknownPolicy (error : Policy.UnknownName)
  | badSeparator (error : SplitterError)
  | unknownFormat (error : Format.UnknownName)
  | noInput (reason : Text)
  | unsplittable (error : SplitError)
  | fault (error : Fault)
  | badBatch (error : BatchError)
  /-- Something could not be written. -/
  | unwritten (reason : Text)

namespace Failure

def message : Failure → Text
  | .traceOfBatch => "--trace cannot be combined with --batch"
  | .attachmentToFile => "--np-attachment only applies to the built-in grammar"
  | .noGrammarFile name reason => "open grammar: open " ++ name ++ ": " ++ reason
  | .badGrammar error => error.message
  | .noFile reason => "open file: " ++ reason
  | .unknownPolicy error => error.message
  | .badSeparator error => error.message
  | .unknownFormat error => error.message
  | .noInput reason => "read input: " ++ reason
  | .unsplittable error => error.message
  | .fault error => error.message
  | .badBatch error => error.message
  | .unwritten reason => reason

/-- The fault that broke the command off, if it was one. -/
def fault? : Failure → Option Fault
  | .unsplittable error => error.fault?
  | .fault error => some error
  | _ => none

/-- The reason as a single line that begins by calling it an error. -/
def report (f : Failure) : Text :=
  "Error: " ++ f.message ++ "\n"

/-- The reason as one line, or one line for each complaint if it consists of
complaints. -/
def lines (f : Failure) : Text :=
  let alone := f.message ++ "\n"
  match f with
  | .badGrammar error =>
    match error.complaints? with
    | some complaints => complaints.flatMap fun c => c.message ++ "\n"
    | none => alone
  | _ => alone

end Failure

/-- Where a command writes, and the trace it has left so far. -/
structure Console where
  output : Sink
  trace : Text := []

/-- A command in progress. -/
abbrev Running := EStateM Failure Console

namespace Running

/-- Take a result, or fail where there is none. -/
def orFail {ε α : Type} (failure : ε → Failure) (result : Except ε α) : Running α :=
  fun console =>
    match result with
    | .ok a => .ok a console
    | .error e => .error (failure e) console

def write (w : Writing Unit) : Running Unit := fun console =>
  match w console.output with
  | .ok () output => .ok () { console with output := output }
  | .error reason output => .error (.unwritten reason) { console with output := output }

def leave (trace : Text) : Running Unit := fun console =>
  .ok () { console with trace := console.trace ++ trace }

end Running

/-- How a command ended. -/
structure Outcome where
  failure : Option Text
  /-- The fault that broke it off, if one did. -/
  fault : Option Fault := none
  output : Sink
  /-- What was said about errors, behind the trace. -/
  diagnostics : Text

namespace Outcome

def status (o : Outcome) : Nat :=
  if o.fault.isSome then 2 else if o.failure.isSome then 1 else 0

/-- Run a command to its end.  `explain` words a failure. -/
def ofRun (explain : Failure → Text) (output : Sink) (command : Running Unit) : Outcome :=
  match command { output := output } with
  | .ok () console =>
    { failure := none, output := console.output, diagnostics := console.trace }
  | .error f console =>
    { failure := some f.message
      fault := f.fault?
      output := console.output
      diagnostics := console.trace ++ explain f }

end Outcome

/-- The grammar of a file, or the built-in one if the file has no name.  A
folder reads as an empty file. -/
def loadDefinition (around : Surroundings) (file : Text) (nounAttachment : Bool) :
    Except Failure Definition :=
  if file = [] then
    .ok (if nounAttachment then Grammar.englishWithNounAttachment else Grammar.english)
  else if nounAttachment then .error .attachmentToFile
  else
    match around.entry file with
    | .file source => (Ebnf.load file source).mapError .badGrammar
    | .folder => (Ebnf.load file []).mapError .badGrammar
    | .unavailable reason => .error (.noGrammarFile file reason)

/-! ## Parsing -/

/-- Everything that the command that parses needs. -/
structure Job where
  parser : Parser
  start : Symbol
  splitter : Splitter
  format : Format
  input : Text

namespace Job

/-- The start symbol with a name that may carry the sigil, or another one if
the name is empty. -/
def startSymbol (name : Text) (otherwise : Symbol) : Symbol :=
  match name with
  | [] => otherwise
  | b :: rest => if b = Symbol.sigil then .nonterminal rest else .nonterminal (b :: rest)

/-- The text of a file, or what comes in if no file is named. -/
def inputText (around : Surroundings) (file : Option Text) : Except Failure Text :=
  let text := match file with
    | none => around.input
    | some name => (around.entry name).content name
  text.mapError .noInput

/-- Collect what is needed. -/
def make (o : ParseOptions) (file : Option Text) (around : Surroundings) :
    Except Failure Job := do
  let d ← loadDefinition around o.grammar o.nounAttachment
  let policy ← (Policy.ofName o.policy).mapError .unknownPolicy
  let splitter ← (around.splitter o.separator).mapError .badSeparator
  let format ← (Format.ofName o.format).mapError .unknownFormat
  let input ← inputText around file
  return { parser := { grammar := d.grammar, policy := policy }
           start := startSymbol o.start d.start
           splitter := splitter
           format := format
           input := input }

/-- Parse the input as one sentence and report on it. -/
def single (job : Job) (traced : Bool) : Running Unit := do
  let tokens ← Running.orFail .unsplittable (job.splitter.split job.input)
  let watch : Watch := { trace := if traced then some .sound else none }
  let (trees, watch) ← Running.orFail .fault (job.parser.parseWatched job.start tokens watch)
  Running.leave ((watch.trace.map Sink.text).getD [])
  Running.write (Report.write job.format tokens trees)

/-- Write the reports of several sentences, with an empty line between
neighbours.  It does not matter whether an empty line is taken. -/
def writeReports (format : Format) : List (List Text × List Tree) → Writing Unit
  | [] => return ()
  | [(tokens, trees)] => Report.write format tokens trees
  | (tokens, trees) :: others => do
    Report.write format tokens trees
    Writing.offer Text.lineEnd
    writeReports format others

/-- Parse every sentence of the input and report on all of them. -/
def batch (job : Job) (jobs : Int) (cancelled : Bool) : Running Unit := do
  let sentences ← Running.orFail .unsplittable (job.splitter.sentences job.input)
  let forests ←
    Running.orFail .badBatch (job.parser.parseBatch job.start jobs cancelled sentences)
  Running.write (writeReports job.format (sentences.zip forests))

end Job

def runParse (o : ParseOptions) (file : Option Text) (around : Surroundings) :
    Running Unit := do
  if o.trace && o.batch then throw .traceOfBatch
  let job ← Running.orFail id (Job.make o file around)
  if o.batch then job.batch o.jobs around.cancelled else job.single o.trace

/-! ## Grammars -/

/-- The line that says what a grammar file holds. -/
def summary (file : Text) (d : Definition) : Text :=
  file ++ ": " ++ Text.ofNat d.grammar.size ++ " rules, " ++ Text.ofNat d.grammar.heads.length
    ++ " nonterminals, start " ++ d.start.text ++ "\n"

def runCheck (o : CheckOptions) (file : Text) (around : Surroundings) : Running Unit := do
  let source ← Running.orFail .noFile ((around.entry file).content file)
  if o.start ≠ [] then Running.orFail .badGrammar (Ebnf.verify file source o.start)
  let d ← Running.orFail .badGrammar (Ebnf.load file source)
  Running.write (Writing.offer (summary file d))

def runShow (o : ShowOptions) (file : Option Text) (around : Surroundings) :
    Running Unit := do
  let d ← Running.orFail id (loadDefinition around (file.getD []) o.nounAttachment)
  Running.write do
    Writing.offer ("start: " ++ d.start.text ++ "\n")
    Writing.offerAll d.grammar.table.chunks

/-! ## Command lines -/

namespace UsageError

/-- What is said about a command line that asks for nothing.  The commands on
grammars stay silent. -/
def diagnostics (e : UsageError) : Text :=
  let line := "Error: " ++ e.message ++ "\n"
  match e with
  | .unknownCommand _ => line ++ "Run 'earley --help' for usage.\n"
  | .badFlags .root _ => line
  | .badFlags .parse _ => line
  | .tooManyWords .parse _ => line
  | _ => []

/-- How a command line that asks for nothing ends.  A wrong flag at the root
is answered by the usage. -/
def outcome (e : UsageError) (output : Sink) : Outcome where
  failure := some e.message
  output :=
    match e with
    | .badFlags .root _ => ((Writing.offer (Command.root.usage ++ "\n")).finish output).2
    | _ => output
  diagnostics := e.diagnostics

end UsageError

def Request.run (around : Surroundings) : Request → Outcome
  | .help c => .ofRun Failure.report around.output (Running.write (Writing.offer c.helpText))
  | .parse o file => .ofRun Failure.report around.output (runParse o file around)
  | .check o file => .ofRun Failure.lines around.output (runCheck o file around)
  | .display o file => .ofRun Failure.lines around.output (runShow o file around)

/-- Do what a command line asks for. -/
def run (arguments : List Text) (around : Surroundings) : Outcome :=
  match Request.read arguments with
  | .error e => e.outcome around.output
  | .ok request => request.run around

end Command
end ParseForest
