import ParseForest.Command.Basic
import ParseForest.Command.Flag
import ParseForest.Splitter

namespace ParseForest
namespace Command

/-!
# Requests

A request is what a command line asks for once its flags and words have been
understood.  A command line that asks for nothing fails with the first thing
that is wrong with it: the command, then the flags from left to right, then
the number of words.
-/

/-- Options that every command has. -/
structure SharedOptions where
  verbosity : Int := 0
  help : Bool := false

/-- Options of the command that parses.  What has a name is kept as it was
written, since a wrong name is not an error in the flags. -/
structure ParseOptions extends SharedOptions where
  /-- The grammar file.  Without a name it is the built-in grammar. -/
  grammar : Text := []
  /-- The start symbol.  Without a name it is the one of the grammar. -/
  start : Text := []
  nounAttachment : Bool := false
  policy : Text := "span"
  separator : Text := Splitter.defaultSeparator
  format : Text := "tree"
  trace : Bool := false
  batch : Bool := false
  jobs : Int := 1

structure CheckOptions extends SharedOptions where
  /-- The production from which all others have to be reachable.  Without a
  name nothing is asked of them. -/
  start : Text := []

structure ShowOptions extends SharedOptions where
  nounAttachment : Bool := false

/-- The flags that every command has, for options that contain the shared
ones. -/
def sharedFlags {σ : Type} (change : (SharedOptions → SharedOptions) → σ → σ) : List (Flag σ) :=
  [.counter "verbose" (some (Text.byte 'v'))
      fun adjust => change fun s => { s with verbosity := adjust s.verbosity },
    .switch "help" (some (Text.byte 'h')) fun on => change fun s => { s with help := on }]

/-- The flags of a command without flags of its own. -/
def SharedOptions.flags : List (Flag SharedOptions) :=
  sharedFlags fun change s => change s

def ParseOptions.flags : List (Flag ParseOptions) :=
  [.text "grammar" (some (Text.byte 'g')) fun file o => { o with grammar := file },
    .text "start" (some (Text.byte 's')) fun name o => { o with start := name },
    .switch "np-attachment" none fun on o => { o with nounAttachment := on },
    .text "dedup" none fun name o => { o with policy := name },
    .text "separator" none fun pattern o => { o with separator := pattern },
    .text "format" (some (Text.byte 'f')) fun name o => { o with format := name },
    .switch "trace" none fun on o => { o with trace := on },
    .switch "batch" none fun on o => { o with batch := on },
    .number "jobs" (some (Text.byte 'j')) fun n o => { o with jobs := n }]
  ++ sharedFlags fun change o => { o with toSharedOptions := change o.toSharedOptions }

def CheckOptions.flags : List (Flag CheckOptions) :=
  .text "start" none (fun name o => { o with start := name })
    :: sharedFlags fun change o => { o with toSharedOptions := change o.toSharedOptions }

def ShowOptions.flags : List (Flag ShowOptions) :=
  .switch "np-attachment" none (fun on o => { o with nounAttachment := on })
    :: sharedFlags fun change o => { o with toSharedOptions := change o.toSharedOptions }

/-- What a command line asks for. -/
inductive Request where
  /-- Help on a command. -/
  | help (command : Command)
  /-- Parse a file, or what comes in if none is named. -/
  | parse (options : ParseOptions) (file : Option Text)
  | check (options : CheckOptions) (file : Text)
  /-- Show the grammar of a file, or the built-in one if none is named. -/
  | display (options : ShowOptions) (file : Option Text)

/-- Why a command line asks for nothing. -/
inductive UsageError where
  | unknownCommand (word : Text)
  | badFlags (command : Command) (error : FlagError)
  /-- The command takes at most one word. -/
  | tooManyWords (command : Command) (received : Nat)
  /-- The command takes exactly one word. -/
  | notOneWord (command : Command) (received : Nat)

def UsageError.message : UsageError → Text
  | .unknownCommand w =>
    "unknown command " ++ Text.quoted w ++ " for " ++ Text.quoted Command.root.word
      ++ suggestionText w
  | .badFlags _ error => error.message
  | .tooManyWords _ received => "accepts at most 1 arg(s), received " ++ Text.ofNat received
  | .notOneWord _ received => "accepts 1 arg(s), received " ++ Text.ofNat received

namespace Request

/-- The options and words of a command. -/
def options {σ : Type} (c : Command) (flags : List (Flag σ)) (defaults : σ)
    (arguments : List Text) : Except UsageError (σ × List Text) :=
  (Flag.readAll flags defaults arguments).mapError (.badFlags c)

/-- The request of a command with at most one word. -/
def ofOptionalWord (c : Command) (make : Option Text → Request) :
    List Text → Except UsageError Request
  | [] => .ok (make none)
  | [file] => .ok (make (some file))
  | files => .error (.tooManyWords c files.length)

/-- The request that arguments make to the root or to the command on
grammars, which do nothing on their own but give help. -/
def ofGroup (c : Command) (arguments : List Text) : Except UsageError Request := do
  let _ ← options c SharedOptions.flags {} arguments
  return .help c

def ofParse (arguments : List Text) : Except UsageError Request := do
  let (o, words) ← options .parse ParseOptions.flags {} arguments
  if o.help then return .help .parse
  ofOptionalWord .parse (.parse o) words

def ofCheck (arguments : List Text) : Except UsageError Request := do
  let (o, words) ← options .checkGrammar CheckOptions.flags {} arguments
  if o.help then return .help .checkGrammar
  match words with
  | [file] => return .check o file
  | files => throw (.notOneWord .checkGrammar files.length)

def ofShow (arguments : List Text) : Except UsageError Request := do
  let (o, words) ← options .showGrammar ShowOptions.flags {} arguments
  if o.help then return .help .showGrammar
  ofOptionalWord .showGrammar (.display o) words

def read (arguments : List Text) : Except UsageError Request :=
  match Command.locate arguments with
  | (.root, left) =>
    match Command.words left with
    | w :: _ => .error (.unknownCommand w)
    | [] => ofGroup .root left
  | (.grammar, left) => ofGroup .grammar left
  | (.parse, left) => ofParse left
  | (.checkGrammar, left) => ofCheck left
  | (.showGrammar, left) => ofShow left
  | (c, _) => .ok (.help c)

/-- The files that a request may look at. -/
def files : Request → List Text
  | .help _ => []
  | .parse o file => o.grammar :: file.toList
  | .check _ file => [file]
  | .display _ file => file.toList

def readsInput : Request → Bool
  | .parse _ none => true
  | _ => false

end Request
end Command
end ParseForest
