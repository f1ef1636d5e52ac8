import ParseForest.Command.Value

namespace ParseForest
namespace Command

/-!
# Flags

A command takes flags and words in any order.  A flag has a name, written
behind two dashes, and may have a letter, written behind one.  Its value
follows behind an equals sign or as the next argument; the value of a letter
may also follow at once.  A flag that means something on its own does not take
the next argument, and the letters of such flags can be written in a group.
Two dashes alone end the flags.

Each flag says how its value changes a record of options, so reading a command
line is a fold over its arguments.  A flag that still waits for its value is
part of the state of that fold.
-/

/-- A flag that changes options of type `σ`. -/
structure Flag (σ : Type) where
  name : Text
  letter : Option UInt8 := none
  /-- The value of the flag when it is given without one.  If there is none,
  the next argument is the value. -/
  alone : Option Text := none
  set : Text → σ → Except ValueError σ

/-- Why arguments cannot be read as flags and words. -/
inductive FlagError where
  | malformed (argument : Text)
  | unknownName (name : Text)
  /-- No flag has the letter at the head of this part of a group. -/
  | unknownLetter (group : Text)
  | missingValue (name : Text)
  | missingLetterValue (letter : UInt8)
  | badValue (label value : Text) (error : ValueError)
  deriving DecidableEq

namespace FlagError

/-- A character between single quotes. -/
def quotedChar (c : Char) : Text :=
  let inner : Text := if c = '\'' then "\\'" else if c = '"' then "\"" else Text.quotedChar c
  "'" ++ inner ++ "'"

/-- The letter of a flag between single quotes.  A byte beyond ASCII counts as
the character with that code and is shown by the first byte of its encoding. -/
def quotedLetter (letter : UInt8) : Text :=
  match String.utf8EncodeChar (Char.ofNat letter.toNat) with
  | [] => "''"
  | b :: _ => quotedChar (Char.ofNat b.toNat)

def message : FlagError → Text
  | .malformed argument => "bad flag syntax: " ++ argument
  | .unknownName name => "unknown flag: --" ++ name
  | .unknownLetter [] => "unknown shorthand flag"
  | .unknownLetter (letter :: rest) =>
    "unknown shorthand flag: " ++ quotedLetter letter ++ " in -" ++ letter :: rest
  | .missingValue name => "flag needs an argument: --" ++ name
  | .missingLetterValue letter =>
    "flag needs an argument: " ++ quotedLetter letter ++ " in -" ++ [letter]
  | .badValue label value error =>
    "invalid argument " ++ Text.quoted value ++ " for " ++ Text.quoted label ++ " flag: "
      ++ error.message

end FlagError

namespace Flag

variable {σ : Type}

def label (flag : Flag σ) : Text :=
  match flag.letter with
  | some letter => "-" ++ letter :: (", --" ++ flag.name)
  | none => "--" ++ flag.name

def assign (flag : Flag σ) (value : Text) (options : σ) : Except FlagError σ :=
  match flag.set value options with
  | .ok options => .ok options
  | .error e => .error (.badValue flag.label value e)

/-- A flag whose value is any text. -/
def text (name : Text) (letter : Option UInt8) (set : Text → σ → σ) : Flag σ where
  name := name
  letter := letter
  set := fun value options => .ok (set value options)

/-- A flag whose value is a whole number. -/
def number (name : Text) (letter : Option UInt8) (set : Int → σ → σ) : Flag σ where
  name := name
  letter := letter
  set := fun value options => do return set (← readNumber value) options

/-- A flag that is on or off, and on when it is given alone. -/
def switch (name : Text) (letter : Option UInt8) (set : Bool → σ → σ) : Flag σ where
  name := name
  letter := letter
  alone := some "true"
  set := fun value options => do return set (← readTruth value) options

/-- A flag that counts how often it is given alone.  A number sets the count. -/
def counter (name : Text) (letter : Option UInt8) (adjust : (Int → Int) → σ → σ) : Flag σ where
  name := name
  letter := letter
  alone := some "+1"
  set := fun value options =>
    if value = "+1" then .ok (adjust (· + 1) options)
    else do
      let n ← readNumber value
      return adjust (fun _ => n) options

end Flag

structure Reading (σ : Type) where
  options : σ
  words : List Text := []
  /-- The flag that waits for its value, and what to say if none comes. -/
  pending : Option (Flag σ × FlagError) := none
  /-- Whether the flags have ended. -/
  closed : Bool := false

namespace Reading

variable {σ : Type}

def assign (r : Reading σ) (flag : Flag σ) (value : Text) : Except FlagError (Reading σ) := do
  return { r with options := ← flag.assign value r.options }

/-- Give a flag the value it has alone, or let it wait for one. -/
def await (r : Reading σ) (flag : Flag σ) (missing : FlagError) :
    Except FlagError (Reading σ) :=
  match flag.alone with
  | some value => r.assign flag value
  | none => .ok { r with pending := some (flag, missing) }

/-- Read the part of an argument behind two dashes. -/
def long (flags : List (Flag σ)) (r : Reading σ) (body : Text) : Except FlagError (Reading σ) :=
  let name := body.takeWhile (· ≠ Text.byte '=')
  if body.head? = some (Text.byte '-') || name = [] then .error (.malformed ("--" ++ body))
  else
    match flags.find? (·.name = name) with
    | none => .error (.unknownName name)
    | some flag =>
      match body.dropWhile (· ≠ Text.byte '=') with
      | _ :: value => r.assign flag value
      | [] => r.await flag (.missingValue name)

/-- What marks a group of letters that is meant for a test runner. -/
def testMark : Text := "test."

/-- Read a group of letters.  A group that is meant for a test runner is passed
over. -/
def letters (flags : List (Flag σ)) (r : Reading σ) : Text → Except FlagError (Reading σ)
  | [] => .ok r
  | letter :: rest =>
    if (Text.dropLead? testMark (letter :: rest)).isSome then .ok r
    else
      match flags.find? (·.letter = some letter) with
      | none => .error (.unknownLetter (letter :: rest))
      | some flag =>
        if rest.head? = some (Text.byte '=') && 1 < rest.length then r.assign flag (rest.drop 1)
        else if flag.alone.isSome then do
          letters flags (← r.await flag (.missingLetterValue letter)) rest
        else if rest = [] then r.await flag (.missingLetterValue letter)
        else r.assign flag rest

/-- Read one argument. -/
def step (flags : List (Flag σ)) (r : Reading σ) (argument : Text) :
    Except FlagError (Reading σ) :=
  match r.pending with
  | some (flag, _) => { r with pending := none }.assign flag argument
  | none =>
    let asWord : Reading σ := { r with words := r.words ++ [argument] }
    if r.closed then .ok asWord
    else
      match argument with
      | [] => .ok asWord
      | [_] => .ok asWord
      | first :: second :: rest =>
        if first ≠ Text.byte '-' then .ok asWord
        else if second ≠ Text.byte '-' then letters flags r (second :: rest)
        else if rest = [] then .ok { r with closed := true }
        else long flags r rest

end Reading

/-- The options and the words that arguments amount to. -/
def Flag.readAll {σ : Type} (flags : List (Flag σ)) (defaults : σ) (arguments : List Text) :
    Except FlagError (σ × List Text) := do
  let r ← arguments.foldlM (Reading.step flags) { options := defaults }
  match r.pending with
  | some (_, missing) => throw missing
  | none => return (r.options, r.words)

end Command
end ParseForest
