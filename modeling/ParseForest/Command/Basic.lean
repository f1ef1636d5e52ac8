import ParseForest.Text.LowerCase
import ParseForest.Text.Quoted

namespace ParseForest

/-!
# Commands

The program is a small tree of commands, and the words at the front of its
arguments walk down that tree.  Flags may stand between the words.  Which flags
a command has is not yet known on the way, so every flag but the one for
verbosity is taken to be followed by its value.  A word that leads nowhere is
an error at the root, where the nearest commands are suggested.
-/

inductive Command where
  | root
  | parse
  | grammar
  | checkGrammar
  | showGrammar
  | completion
  | help
  deriving DecidableEq

namespace Command

def word : Command → Text
  | .root => "earley"
  | .parse => "parse"
  | .grammar => "grammar"
  | .checkGrammar => "check"
  | .showGrammar => "show"
  | .completion => "completion"
  | .help => "help"

/-- The commands one word further on. -/
def children : Command → List Command
  | .root => [.parse, .grammar, .help, .completion]
  | .grammar => [.checkGrammar, .showGrammar]
  | _ => []

/-- Whether an argument is taken to be a flag that is followed by its value. -/
def takesNext (argument : Text) : Bool :=
  match argument with
  | first :: second :: rest =>
    first = Text.byte '-' && !(argument.contains (Text.byte '=')) &&
      if second = Text.byte '-' then rest ≠ Text.ofString "verbose"
      else rest = [] && second ≠ Text.byte 'v'
  | _ => false

/-- Whether an argument is a word. -/
def isWord (argument : Text) : Bool :=
  match argument with
  | [] => false
  | first :: _ => first ≠ Text.byte '-'

def flagsEnd : Text := "--"

/-- The words among arguments.  Nothing is looked for behind a flag that has at
most one argument left. -/
def words : List Text → List Text
  | [] => []
  | argument :: rest =>
    if argument = flagsEnd then []
    else if takesNext argument then
      match rest with
      | _ :: next :: more => words (next :: more)
      | _ => []
    else if isWord argument then argument :: words rest
    else words rest

/-- The arguments without the first occurrence of a word. -/
def removeWord (w : Text) : List Text → List Text
  | [] => []
  | argument :: rest =>
    if argument = flagsEnd then argument :: rest
    else if takesNext argument then
      match rest with
      | value :: more => argument :: value :: removeWord w more
      | [] => [argument]
    else if argument = w then rest
    else argument :: removeWord w rest

/-- Follow the next word, if it leads on. -/
def descend (c : Command) (arguments : List Text) : Command × List Text :=
  match words arguments with
  | [] => (c, arguments)
  | w :: _ =>
    match c.children.find? (·.word = w) with
    | none => (c, arguments)
    | some d => (d, removeWord w arguments)

/-- The command that arguments select, and the arguments that are left for it.
No command is more than two words away. -/
def locate (arguments : List Text) : Command × List Text :=
  let (c, left) := descend .root arguments
  descend c left

/-- A row of the table of edit distances from the row before it, for one more
byte `b` of the first text.  `left` is the entry to the left of the row. -/
def distanceRow (b : UInt8) (left : Nat) : Text → List Nat → List Nat
  | c :: other, diagonal :: above :: row =>
    let entry := min (min (left + 1) (above + 1)) (if b = c then diagonal else diagonal + 1)
    entry :: distanceRow b entry other (above :: row)
  | _, _ => []

/-- The number of bytes that have to be put in, taken out or exchanged to get
from one text to another. -/
def distance (text other : Text) : Nat :=
  let first := List.range (other.length + 1)
  let last := text.foldl
    (fun row b =>
      let left := row.headD 0 + 1
      left :: distanceRow b left other row) first
  last.getLastD 0

def lowerCase (text : Text) : Text :=
  Text.ofChars (text.chars.map fun c => Char.ofNat (Text.LowerCase.ofCode c.toNat))

/-- Whether a command is suggested in place of a word: because at most two
edits lie between them, or because its name begins with the word. -/
def isNear (w : Text) (c : Command) : Bool :=
  distance (lowerCase w) c.word ≤ 2 || (Text.dropLead? (lowerCase w) c.word).isSome

/-- The commands that are suggested in place of a word. -/
def suggestions (w : Text) : List Command :=
  [.parse, .grammar, .completion].filter (isNear w)

def suggestionLine (c : Command) : Text :=
  "\t" ++ c.word ++ "\n"

def suggestionText (w : Text) : Text :=
  match suggestions w with
  | [] => []
  | near => "\n\nDid you mean this?\n" ++ near.flatMap suggestionLine

end Command
end ParseForest
