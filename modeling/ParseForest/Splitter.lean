import ParseForest.Pattern.Reader
import ParseForest.Pattern.Search
import ParseForest.Text.Quoted

namespace ParseForest

/-!
# Splitting a text into tokens and sentences

A splitter cuts a text at every match of its separator and keeps what is left
between, as far as it is not empty.  Matches of length zero separate nothing.
Sentences are the pieces of a text between blank lines; those without a token
are left out.
-/

/-- Cuts texts at the matches of a separator, which a search finds. -/
structure Splitter where
  search : List Char → Pattern.Matches

/-- Why there is no splitter for a pattern. -/
inductive SplitterError where
  | emptyPattern
  | unreadable (pattern : Text) (error : Pattern.ReadError)
  deriving DecidableEq

def SplitterError.message : SplitterError → Text
  | .emptyPattern => "empty separator pattern"
  | .unreadable pattern error =>
    "compile separator " ++ Text.quoted pattern ++ ": error parsing regexp: " ++ error.message
      ++ " in \x60" ++ pattern ++ "\x60"

/-- Why a text cannot be split. -/
inductive SplitError where
  | notUtf8
  | halted (halt : Pattern.Halt)
  deriving DecidableEq

namespace SplitError

def fault? : SplitError → Option Fault
  | .halted (.fault fault) => some fault
  | _ => none

def message : SplitError → Text
  | .notUtf8 => "split input: invalid UTF-8"
  | .halted (.fault fault) => fault.message
  | .halted (.failed reason) => "split input: " ++ reason
  | .halted .endless => "split input: no end"

end SplitError

namespace Splitter

/-- The pattern of the separator that is used unless another one is asked for:
any run of white space. -/
def defaultSeparator : Text := "\\s+"

/-- The splitter for the pattern that a text denotes. -/
def make (pattern : Text) : Except SplitterError Splitter :=
  if pattern = [] then .error .emptyPattern
  else
    match Pattern.read pattern.chars with
    | .error e => .error (.unreadable pattern e)
    | .ok (separator, groups) => .ok ⟨(Pattern.Program.ofPattern separator groups).allMatches⟩

/-- The characters from one index up to another. -/
def between (cs : Array Char) (first last : Int) : Except Fault Text :=
  if last < 0 || Int.ofNat cs.size < last then .error (.badStop last cs.size)
  else if first < 0 then .error (.badStart first)
  else .ok (Text.ofChars (cs.extract first.toNat last.toNat).toList)

/-- The pieces of a text from index `last` on that lie between the matches and
are not empty.  The rest of the text is only one if the search for matches did
not halt. -/
def pieces (cs : Array Char) (halt : Option Pattern.Halt) (last : Int) :
    List Pattern.Match → Except Pattern.Halt (List Text)
  | [] =>
    match halt with
    | some halt => .error halt
    | none =>
      if Int.ofNat cs.size ≤ last then .ok []
      else ((between cs last (Int.ofNat cs.size)).mapError .fault).map ([·])
  | m :: ms =>
    if m.length = 0 then pieces cs halt last ms
    else if last < m.start then do
      let piece ← (between cs last m.start).mapError .fault
      return piece :: (← pieces cs halt (m.start + m.length) ms)
    else pieces cs halt (m.start + m.length) ms

/-- The tokens of a text. -/
def split (s : Splitter) (text : Text) : Except SplitError (List Text) :=
  if text.isUtf8 then
    let cs := text.chars
    let separators := s.search cs
    (pieces cs.toArray separators.halt 0 separators.found).mapError .halted
  else .error .notUtf8

/-- Cut a text at the matches of a program. -/
def cut (separator : Pattern.Program) (text : Text) : Except SplitError (List Text) :=
  split ⟨separator.allMatches⟩ text

/-- A blank line: two line ends with nothing but spaces, tabs and carriage
returns between them. -/
def blankLine : Pattern :=
  .group (some 0) none
    (.seq false
      [.singles {} (.is '\r'.toNat) false 0 1,
        .single {} (.is '\n'.toNat),
        .singles {} (.among (.ofRanges [(0x20, 0x20), (0x09, 0x09), (0x0D, 0x0D)])) false 0
          Pattern.unlimited,
        .single {} (.is '\n'.toNat)])

/-- The program that finds blank lines. -/
def blankLines : Pattern.Program :=
  .ofPattern blankLine {}

/-- The sentences of a text. -/
def sentences (s : Splitter) (text : Text) : Except SplitError (List (List Text)) := do
  let blocks ← cut blankLines text
  let sentences ← blocks.mapM s.split
  return sentences.filter (!·.isEmpty)

end Splitter
end ParseForest
