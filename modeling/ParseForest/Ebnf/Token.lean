import ParseForest.Text.Category
import ParseForest.Text.Utf8

namespace ParseForest
namespace Ebnf

/-!
# Tokens of the grammar notation

A grammar file is a sequence of names, literals and single characters, with
white space and comments between them.  Reading it never fails: a number that
is malformed or a literal that is not closed is a token all the same, and
what to make of it is left to the reader of productions.

Every token starts at a position.  Lines and columns count from one, and a
column is a character, a stray byte being one as well.
-/

/-- A place in a grammar file. -/
structure Position where
  file : Text
  offset : Nat
  line : Nat
  column : Nat
  deriving DecidableEq

def fileText (file : Text) : Text :=
  if file = [] then "<input>" else file

def Position.text (p : Position) : Text :=
  fileText p.file ++ ":" ++ Text.ofNat p.line ++ ":" ++ Text.ofNat p.column

/-- The position behind one unit of text. -/
def Position.next (p : Position) (g : Glyph) : Position :=
  if g = .char '\n' then ⟨p.file, p.offset + 1, p.line + 1, 1⟩
  else ⟨p.file, p.offset + g.bytes.length, p.line, p.column + 1⟩

inductive TokenKind where
  | eof
  | ident
  | int
  | float
  | char
  | string
  | rawString
  | sign (c : Char)
  deriving DecidableEq

structure Token where
  kind : TokenKind
  source : List Glyph
  pos : Position

def Token.text (t : Token) : Text :=
  t.source.flatMap Glyph.bytes

namespace Token

/-- Whether a character separates tokens. -/
def isBlank (c : Char) : Bool :=
  c = ' ' || c = '\t' || c = '\r' || c = '\n'

def startsName (c : Char) : Bool :=
  c = '_' || Text.isLetter c

def continuesName (c : Char) : Bool :=
  startsName c || Text.isDigit c

def isHexDigit (c : Char) : Bool :=
  c.isDigit || ('a' ≤ c && c ≤ 'f') || ('A' ≤ c && c ≤ 'F')

/-- The number of digits and underscores at the beginning. -/
def digitCount (isDigit : Char → Bool) (cs : List Char) : Nat :=
  (cs.takeWhile fun c => isDigit c || c = '_').length

/-- The length of an exponent at the beginning. -/
def exponentLength : List Char → Nat
  | c :: cs =>
    if c = 'e' || c = 'E' || c = 'p' || c = 'P' then
      match cs with
      | d :: ds =>
        if d = '+' || d = '-' then 2 + digitCount Char.isDigit ds
        else 1 + digitCount Char.isDigit (d :: ds)
      | [] => 1
    else 0
  | [] => 0

/-- The length of a point and the digits behind it. -/
def fractionLength (isDigit : Char → Bool) : List Char → Nat
  | '.' :: cs => 1 + digitCount isDigit cs
  | _ => 0

/-- The length of the mark in front of a number's digits, and whether the
digits are hexadecimal. -/
def radix : List Char → Nat × Bool
  | '0' :: c :: _ =>
    if c = 'x' || c = 'X' then (2, true)
    else if c = 'o' || c = 'O' || c = 'b' || c = 'B' then (2, false)
    else (1, false)
  | _ => (0, false)

/-- The length of a number, and whether it is an integer. -/
def number (cs : List Char) : Nat × Bool :=
  let (lead, hex) := radix cs
  let isDigit := if hex then isHexDigit else Char.isDigit
  let whole := lead + digitCount isDigit (cs.drop lead)
  let fraction := fractionLength isDigit (cs.drop whole)
  let exponent := exponentLength (cs.drop (whole + fraction))
  (whole + fraction + exponent, fraction = 0 && exponent = 0)

/-- The length of the rest of a literal behind its opening quote.  It ends with
the closing quote, or with a line feed, or with the text. -/
def literalLength (quote : Char) : List Char → Nat
  | [] => 0
  | '\\' :: c :: cs =>
    if c = '\\' || c = quote then 2 + literalLength quote cs
    else 1 + literalLength quote (c :: cs)
  | c :: cs => if c = quote || c = '\n' then 1 else 1 + literalLength quote cs

/-- The length of the rest of a raw literal behind its opening quote. -/
def rawLength : List Char → Nat
  | [] => 0
  | c :: cs => if c = '\x60' then 1 else 1 + rawLength cs

/-- The length of the rest of a general comment behind its opening. -/
def commentLength : List Char → Nat
  | [] => 0
  | '*' :: '/' :: _ => 2
  | _ :: cs => 1 + commentLength cs

/-- The length of the comment at the beginning, zero if there is none. -/
def commentAt : List Char → Nat
  | '/' :: '/' :: cs => 2 + (cs.takeWhile (· ≠ '\n')).length
  | '/' :: '*' :: cs => 2 + commentLength cs
  | _ => 0

/-- The kind and the length of the token at the beginning of a text that starts
with `c`. -/
def lexeme (c : Char) (cs : List Char) : TokenKind × Nat :=
  if startsName c then (.ident, 1 + (cs.takeWhile continuesName).length)
  else if c.isDigit then
    let (length, isInt) := number (c :: cs)
    (if isInt then .int else .float, length)
  else if c = '"' then (.string, 1 + literalLength '"' cs)
  else if c = '\'' then (.char, 1 + literalLength '\'' cs)
  else if c = '\x60' then (.rawString, 1 + rawLength cs)
  else if c = '.' && (cs.head?.map Char.isDigit).getD false then
    (.float, (number (c :: cs)).1)
  else (.sign c, 1)

/-- The tokens of a text that starts at `pos`, up to a number of tokens, blanks
and comments. -/
def scanWithin : (limit : Nat) → Position → List Glyph → List Token
  | 0, pos, _ => [⟨.eof, [], pos⟩]
  | _, pos, [] => [⟨.eof, [], pos⟩]
  | limit + 1, pos, g :: gs =>
    let cs := gs.map Glyph.toChar
    let comment := commentAt (g.toChar :: cs)
    if isBlank g.toChar then scanWithin limit (pos.next g) gs
    else if 0 < comment then
      scanWithin limit (((g :: gs).take comment).foldl Position.next pos) ((g :: gs).drop comment)
    else
      let (kind, length) := lexeme g.toChar cs
      let source := (g :: gs).take length
      ⟨kind, source, pos⟩
        :: scanWithin limit (source.foldl Position.next pos) ((g :: gs).drop length)

/-- The tokens of a file, the last of which is the end of the file.  A byte
order mark at the very beginning is passed over. -/
def scan (file : Text) (source : Text) : List Token :=
  let start : Position := ⟨file, 0, 1, 1⟩
  match source.glyphs with
  | [] => [⟨.eof, [], start⟩]
  | g :: gs =>
    if g = .char '\uFEFF' then scanWithin (gs.length + 1) (start.next g) gs
    else scanWithin (gs.length + 2) start (g :: gs)

end Token
end Ebnf
end ParseForest
