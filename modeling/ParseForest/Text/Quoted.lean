import ParseForest.Text.Utf8
import ParseForest.Text.Category

namespace ParseForest
namespace Text

/-!
# Quoted texts

Messages quote the texts they speak of between double quotes.  A quote and a
backslash are escaped by a backslash, seven control characters have letters of
their own, and printable characters stand for themselves.  Every other
character is written by its code, a stray byte by its value, so a quoted text
is printable whatever the text holds.
-/

/-- Whether a character is shown as it is: letters, marks, numbers,
punctuation and symbols, and of all spaces only the ASCII one. -/
def isPrintable (c : Char) : Bool :=
  c = ' ' || match (Category.of c).toList.head? with
    | some major => major = 'L' || major = 'M' || major = 'N' || major = 'P' || major = 'S'
    | none => false

/-- The letter behind the backslash, for the control characters that have one. -/
def escapeLetter? (c : Char) : Option Char :=
  match c.toNat with
  | 0x07 => some 'a'
  | 0x08 => some 'b'
  | 0x0C => some 'f'
  | 0x0A => some 'n'
  | 0x0D => some 'r'
  | 0x09 => some 't'
  | 0x0B => some 'v'
  | _ => none

def quotedChar (c : Char) : Text :=
  if c = '"' || c = '\\' then [byte '\\', byte c]
  else if isPrintable c then String.utf8EncodeChar c
  else
    match escapeLetter? c with
    | some letter => [byte '\\', byte letter]
    | none =>
      if c.toNat < 0x20 || c.toNat = 0x7F then "\\x" ++ ofHex 2 c.toNat
      else if c.toNat < 0x10000 then "\\u" ++ ofHex 4 c.toNat
      else "\\U" ++ ofHex 8 c.toNat

/-- One unit of a text inside a quoted text. -/
def quotedGlyph : Glyph → Text
  | .char c => quotedChar c
  | .stray b => "\\x" ++ ofHex 2 b.toNat

/-- A text between double quotes. -/
def quoted (text : Text) : Text :=
  byte '"' :: (text.glyphs.flatMap quotedGlyph ++ [byte '"'])

end Text
end ParseForest
