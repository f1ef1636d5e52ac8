namespace ParseForest

/-!
# Texts

Tokens, names and everything the library prints are lists of bytes.  Grammar
files and standard input may hold any bytes at all, so a character string
would be the wrong type here: two inputs that differ only in an ill-formed
byte are different texts and stay different.

String literals stand for their UTF-8 bytes through a coercion, so messages
are written the way they are read.
-/

/-- A text: its bytes, in order.  Nothing is assumed about their encoding. -/
abbrev Text := List UInt8

namespace Text

def ofString (s : String) : Text :=
  s.toUTF8.data.toList

instance : Coe String Text := ⟨ofString⟩

/-- The character string whose UTF-8 bytes are `text`, if there is one. -/
def toString? (text : Text) : Option String :=
  String.fromUTF8? ⟨text.toArray⟩

def byte (c : Char) : UInt8 :=
  c.toNat.toUInt8

def digit (n : Nat) : UInt8 :=
  (48 + n).toUInt8

/-- A natural number in decimal, without leading zeros. -/
def ofNat (n : Nat) : Text :=
  if n < 10 then [digit n] else ofNat (n / 10) ++ [digit (n % 10)]
termination_by n
decreasing_by omega

/-- An integer in decimal.  Only a negative number carries a sign. -/
def ofInt : Int → Text
  | .ofNat n => ofNat n
  | .negSucc n => byte '-' :: ofNat (n + 1)

/-- The hexadecimal digit of a number below sixteen, in lower case. -/
def hexDigit (n : Nat) : UInt8 :=
  if n < 10 then digit n else (87 + n).toUInt8

/-- The lowest `width` hexadecimal digits of a number, in lower case. -/
def ofHex : (width n : Nat) → Text
  | 0, _ => []
  | width + 1, n => ofHex width (n / 16) ++ [hexDigit (n % 16)]

def blanks (count : Nat) : Text :=
  List.replicate count (byte ' ')

/-- The texts in order with one space between neighbours. -/
def spaced (texts : List Text) : Text :=
  List.intercalate [byte ' '] texts

/-- What is left of `text` after `lead`, if `text` starts with it. -/
def dropLead? : (lead text : Text) → Option Text
  | [], text => some text
  | _ :: _, [] => none
  | b :: lead, c :: text => if b = c then dropLead? lead text else none

def lineEnd : Text := "\n"

def lines : Text → List Text
  | [] => [[]]
  | b :: rest =>
    if b = byte '\n' then [] :: lines rest
    else
      match lines rest with
      | [] => [[b]]
      | line :: others => (b :: line) :: others

end Text
end ParseForest
