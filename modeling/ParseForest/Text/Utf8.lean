import ParseForest.Text.Basic

namespace ParseForest

/-!
# Reading a text as characters

Where a text is read character by character it is decoded as UTF-8.  A byte
that does not belong to a well-formed sequence is a unit of its own: it keeps
its value, and whoever needs a character in its place takes U+FFFD.  Sequences
are refused when they are cut short, longer than necessary, in the surrogate
range or above U+10FFFF.
-/

/-- One unit of a decoded text: a character, or a byte that spells none. -/
inductive Glyph where
  | char (c : Char)
  | stray (b : UInt8)
  deriving DecidableEq

namespace Glyph

/-- The character that stands in for bytes that spell none. -/
def replacement : Char := '\uFFFD'

def toChar : Glyph → Char
  | .char c => c
  | .stray _ => replacement

def bytes : Glyph → Text
  | .char c => String.utf8EncodeChar c
  | .stray b => [b]

def isChar : Glyph → Bool
  | .char _ => true
  | .stray _ => false

end Glyph

namespace Text

/-- The payload of a continuation byte. -/
def continuation? (b : UInt8) : Option Nat :=
  if 0x80 ≤ b.toNat ∧ b.toNat < 0xC0 then some (b.toNat - 0x80) else none

/-- The character with code `n`, provided that it exists and that `n` is not
below `least`, the smallest code whose encoding is this long. -/
def scalar? (least n : Nat) : Option Char :=
  if h : n.isValidChar ∧ least ≤ n then some (Char.ofNatAux n h.1) else none

/-- The character spelled by `b` together with the first bytes of `rest`. -/
def leading? (b : UInt8) (rest : Text) : Option Char :=
  let n := b.toNat
  if n < 0x80 then scalar? 0 n
  else if n < 0xC0 then none
  else if n < 0xE0 then
    match rest with
    | x :: _ => do
      let x ← continuation? x
      scalar? 0x80 ((n - 0xC0) * 64 + x)
    | _ => none
  else if n < 0xF0 then
    match rest with
    | x :: y :: _ => do
      let x ← continuation? x
      let y ← continuation? y
      scalar? 0x800 (((n - 0xE0) * 64 + x) * 64 + y)
    | _ => none
  else if n < 0xF8 then
    match rest with
    | x :: y :: z :: _ => do
      let x ← continuation? x
      let y ← continuation? y
      let z ← continuation? z
      scalar? 0x10000 ((((n - 0xF0) * 64 + x) * 64 + y) * 64 + z)
    | _ => none
  else none

/-- The units of a text, in order. -/
def glyphs : Text → List Glyph
  | [] => []
  | b :: rest =>
    match leading? b rest with
    | some c => .char c :: glyphs (rest.drop (c.utf8Size - 1))
    | none => .stray b :: glyphs rest
termination_by text => text.length
decreasing_by
  · simp only [List.length_drop, List.length_cons]
    omega
  · simp

/-- The characters of a text, with U+FFFD for every stray byte. -/
def chars (text : Text) : List Char :=
  text.glyphs.map Glyph.toChar

/-- The UTF-8 bytes of a list of characters. -/
def ofChars (cs : List Char) : Text :=
  cs.flatMap String.utf8EncodeChar

/-- Whether a text is well-formed UTF-8. -/
def isUtf8 (text : Text) : Bool :=
  text.glyphs.all Glyph.isChar

end Text
end ParseForest
