import ParseForest.Ebnf.Token

namespace ParseForest
namespace Ebnf

/-!
# The values of literals

A quoted literal denotes a text through its escapes.  An escape by two
hexadecimal or three octal digits denotes a byte, all others denote characters.
A raw literal denotes what stands between its quotes, without carriage returns.
A literal that breaks the rules denotes nothing.
-/

namespace Literal

/-- The character behind a letter escape. -/
def letter? (c : Char) : Option Nat :=
  match c with
  | 'a' => some 0x07
  | 'b' => some 0x08
  | 'f' => some 0x0C
  | 'n' => some 0x0A
  | 'r' => some 0x0D
  | 't' => some 0x09
  | 'v' => some 0x0B
  | '\\' => some 0x5C
  | '"' => some 0x22
  | _ => none

/-- The value of a digit in a base up to sixteen. -/
def digit? (base : Nat) (c : Char) : Option Nat :=
  let value :=
    if c.isDigit then c.toNat - 48
    else if 'a' ≤ c && c ≤ 'f' then c.toNat - 87
    else if 'A' ≤ c && c ≤ 'F' then c.toNat - 55
    else 16
  if value < base then some value else none

/-- The value of exactly `count` digits, and what follows them. -/
def digits? (base : Nat) : (count value : Nat) → List Glyph → Option (Nat × List Glyph)
  | 0, value, gs => some (value, gs)
  | _ + 1, _, [] => none
  | count + 1, value, g :: gs => do
    let d ← digit? base g.toChar
    digits? base count (base * value + d) gs

/-- The bytes of an escape by number, and what follows it. -/
def numbered? (c : Char) (gs : List Glyph) : Option (Text × List Glyph) :=
  if c = 'x' then do
    let (value, rest) ← digits? 16 2 0 gs
    return ([value.toUInt8], rest)
  else if c = 'u' || c = 'U' then do
    let (value, rest) ← digits? 16 (if c = 'u' then 4 else 8) 0 gs
    let c ← Text.scalar? 0 value
    return (String.utf8EncodeChar c, rest)
  else do
    let (value, rest) ← digits? 8 3 0 (.char c :: gs)
    if value < 256 then return ([value.toUInt8], rest) else none

/-- The value of the text behind an opening quote, which has to end with the
closing one, looking at no more than `limit` characters and escapes. -/
def valueWithin : (limit : Nat) → List Glyph → Option Text
  | 0, _ => none
  | _, [] => none
  | limit + 1, g :: gs =>
    if g = .char '"' then if gs.isEmpty then some [] else none
    else if g = .char '\n' then none
    else if g = .char '\\' then
      match gs with
      | [] => none
      | h :: hs =>
        match letter? h.toChar with
        | some code => (valueWithin limit hs).map (code.toUInt8 :: ·)
        | none => do
          let (bytes, rest) ← numbered? h.toChar hs
          (valueWithin limit rest).map (bytes ++ ·)
    else (valueWithin limit gs).map (String.utf8EncodeChar g.toChar ++ ·)

def quoted? (source : List Glyph) : Option Text :=
  valueWithin (source.length + 1) (source.drop 1)

def raw? (source : List Glyph) : Option Text :=
  let body := source.drop 1
  if body.getLast? = some (.char '\x60') then
    some ((body.dropLast.filter (· ≠ .char '\r')).flatMap Glyph.bytes)
  else none

end Literal

/-- The value of a literal token, empty if it denotes nothing. -/
def Token.value (t : Token) : Text :=
  match t.kind with
  | .string => (Literal.quoted? t.source).getD []
  | .rawString => (Literal.raw? t.source).getD []
  | _ => []

end Ebnf
end ParseForest
