import ParseForest.Tree.Json

namespace ParseForest

/-!
# JSON values

A JSON value is written over several lines, with each level indented by two more
spaces, and read back from any text that RFC 8259 allows: with white space
anywhere between tokens, every escape and every form of number.  The reader
takes the whole text or nothing.  White space around the value is all that may
be left over, and a text that is not UTF-8 is refused.
-/

/-- A JSON value.  A number is a decimal: the mantissa times a power of ten. -/
inductive Json where
  | null
  | bool (b : Bool)
  | number (mantissa exponent : Int)
  | string (s : String)
  | array (items : List Json)
  | object (members : List (String × Json))

namespace Json

open ParseForest.Tree (jsonLine)
open Text (byte)

/-- Values by induction, for the values inside arrays and objects at once. -/
@[induction_eliminator]
theorem induct {motive : Json → Prop} (null : motive .null) (bool : ∀ b, motive (.bool b))
    (number : ∀ m e, motive (.number m e)) (string : ∀ s, motive (.string s))
    (array : ∀ items, (∀ v ∈ items, motive v) → motive (.array items))
    (object : ∀ members, (∀ m ∈ members, motive m.2) → motive (.object members)) :
    ∀ v, motive v
  | .null => null
  | .bool b => bool b
  | .number m e => number m e
  | .string s => string s
  | .array items => array items fun v _ =>
      induct null bool number string array object v
  | .object members => object members fun m _ =>
      induct null bool number string array object m.2
termination_by v => sizeOf v
decreasing_by
  · have inside := List.sizeOf_lt_of_mem ‹v ∈ items›
    simp only [Json.array.sizeOf_spec]
    omega
  · have inside := List.sizeOf_lt_of_mem ‹m ∈ members›
    have second : sizeOf m = 1 + sizeOf m.1 + sizeOf m.2 := by cases m; rfl
    simp only [Json.object.sizeOf_spec]
    omega

/-! ## Writing -/

/-- Texts on lines of their own, each behind a comma. -/
def following (level : Nat) (texts : List Text) : Text :=
  texts.flatMap fun x => byte ',' :: (jsonLine level ++ x)

/-- Texts between two brackets at a level, each on a line of its own. -/
def enclosed (opening closing : UInt8) (level : Nat) : List Text → Text
  | [] => [opening, closing]
  | x :: xs =>
    opening :: (jsonLine (level + 1) ++ x ++ following (level + 1) xs ++ jsonLine level
      ++ [closing])

/-- An exponent, which is left out if it is zero. -/
def scale (exponent : Int) : Text :=
  if exponent = 0 then [] else byte 'e' :: Text.ofInt exponent

mutual

/-- A value whose brackets stand at the given level. -/
def indentedAt (level : Nat) : Json → Text
  | .null => "null"
  | .bool b => if b then "true" else "false"
  | .number mantissa exponent => Text.ofInt mantissa ++ scale exponent
  | .string s => (Text.ofString s).json
  | .array items => enclosed (byte '[') (byte ']') level (itemsAt (level + 1) items)
  | .object members =>
    enclosed (byte '\x7b') (byte '\x7d') level (membersAt (level + 1) members)

/-- The items of an array. -/
def itemsAt (level : Nat) : List Json → List Text
  | [] => []
  | v :: items => indentedAt level v :: itemsAt level items

/-- The members of an object, each behind its name. -/
def membersAt (level : Nat) : List (String × Json) → List Text
  | [] => []
  | (name, v) :: members =>
    ((Text.ofString name).json ++ ": " ++ indentedAt level v) :: membersAt level members

end

/-- A member of an object behind its name. -/
def memberAt (level : Nat) (member : String × Json) : Text :=
  (Text.ofString member.1).json ++ ": " ++ member.2.indentedAt level

@[simp]
theorem itemsAt_eq_map (level : Nat) (items : List Json) :
    itemsAt level items = items.map (indentedAt level) := by
  induction items with
  | nil => rfl
  | cons v items ih => rw [itemsAt, ih, List.map_cons]

@[simp]
theorem membersAt_eq_map (level : Nat) (members : List (String × Json)) :
    membersAt level members = members.map (memberAt level) := by
  induction members with
  | nil => rfl
  | cons member members ih => rw [membersAt, ih, List.map_cons, memberAt]

/-! ## Depth -/

mutual

/-- How deep arrays and objects nest in a value. -/
def depth : Json → Nat
  | .null => 0
  | .bool _ => 0
  | .number _ _ => 0
  | .string _ => 0
  | .array items => 1 + depthOfItems items
  | .object members => 1 + depthOfMembers members

def depthOfItems : List Json → Nat
  | [] => 0
  | v :: items => max (depth v) (depthOfItems items)

def depthOfMembers : List (String × Json) → Nat
  | [] => 0
  | (_, v) :: members => max (depth v) (depthOfMembers members)

end

/-! ## Reading strings -/

/-- A piece of a string: a byte, or an escaped unit of UTF-16. -/
inductive Piece where
  | byte (b : UInt8)
  | unit (code : Nat)

/-- Whether the byte is a decimal digit. -/
def isDigit (b : UInt8) : Bool :=
  48 ≤ b.toNat && b.toNat < 58

/-- The value of a hexadecimal digit. -/
def hexDigit? (b : UInt8) : Option Nat :=
  if isDigit b then some (b.toNat - 48)
  else if 97 ≤ b.toNat ∧ b.toNat < 103 then some (b.toNat - 87)
  else if 65 ≤ b.toNat ∧ b.toNat < 71 then some (b.toNat - 55)
  else none

/-- The value of a row of hexadecimal digits. -/
def hex? (digits : Text) : Option Nat :=
  digits.foldlM (fun n b => (hexDigit? b).map (16 * n + ·)) 0

/-- The letters that follow a backslash, and what they stand for. -/
def escapes : List (UInt8 × UInt8) :=
  [(byte '"', byte '"'), (byte '\\', byte '\\'), (byte '/', byte '/'), (byte 'b', byte '\x08'),
    (byte 'f', byte '\x0c'), (byte 'n', byte '\n'), (byte 'r', byte '\r'), (byte 't', byte '\t')]

/-- The pieces of a string up to its closing quote, and what follows the quote. -/
def pieces? : Text → Option (List Piece × Text)
  | [] => none
  | b :: rest =>
    if b = byte '"' then some ([], rest)
    else if b = byte '\\' then
      match rest with
      | [] => none
      | letter :: rest =>
        if letter = byte 'u' then
          match rest with
          | w :: x :: y :: z :: rest => do
            let code ← hex? [w, x, y, z]
            let (pieces, rest) ← pieces? rest
            return (.unit code :: pieces, rest)
          | _ => none
        else do
          let escaped ← escapes.lookup letter
          let (pieces, rest) ← pieces? rest
          return (.byte escaped :: pieces, rest)
    else if b.toNat < 0x20 then none
    else do
      let (pieces, rest) ← pieces? rest
      return (.byte b :: pieces, rest)

/-- The character spelled by a high and a low surrogate. -/
def paired? (high low : Nat) : Option Char :=
  if 0xD800 ≤ high ∧ high < 0xDC00 ∧ 0xDC00 ≤ low ∧ low < 0xE000 then
    Text.scalar? 0x10000 (0x10000 + (high - 0xD800) * 0x400 + (low - 0xDC00))
  else none

/-- The bytes of a unit on its own, where a lone surrogate is U+FFFD. -/
def single (code : Nat) : Text :=
  String.utf8EncodeChar ((Text.scalar? 0 code).getD Glyph.replacement)

/-- The bytes that pieces stand for. -/
def assembled : List Piece → Text
  | [] => []
  | .byte b :: pieces => b :: assembled pieces
  | .unit high :: .unit low :: pieces =>
    match paired? high low with
    | some c => String.utf8EncodeChar c ++ assembled pieces
    | none => single high ++ assembled (.unit low :: pieces)
  | .unit code :: pieces => single code ++ assembled pieces

/-- The string behind an opening quote, and what follows its closing one. -/
def string? (text : Text) : Option (String × Text) := do
  let (pieces, rest) ← pieces? text
  return (String.ofList (assembled pieces).chars, rest)

/-! ## Reading numbers -/

/-- The digits at the front, at least one, and what follows them. -/
def digits? (text : Text) : Option (Text × Text) :=
  match text.takeWhile isDigit with
  | [] => none
  | d :: ds => some (d :: ds, text.dropWhile isDigit)

/-- The digits of a whole number, which has no leading zeros. -/
def whole? (text : Text) : Option (Text × Text) := do
  let (digits, rest) ← digits? text
  if digits.head? = some (byte '0') ∧ 1 < digits.length then none else some (digits, rest)

/-- The digits behind a decimal point, none where there is no point. -/
def fraction? : Text → Option (Text × Text)
  | [] => some ([], [])
  | b :: rest => if b = byte '.' then digits? rest else some ([], b :: rest)

/-- The value of a row of digits. -/
def natural (digits : Text) : Nat :=
  digits.foldl (fun n b => 10 * n + (b.toNat - 48)) 0

/-- The number behind a sign. -/
def signed (negative : Bool) (n : Nat) : Int :=
  if negative then -n else n

/-- Whether there is a minus sign, and what follows it. -/
def minus (text : Text) : Bool × Text :=
  match Text.dropLead? [byte '-'] text with
  | some rest => (true, rest)
  | none => (false, text)

/-- An exponent, zero where there is none. -/
def exponent? : Text → Option (Int × Text)
  | [] => some (0, [])
  | b :: rest =>
    if b = byte 'e' ∨ b = byte 'E' then do
      let (negative, rest) :=
        match Text.dropLead? [byte '+'] rest with
        | some rest => (false, rest)
        | none => minus rest
      let (digits, rest) ← digits? rest
      return (signed negative (natural digits), rest)
    else some (0, b :: rest)

/-- A number, and what follows it. -/
def number? (text : Text) : Option (Json × Text) := do
  let (negative, rest) := minus text
  let (whole, rest) ← whole? rest
  let (fraction, rest) ← fraction? rest
  let (power, rest) ← exponent? rest
  return (.number (signed negative (natural (whole ++ fraction))) (power - fraction.length), rest)

/-! ## Reading values -/

/-- Whether the byte is white space. -/
def isSpace (b : UInt8) : Bool :=
  b = byte ' ' || b = byte '\t' || b = byte '\n' || b = byte '\r'

/-- What follows the white space at the front. -/
def skip (text : Text) : Text :=
  text.dropWhile isSpace

/-- One of the three values with a name, and what follows it. -/
def word? (text : Text) : Option (Json × Text) :=
  [(Text.ofString "null", Json.null), (Text.ofString "true", .bool true),
    (Text.ofString "false", .bool false)].findSome? fun (word, v) =>
      (Text.dropLead? word text).map (v, ·)

/-- A member of an object, and what follows it. -/
def member? (value? : Text → Option (Json × Text)) (text : Text) :
    Option ((String × Json) × Text) := do
  let rest ← Text.dropLead? [byte '"'] (skip text)
  let (name, rest) ← string? rest
  let rest ← Text.dropLead? [byte ':'] (skip rest)
  let (v, rest) ← value? rest
  return ((name, v), rest)

section

variable {α : Type} (item? : Text → Option (α × Text)) (closing : UInt8)

/-- Items with commas between them, at least one, up to a closing bracket, and
what follows the bracket. -/
def items? : (limit : Nat) → Text → Option (List α × Text)
  | 0, _ => none
  | limit + 1, text => do
    let (x, rest) ← item? text
    match skip rest with
    | [] => none
    | b :: rest =>
      if b = closing then return ([x], rest)
      else if b = byte ',' then do
        let (xs, rest) ← items? limit rest
        return (x :: xs, rest)
      else none

/-- What stands between two brackets, behind the first one. -/
def between? (limit : Nat) (text : Text) : Option (List α × Text) :=
  match skip text with
  | [] => none
  | b :: rest => if b = closing then some ([], rest) else items? item? closing limit text

end

/-- A value, and what follows it.  No value has more items or more levels than
bytes, so the number of bytes is limit enough. -/
def value? : (limit : Nat) → Text → Option (Json × Text)
  | 0, _ => none
  | limit + 1, text =>
    match skip text with
    | [] => none
    | b :: rest =>
      if b = byte '[' then do
        let (items, rest) ← between? (value? limit) (byte ']') limit rest
        return (.array items, rest)
      else if b = byte '\x7b' then do
        let (members, rest) ← between? (member? (value? limit)) (byte '\x7d') limit rest
        return (.object members, rest)
      else if b = byte '"' then do
        let (s, rest) ← string? rest
        return (.string s, rest)
      else (word? (b :: rest)).or (number? (b :: rest))

/-- The value that a text spells. -/
def read? (text : Text) : Option Json :=
  if text.isUtf8 then
    match value? (text.length + 1) text with
    | some (v, rest) => if skip rest = [] then some v else none
    | none => none
  else none

end Json
end ParseForest
