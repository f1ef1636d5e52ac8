import ParseForest.Text.Quoted

namespace ParseForest
namespace Command

/-!
# Values on the command line

A whole number is written in base ten, or after `0b`, `0o` and `0x` in base
two, eight and sixteen; a leading zero alone also means base eight.  A sign may
stand in front, and underscores may stand between digits and behind what marks
the base.  Numbers have to fit into 64 bits with sign.  A truth value is one of
twelve words.
-/

/-- Why a text is not a value. -/
inductive ValueError where
  | notNumber (written : Text)
  | tooLarge (written : Text)
  | notTruth (written : Text)
  deriving DecidableEq

def ValueError.message : ValueError → Text
  | .notNumber written => "strconv.ParseInt: parsing " ++ Text.quoted written ++ ": invalid syntax"
  | .tooLarge written =>
    "strconv.ParseInt: parsing " ++ Text.quoted written ++ ": value out of range"
  | .notTruth written => "strconv.ParseBool: parsing " ++ Text.quoted written ++ ": invalid syntax"

namespace Numeral

/-- What is wrong with the digits of a number. -/
inductive Flaw where
  | shape
  | size

/-- An ASCII letter in lower case.  Other bytes may change as well, but none of
them becomes a letter. -/
def lower (b : UInt8) : UInt8 :=
  b ||| 0x20

/-- The value of a digit.  Letters go on where the decimal digits end. -/
def digitValue? (b : UInt8) : Option Nat :=
  if Text.byte '0' ≤ b ∧ b ≤ Text.byte '9' then some (b.toNat - 48)
  else if Text.byte 'a' ≤ lower b ∧ lower b ≤ Text.byte 'z' then some ((lower b).toNat - 87)
  else none

/-- The base of a number without sign, whether something marks the base, and
the digits. -/
def layout : Text → Nat × Bool × Text
  | [] => (10, false, [])
  | zero :: rest =>
    if zero = Text.byte '0' then
      match rest with
      | mark :: digit :: digits =>
        if lower mark = Text.byte 'b' then (2, true, digit :: digits)
        else if lower mark = Text.byte 'o' then (8, true, digit :: digits)
        else if lower mark = Text.byte 'x' then (16, true, digit :: digits)
        else (8, true, rest)
      | _ => (8, true, rest)
    else (10, false, zero :: rest)

/-- The first number that has no place in 64 bits. -/
def wordLimit : Nat := 18446744073709551616

/-- The value of digits behind others of value `n`, as far as 64 bits reach.
Underscores are passed over.  The first flaw from the left counts. -/
def value (base n : Nat) : Text → Except Flaw Nat
  | [] => .ok n
  | b :: rest =>
    if b = Text.byte '_' then value base n rest
    else
      match digitValue? b with
      | none => .error .shape
      | some d =>
        if base ≤ d then .error .shape
        else if wordLimit ≤ n * base + d then .error .size
        else value base (n * base + d) rest

/-- Whether every underscore has a digit on both sides.  The argument tells
whether a digit, or what marks the base, stands in front. -/
def underscoresFit : Bool → Text → Bool
  | before, [] => before
  | before, b :: rest =>
    if b = Text.byte '_' then before && underscoresFit false rest else underscoresFit true rest

/-- The value of a number without sign. -/
def magnitude (text : Text) : Except Flaw Nat :=
  if text = [] then .error .shape
  else
    let (base, marked, digits) := layout text
    match value base 0 digits with
    | .error flaw => .error flaw
    | .ok n =>
      if digits.contains (Text.byte '_') && !underscoresFit marked digits then .error .shape
      else .ok n

end Numeral

/-- Whether the number is negative, and the number without its sign. -/
def unsigned : Text → Bool × Text
  | [] => (false, [])
  | b :: rest =>
    if b = Text.byte '-' then (true, rest)
    else if b = Text.byte '+' then (false, rest)
    else (false, b :: rest)

/-- The largest magnitude of a number.  Only a negative number has it. -/
def largest : Nat := 9223372036854775808

/-- The whole number that a text denotes. -/
def readNumber (text : Text) : Except ValueError Int :=
  let (negative, digits) := unsigned text
  match Numeral.magnitude digits with
  | .error .shape => .error (.notNumber text)
  | .error .size => .error (.tooLarge text)
  | .ok n =>
    if negative then
      if n ≤ largest then .ok (Int.negOfNat n) else .error (.tooLarge text)
    else if n < largest then .ok (Int.ofNat n)
    else .error (.tooLarge text)

def yesWords : List Text := ["1", "t", "T", "true", "TRUE", "True"]

def noWords : List Text := ["0", "f", "F", "false", "FALSE", "False"]

/-- The truth value that a text denotes. -/
def readTruth (text : Text) : Except ValueError Bool :=
  if yesWords.contains text then .ok true
  else if noWords.contains text then .ok false
  else .error (.notTruth text)

end Command
end ParseForest
