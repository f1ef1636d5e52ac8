import ParseForest.Text.Utf8

namespace ParseForest
namespace Pattern

/-!
# What can be wrong with a pattern
-/

/-- Why a text is not a pattern. -/
inductive ReadError where
  | missingParen
  | unexpectedParen
  | unterminatedSet
  | nothingToRepeat
  | nestedRepetition
  | badRepeatCount
  | escapeAtEnd
  | reversedRange (first last : Nat)
  | classInRange (letter : Char)
  | unknownAsciiClass
  | takenSetNotLast
  | unknownClass (name : List Char)
  | incompleteClass
  | unknownGrouping (opening : List Char)
  | unterminatedComment
  | badGroupName
  | groupZero
  | numberTooLarge
  | undefinedNumber (number : Nat)
  | undefinedName (name : List Char)
  | malformedNameRef
  | missingBrace
  | fewHexDigits
  | hexTooLarge
  | missingControl
  | unknownControl
  | malformedCondition (number : Nat)
  | undefinedCondition (number : Nat)
  | conditionIsComment
  | conditionIsNamed
  | tooManyBranches
  deriving DecidableEq

/-- The bytes of a code point; one that is no character shows as U+FFFD. -/
def codeText (code : Nat) : Text :=
  String.utf8EncodeChar ((Text.scalar? 0 code).getD Glyph.replacement)

def ReadError.message : ReadError → Text
  | .missingParen => "missing closing )"
  | .unexpectedParen => "unexpected )"
  | .unterminatedSet => "unterminated [] set"
  | .nothingToRepeat => "missing argument to repetition operator"
  | .nestedRepetition => "invalid nested repetition operator"
  | .badRepeatCount => "invalid repeat count"
  | .escapeAtEnd => "illegal \\ at end of pattern"
  | .reversedRange first last =>
    "[" ++ codeText first ++ "-" ++ codeText last ++ "] range in reverse order"
  | .classInRange letter =>
    "cannot include class \\" ++ Text.ofNat letter.toNat ++ " in character range"
  | .unknownAsciiClass => "invalid character class range"
  | .takenSetNotLast => "a subtraction must be the last element in a character class"
  | .unknownClass name =>
    "unknown unicode category, script, or property '" ++ Text.ofChars name ++ "'"
  | .incompleteClass => "incomplete \\p\x7bX\x7d character escape"
  | .unknownGrouping opening => "unrecognized grouping construct: (" ++ Text.ofChars opening
  | .unterminatedComment => "unterminated comment"
  | .badGroupName =>
    "invalid group name: group names must begin with a word character and have a matching terminator"
  | .groupZero => "capture number cannot be zero"
  | .numberTooLarge => "capture group number out of range"
  | .undefinedNumber number => "reference to undefined group number " ++ Text.ofNat number
  | .undefinedName name => "reference to undefined group name " ++ Text.ofChars name
  | .malformedNameRef => "malformed \\k<...> named back reference"
  | .missingBrace => "missing closing \x7d"
  | .fewHexDigits => "insufficient hexadecimal digits"
  | .hexTooLarge => "hex values may not be larger than 0x10FFFF"
  | .missingControl => "missing control character"
  | .unknownControl => "unrecognized control character"
  | .malformedCondition number => "(?(" ++ Text.ofNat number ++ ") ) malformed"
  | .undefinedCondition number => "(?(" ++ Text.ofNat number ++ ") ) reference to undefined group"
  | .conditionIsComment => "alternation conditions cannot be comments"
  | .conditionIsNamed => "alternation conditions do not capture and cannot be named"
  | .tooManyBranches => "too many | in (?()|)"

end Pattern
end ParseForest
