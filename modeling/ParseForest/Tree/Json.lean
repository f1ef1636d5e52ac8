import ParseForest.Text.Utf8
import ParseForest.Tree

namespace ParseForest

/-!
# Trees as JSON

A node is an object with its written label, its span as an array of two
numbers and its children; a leaf repeats its token and has no children.
Fields without content are left out.  Objects and arrays are indented by two
spaces a level, one member or element per line.  Bytes that are not UTF-8 show
as U+FFFD itself.

Objects and arrays may not nest without end, so a tree that is too deep has no
JSON.
-/

namespace Text

/-- One character of a JSON string.  Besides what JSON requires, the characters
that matter to HTML and to script are escaped. -/
def jsonChar (c : Char) : Text :=
  match c with
  | '"' => "\\\""
  | '\\' => "\\\\"
  | '\n' => "\\n"
  | '\r' => "\\r"
  | '\t' => "\\t"
  | '\x08' => "\\b"
  | '\x0c' => "\\f"
  | _ =>
    if c.toNat < 0x20 || c = '<' || c = '>' || c = '&' || c.toNat = 0x2028 || c.toNat = 0x2029 then
      "\\u" ++ ofHex 4 c.toNat
    else String.utf8EncodeChar c

def json (text : Text) : Text :=
  byte '"' :: (text.chars.flatMap jsonChar ++ [byte '"'])

end Text

namespace Tree

/-- A new line at a level of indentation. -/
def jsonLine (level : Nat) : Text :=
  Text.byte '\n' :: Text.blanks (2 * level)

/-- The span of a tree as the field of an object whose fields stand at the
given level. -/
def jsonSpan (level : Nat) (span : Span) : Text :=
  "\"span\": [" ++ jsonLine (level + 1) ++ Text.ofInt span.start ++ "," ++ jsonLine (level + 1)
    ++ Text.ofInt span.stop ++ jsonLine level ++ "]"

/-- The field for a token, left out if the token is empty. -/
def jsonToken (level : Nat) (token : Text) : Text :=
  if token = [] then [] else "," ++ jsonLine level ++ "\"token\": " ++ token.json

mutual

/-- A tree as the object whose braces stand at the given level. -/
def jsonAt (level : Nat) : Tree → Text
  | .leaf _ span token =>
    "\x7b" ++ jsonLine (level + 1) ++ "\"head\": " ++ token.json
      ++ jsonToken (level + 1) token ++ "," ++ jsonLine (level + 1) ++ jsonSpan (level + 1) span
      ++ jsonLine level ++ "\x7d"
  | .node _ span head children =>
    "\x7b" ++ jsonLine (level + 1) ++ "\"head\": " ++ head.text.json
      ++ "," ++ jsonLine (level + 1) ++ jsonSpan (level + 1) span
      ++ jsonChildren (level + 1) children
      ++ jsonLine level ++ "\x7d"

/-- The field for the children, left out if there are none. -/
def jsonChildren (level : Nat) : List Tree → Text
  | [] => []
  | t :: ts =>
    "," ++ jsonLine level ++ "\"children\": [" ++ jsonLine (level + 1)
      ++ jsonAt (level + 1) t ++ jsonMore (level + 1) ts ++ jsonLine level ++ "]"

def jsonMore (level : Nat) : List Tree → Text
  | [] => []
  | t :: ts => "," ++ jsonLine level ++ jsonAt level t ++ jsonMore level ts

end

/-- A tree as JSON, however deep it is. -/
def json (t : Tree) : Text :=
  jsonAt 0 t

mutual

/-- How deep objects and arrays nest in the JSON of a tree.  A node is an object
with an array in it: its span, and its children if it has any. -/
def jsonDepth : Tree → Nat
  | .leaf _ _ _ => 2
  | .node _ _ _ children => 2 + jsonDepthAll children

def jsonDepthAll : List Tree → Nat
  | [] => 0
  | t :: ts => max t.jsonDepth (jsonDepthAll ts)

end

/-- How deep objects and arrays may nest. -/
def jsonDepthLimit : Nat := 10000

/-- A tree has no JSON, as it is too deep. -/
structure TooDeep where
  deriving DecidableEq

def TooDeep.message (_ : TooDeep) : Text :=
  "exceeded max depth"

end Tree
end ParseForest
