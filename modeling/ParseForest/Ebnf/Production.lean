import ParseForest.Ebnf.Literal
import ParseForest.Text.Quoted

namespace ParseForest
namespace Ebnf

/-!
# Productions

A production names an expression: a name, a token, a range of characters, a
bracketed expression, a sequence or alternatives.  A sequence of one part is
that part, and so are alternatives of which there is only one.  Whatever is wrong
with a file is collected as complaints, in the order in which they are found, so
that a file can be mended in one go.
-/

/-- The kinds of bracketed expressions. -/
inductive Bracket where
  /-- Parentheses: the expression itself. -/
  | group
  /-- Square brackets: the expression or nothing. -/
  | option
  /-- Braces: the expression any number of times. -/
  | repetition
  deriving DecidableEq

inductive Expression where
  | name (pos : Position) (name : Text)
  | token (pos : Position) (value : Text)
  | range (pos : Position) (first : Text) (lastPos : Position) (last : Text)
  | bracketed (pos : Position) (bracket : Bracket) (body : Expression)
  | sequence (parts : List Expression)
  | alternatives (parts : List Expression)
  /-- Where an expression should have been. -/
  | missing (pos : Position)

namespace Expression

/-- Where an expression starts, if there is anything in it. -/
def pos? : Expression → Option Position
  | .name pos _ => some pos
  | .token pos _ => some pos
  | .range pos _ _ _ => some pos
  | .bracketed pos _ _ => some pos
  | .sequence [] => none
  | .sequence (e :: _) => e.pos?
  | .alternatives [] => none
  | .alternatives (e :: _) => e.pos?
  | .missing pos => some pos

/-- Some expressions in a row as one. -/
def ofTerms (pos : Position) : List Expression → Expression
  | [] => .missing pos
  | [e] => e
  | es => .sequence es

/-- Some expressions to choose from as one. -/
def ofAlternatives : List Expression → Expression
  | [e] => e
  | es => .alternatives es

/-- What there is to choose from in an expression: itself, unless it consists of
alternatives. -/
def choices : Expression → List Expression
  | .alternatives es => es
  | e => [e]

/-- What stands in a row in an expression: itself, unless it is a sequence. -/
def terms : Expression → List Expression
  | .sequence es => es
  | e => [e]

end Expression

/-- A production.  Its expression may be missing. -/
structure Production where
  pos : Position
  name : Text
  body : Option Expression

inductive Wanted where
  | kind (kind : TokenKind)
  | term

/-- Something wrong with a grammar file. -/
inductive Complaint where
  | expected (wanted : Wanted) (found : Token)
  | declaredAlready (pos : Position) (name : Text)
  | noStart (name : Text)
  | missing (pos : Position) (name : Text)
  | nonLexical (pos : Position) (name : Text)
  | notSingle (pos : Position) (value : Text)
  | decreasing (pos : Position)
  | unreachable (pos : Position) (name : Text)

/-- The name of a kind of token; a sign is quoted. -/
def TokenKind.text : TokenKind → Text
  | .eof => "EOF"
  | .ident => "Ident"
  | .int => "Int"
  | .float => "Float"
  | .char => "Char"
  | .string => "String"
  | .rawString => "RawString"
  | .sign c => Text.quoted (String.utf8EncodeChar c)

def Token.found (t : Token) : Text :=
  match t.kind with
  | .sign _ => t.kind.text
  | _ => t.kind.text ++ " " ++ t.text

def Wanted.text : Wanted → Text
  | .kind k => k.text
  | .term => "term"

namespace Complaint

/-- The complaint in words, behind its position.  That there is no start
production is true of no place in particular. -/
def message : Complaint → Text
  | .expected wanted found =>
    found.pos.text ++ ": expected \"" ++ wanted.text ++ "\", found " ++ found.found
  | .declaredAlready pos name => pos.text ++ ": " ++ name ++ " declared already"
  | .noStart name => fileText [] ++ ": no start production " ++ name
  | .missing pos name => pos.text ++ ": missing production " ++ name
  | .nonLexical pos name => pos.text ++ ": reference to non-lexical production " ++ name
  | .notSingle pos value => pos.text ++ ": single char expected, found " ++ value
  | .decreasing pos => pos.text ++ ": decreasing character range"
  | .unreachable pos name => pos.text ++ ": " ++ name ++ " is unreachable"

/-- Whether the complaint is about a production that nothing leads to. -/
def isUnreachable : Complaint → Bool
  | .unreachable _ _ => true
  | _ => false

/-- Several complaints in one line: the first, and how many there are besides. -/
def summary : List Complaint → Text
  | [] => "no errors"
  | [c] => c.message
  | c :: cs => c.message ++ " (and " ++ Text.ofNat cs.length ++ " more errors)"

end Complaint
end Ebnf
end ParseForest
