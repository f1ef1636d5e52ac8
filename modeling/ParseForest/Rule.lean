import ParseForest.Fault
import ParseForest.Symbol
import ParseForest.Text.Quoted

namespace ParseForest

/-!
# Rules

A rule `head --> rhs` has a nonterminal head and one to three symbols on its
right-hand side.  It is lexical when the right-hand side is a single terminal
and syntactic when all of it is nonterminal; nothing else is admitted.  The
proof of that is a field of the type, so every rule met anywhere in the
library has one of these two shapes.
-/

/-- Why a head and a right-hand side do not make a rule. -/
inductive RuleDefect where
  /-- The head is a terminal. -/
  | terminalHead
  /-- There is nothing on the right. -/
  | emptyRhs
  /-- There are too many symbols on the right. -/
  | longRhs (length : Nat)
  /-- A terminal stands beside other symbols. -/
  | mixedRhs (token : Text)
  deriving DecidableEq

/-- A rejected rule: what was given, and the first thing wrong with it. -/
structure RuleError where
  head : Symbol
  rhs : List Symbol
  defect : RuleDefect
  deriving DecidableEq

namespace Rule

def maxLength : Nat := 3

/-- The written form of a head and a right-hand side. -/
def written (head : Symbol) (rhs : List Symbol) : Text :=
  head.text ++ " -->" ++ rhs.flatMap fun s => Text.byte ' ' :: s.text

/-- The token of the first terminal in a list of symbols. -/
def firstToken? : List Symbol → Option Text
  | [] => none
  | .terminal token :: _ => some token
  | .nonterminal _ :: rest => firstToken? rest

/-- The first thing wrong with a head and a right-hand side, in the order
head, emptiness, length, stray terminals. -/
def defect? (head : Symbol) (rhs : List Symbol) : Option RuleDefect :=
  if head.isTerminal then some .terminalHead
  else if rhs.length = 0 then some .emptyRhs
  else if maxLength < rhs.length then some (.longRhs rhs.length)
  else if rhs.length = 1 then none
  else (firstToken? rhs).map .mixedRhs

end Rule

namespace RuleDefect

def message : RuleDefect → Text
  | .terminalHead => "head must be a nonterminal"
  | .emptyRhs => "right-hand side is empty"
  | .longRhs length =>
    "right-hand side has " ++ Text.ofNat length ++ " symbols, at most "
      ++ Text.ofNat Rule.maxLength ++ " allowed"
  | .mixedRhs token =>
    "terminal " ++ Text.quoted token ++ " must be the only symbol of a lexical rule"

end RuleDefect

namespace RuleError

def message (e : RuleError) : Text :=
  "malformed rule " ++ Text.quoted (Rule.written e.head e.rhs) ++ ": " ++ e.defect.message

end RuleError

/-- A rule: a head and a right-hand side without a defect. -/
structure Rule where
  head : Symbol
  rhs : List Symbol
  sound : Rule.defect? head rhs = none
  deriving DecidableEq

namespace Rule

instance : Hashable Rule where
  hash r := mixHash (hash r.head) (hash r.rhs)

/-- Build a rule, or say why there is none. -/
def make (head : Symbol) (rhs : List Symbol) : Except RuleError Rule :=
  match h : defect? head rhs with
  | none => .ok ⟨head, rhs, h⟩
  | some defect => .error ⟨head, rhs, defect⟩

def length (r : Rule) : Nat :=
  r.rhs.length

/-- The symbol of the right-hand side at an index. -/
def symbolAt (r : Rule) (index : Int) : Except Fault Symbol :=
  match entryAt r.rhs index with
  | .ok s => .ok s
  | .error _ => .error (.noSymbol index r.length)

def token? (r : Rule) : Option Text :=
  match r.rhs with
  | [.terminal token] => some token
  | _ => none

def isLexical (r : Rule) : Bool :=
  r.token?.isSome

def text (r : Rule) : Text :=
  written r.head r.rhs

end Rule
end ParseForest
