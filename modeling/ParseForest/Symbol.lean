import ParseForest.Text.Basic

namespace ParseForest

/-!
# Grammar symbols

A symbol is a terminal, which stands for one token with exactly that text, or
a nonterminal, which stands for a phrase.  In written form a nonterminal
carries the sigil `$`.  A terminal may itself start with that sign, so the
written form does not determine the symbol and equality is never decided on
it.
-/

inductive Symbol where
  | terminal (token : Text)
  | nonterminal (name : Text)
  deriving DecidableEq, Hashable

namespace Symbol

/-- The sign in front of a nonterminal's name. -/
def sigil : UInt8 := Text.byte '$'

/-- Read the written form: a leading sigil makes a nonterminal, and only the
first one is taken off. -/
def ofText : Text → Symbol
  | [] => .terminal []
  | b :: rest => if b = sigil then .nonterminal rest else .terminal (b :: rest)

def name : Symbol → Text
  | .terminal token => token
  | .nonterminal name => name

/-- Whether the symbol stands for a token. -/
def isTerminal : Symbol → Bool
  | .terminal _ => true
  | .nonterminal _ => false

/-- Whether the symbol stands for a phrase. -/
def isNonterminal (s : Symbol) : Bool :=
  !s.isTerminal

def text : Symbol → Text
  | .terminal token => token
  | .nonterminal name => sigil :: name

/-- The nonterminal without a name.  It fills the places of a rule that its
right-hand side does not reach. -/
def blank : Symbol := .nonterminal []

instance : Inhabited Symbol := ⟨blank⟩

end Symbol
end ParseForest
