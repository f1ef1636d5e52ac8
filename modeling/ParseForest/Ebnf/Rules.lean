import ParseForest.Ebnf.Check
import ParseForest.Grammar

namespace ParseForest
namespace Ebnf

/-!
# From productions to rules

Each alternative of a production becomes one rule.  It has to be a single token
or one to three names of productions; anything else has no counterpart among
rules.  An expression that is no sequence counts as a sequence of itself alone, and
one that has no alternatives as the only one.  Productions are taken in the order in which they stand in the file,
however they are handed over, and the first one is the start symbol.  The
first obstacle in that order is reported.
-/

/-- Why productions are not a grammar. -/
inductive ConversionError where
  | noProductions
  | emptyProduction (pos : Position) (name : Text)
  | undefinedName (pos : Position) (name : Text)
  | unsupported (e : Expression)
  | malformed (pos : Position) (error : RuleError)

/-- The name of a kind of expression. -/
def Expression.kind : Expression → Text
  | .name _ _ => "*ebnf.Name"
  | .token _ _ => "*ebnf.Token"
  | .range _ _ _ _ => "*ebnf.Range"
  | .bracketed _ .group _ => "*ebnf.Group"
  | .bracketed _ .option _ => "*ebnf.Option"
  | .bracketed _ .repetition _ => "*ebnf.Repetition"
  | .sequence _ => "ebnf.Sequence"
  | .alternatives _ => "ebnf.Alternative"
  | .missing _ => "*ebnf.Bad"

namespace ConversionError

def message : ConversionError → Text
  | .noProductions => "grammar has no productions"
  | .emptyProduction pos name => pos.text ++ ": production " ++ name ++ " is empty"
  | .undefinedName pos name => pos.text ++ ": undefined production " ++ name
  | .unsupported e =>
    (e.pos?.map Position.text).getD [] ++ ": unsupported expression " ++ e.kind
      ++ " (only names and tokens are allowed)"
  | .malformed pos error => pos.text ++ ": " ++ error.message

end ConversionError

def Expression.symbol (all : List Production) : Expression → Except ConversionError Symbol
  | .name pos called =>
    if all.any (·.name = called) then .ok (.nonterminal called)
    else .error (.undefinedName pos called)
  | .token _ value => .ok (.terminal value)
  | e => .error (.unsupported e)

/-- The rule of an alternative of the production `p`. -/
def Production.rule (all : List Production) (p : Production) (alternative : Expression) :
    Except ConversionError Rule := do
  let rhs ← alternative.terms.mapM (Expression.symbol all)
  match Rule.make (.nonterminal p.name) rhs with
  | .ok r => return r
  | .error e => throw (.malformed (alternative.pos?.getD p.pos) e)

def Production.rules (all : List Production) (p : Production) :
    Except ConversionError (List Rule) :=
  match p.body with
  | none => .error (.emptyProduction p.pos p.name)
  | some body => body.choices.mapM (p.rule all)

/-- Productions in the order of their places in the file. -/
def inFileOrder (all : List Production) : List Production :=
  all.mergeSort fun p q => p.pos.offset ≤ q.pos.offset

/-- The grammar of some productions, handed over in any order. -/
def convert (all : List Production) : Except ConversionError Definition :=
  match inFileOrder all with
  | [] => .error .noProductions
  | first :: rest => do
    let rules ← (first :: rest).mapM (Production.rules all)
    return ⟨.ofRules rules.flatten, .nonterminal first.name⟩

/-- Why a grammar file gives no grammar. -/
inductive LoadError where
  | unreadable (complaints : List Complaint)
  | unverified (complaints : List Complaint)
  | unconvertible (error : ConversionError)

namespace LoadError

def message : LoadError → Text
  | .unreadable complaints => "parse grammar: " ++ Complaint.summary complaints
  | .unverified complaints => "verify grammar: " ++ Complaint.summary complaints
  | .unconvertible error => error.message

/-- The complaints behind the reason, if it consists of complaints. -/
def complaints? : LoadError → Option (List Complaint)
  | .unreadable complaints => some complaints
  | .unverified complaints => some complaints
  | .unconvertible _ => none

/-- The rejected rule behind the reason, if there is one. -/
def ruleError? : LoadError → Option RuleError
  | .unconvertible (.malformed _ error) => some error
  | _ => none

end LoadError

def load (file source : Text) : Except LoadError Definition :=
  match read file source with
  | .error complaints => .error (.unreadable complaints)
  | .ok productions =>
    match convert productions with
    | .error e => .error (.unconvertible e)
    | .ok definition => .ok definition

/-- Check the productions of a file from a start production on. -/
def verify (file source start : Text) : Except LoadError Unit :=
  match read file source with
  | .error complaints => .error (.unreadable complaints)
  | .ok productions =>
    match check productions start with
    | [] => .ok ()
    | complaints => .error (.unverified complaints)

end Ebnf
end ParseForest
