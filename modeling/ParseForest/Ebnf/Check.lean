import ParseForest.Ebnf.Reader

namespace ParseForest
namespace Ebnf

/-!
# Checking productions

Starting from one production, everything it refers to has to be declared, a
lexical production may refer only to lexical ones, ranges have to ascend, and
every production has to be reached.  A production is lexical unless its name
begins with an upper-case letter.
-/

/-- Whether a name is that of a lexical production. -/
def isLexicalName (name : Text) : Bool :=
  !Text.isUpper (name.chars.head?.getD Glyph.replacement)

/-- A check in progress: the productions still to be looked at, the last found
on top, the names found so far, and the complaints, the latest first. -/
structure Check where
  pending : List Production
  found : List Text
  complaints : List Complaint

namespace Check

def complain (s : Check) (c : Complaint) : Check :=
  { s with complaints := c :: s.complaints }

/-- Note that a production is referred to. -/
def reach (s : Check) (p : Production) : Check :=
  if s.found.contains p.name then s
  else { s with pending := p :: s.pending, found := p.name :: s.found }

/-- Check one end of a range.  Its code, zero if it is not one character. -/
def checkEnd (s : Check) (pos : Position) (value : Text) : Nat × Check :=
  match value.chars with
  | [c] => (c.toNat, s)
  | _ => (0, s.complain (.notSingle pos value))

mutual

/-- Check an expression inside a lexical or non-lexical production. -/
def checkExpression (all : List Production) (lexical : Bool) (s : Check) :
    Expression → Check
  | .name pos name =>
    let s := match all.find? (·.name = name) with
      | some p => s.reach p
      | none => s.complain (.missing pos name)
    if lexical && !isLexicalName name then s.complain (.nonLexical pos name) else s
  | .token _ _ => s
  | .range pos first lastPos last =>
    let (low, s) := s.checkEnd pos first
    let (high, s) := s.checkEnd lastPos last
    if high ≤ low then s.complain (.decreasing pos) else s
  | .bracketed _ _ body => checkExpression all lexical s body
  | .sequence parts => checkAll all lexical s parts
  | .alternatives parts => checkAll all lexical s parts
  | .missing _ => s

def checkAll (all : List Production) (lexical : Bool) (s : Check) :
    List Expression → Check
  | [] => s
  | e :: es => checkAll all lexical (checkExpression all lexical s e) es

end

/-- Check what is pending, for at most `fuel` productions.  A production is
pending only once. -/
def checkPending (all : List Production) : (fuel : Nat) → Check → Check
  | 0, s => s
  | fuel + 1, s =>
    match s.pending with
    | [] => s
    | p :: pending =>
      checkPending all fuel
        (checkAll all (isLexicalName p.name) { s with pending := pending } p.body.toList)

/-- Order by bytes. -/
def atMost : Text → Text → Bool
  | [], _ => true
  | _ :: _, [] => false
  | a :: as, b :: bs => a < b || (a = b && atMost as bs)

end Check

/-- Everything wrong with productions when parses start from `start`.
Complaints about productions that are not reached come last, in the order of
their wording. -/
def check (all : List Production) (start : Text) : List Complaint :=
  match all.find? (·.name = start) with
  | none => [.noStart start]
  | some root =>
    let s := Check.checkPending all (all.length + 1) (Check.reach ⟨[], [], []⟩ root)
    let missed := all.filter fun p => !s.found.contains p.name
    s.complaints.reverse
      ++ (missed.map fun p => Complaint.unreachable p.pos p.name).mergeSort
        (fun a b => Check.atMost a.message b.message)

end Ebnf
end ParseForest
