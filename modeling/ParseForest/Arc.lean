import ParseForest.Policy
import ParseForest.Rule
import ParseForest.Tree

namespace ParseForest

/-!
# Arcs

An arc is a rule applied to the input from some position on, with the trees
that have been matched against its right-hand side so far.  A complete arc has
matched all of it and carries the tree it has built.  An arc is written with
the symbol it waits for.

Nothing stops a caller from matching beyond the right-hand side.  Such an arc
is never complete.  A rule has three places, and those its right-hand side
does not fill hold the blank symbol, so for a while it still waits for
something; past the last place asking for the next symbol is a fault.
-/

/-- What two arcs have in common when they differ in their trees at most. -/
structure ArcKey where
  span : Span
  rule : Rule
  dot : Nat
  deriving DecidableEq, Hashable

/-- A rule applied over a span, with the trees matched so far. -/
structure Arc where
  span : Span
  rule : Rule
  matched : List Tree
  built : Option Tree

namespace Arc

/-- The arc that has matched nothing yet. -/
def predict (rule : Rule) (pos : Int) : Arc where
  span := ⟨pos, pos⟩
  rule := rule
  matched := []
  built := none

/-- The arc that has matched the token over a span.  It takes two serial
numbers, one for the leaf and the next for the node above it. -/
def scan (serial : Nat) (rule : Rule) (span : Span) (token : Text) : Arc :=
  let leaf := Tree.leaf serial span token
  { span := span
    rule := rule
    matched := [leaf]
    built := some (.node (serial + 1) span rule.head [leaf]) }

/-- The number of symbols matched. -/
def dot (a : Arc) : Nat :=
  a.matched.length

def isComplete (a : Arc) : Bool :=
  a.dot = a.rule.length

/-- The arc that has matched one more tree.  Whether the tree fits is the
caller's affair.  If this completes the arc, the serial number goes to the
tree it builds. -/
def extend (serial : Nat) (a : Arc) (child : Tree) : Arc :=
  let span : Span := ⟨a.span.start, child.span.stop⟩
  let matched := a.matched ++ [child]
  { span := span
    rule := a.rule
    matched := matched
    built :=
      if matched.length = a.rule.length then some (.node serial span a.rule.head matched)
      else none }

/-- The symbol the arc waits for, if it is not complete. -/
def next (a : Arc) : Except Fault (Option Symbol) :=
  if a.isComplete then .ok none
  else if a.dot < Rule.maxLength then .ok (some (a.rule.rhs[a.dot]?.getD .blank))
  else .error (.outOfRange a.dot Rule.maxLength)

def tree (a : Arc) : Except Fault Tree :=
  match a.built with
  | some t => .ok t
  | none => .error .noTree

def key (a : Arc) : ArcKey :=
  ⟨a.span, a.rule, a.dot⟩

/-- The letter for completeness. -/
def state (a : Arc) : Text :=
  if a.isComplete then "c" else "i"

/-- The written form of the symbol the arc waits for, empty if it is complete. -/
def nextText (a : Arc) : Except Fault Text := do
  match ← a.next with
  | some s => return s.text
  | none => return []

def text (a : Arc) : Except Fault Text := do
  let next ← a.nextText
  return "[ " ++ a.rule.text ++ " (" ++ next ++ ") " ++ a.span.text ++ " " ++ a.state ++ " ]"

end Arc

namespace Policy

/-- Whether a policy takes two arcs for the same.  They have to agree on span,
rule and number of matched symbols, and in having a tree; trees are compared
as the policy says. -/
def merges (policy : Policy) (a b : Arc) : Bool :=
  a.key = b.key &&
    match a.built, b.built with
    | some t, some u =>
      match policy with
      | .span => true
      | .shape => t.same u
      | .identity => t.serial = u.serial
      | .unnamed _ => t.serial = u.serial
    | none, none => true
    | _, _ => false

end Policy
end ParseForest
