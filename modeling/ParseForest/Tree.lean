import ParseForest.Fault
import ParseForest.Symbol

namespace ParseForest

/-!
# Parse trees

A leaf is a token and a node is a phrase, each over a span.  Trees of
one forest share their parts, and it matters which nodes are one and the same:
a policy can tell trees apart by identity, and a forest can be drawn as a
graph.  Identity is a serial number, which whoever builds a tree takes from a
supply that never repeats.  Everything printed about a tree ignores it.
-/

/-- An interval of input positions, its end excluded. -/
structure Span where
  start : Int
  stop : Int
  deriving DecidableEq, Hashable

/-- A number kept in 64 bits: past the largest comes the smallest. -/
def wrapped (n : Int) : Int :=
  n.bmod 18446744073709551616

namespace Span

/-- The span of the token at a position.  Positions are numbers of 64 bits, so
the one behind the last is the first. -/
def single (pos : Int) : Span :=
  ⟨pos, wrapped (pos + 1)⟩

def length (s : Span) : Int :=
  wrapped (s.stop - s.start)

def text (s : Span) : Text :=
  "(" ++ Text.ofInt s.start ++ " " ++ Text.ofInt s.stop ++ ")"

end Span

/-- A parse tree, whose nodes are numbered by their builder. -/
inductive Tree where
  | leaf (serial : Nat) (span : Span) (token : Text)
  | node (serial : Nat) (span : Span) (head : Symbol) (children : List Tree)

namespace Tree

/-- The identity of the root. -/
def serial : Tree → Nat
  | .leaf serial _ _ => serial
  | .node serial _ _ _ => serial

def span : Tree → Span
  | .leaf _ span _ => span
  | .node _ span _ _ => span

/-- The label of the root: the token of a leaf as a terminal, the head of the
rule that built a node. -/
def head : Tree → Symbol
  | .leaf _ _ token => .terminal token
  | .node _ _ head _ => head

def children : Tree → List Tree
  | .leaf _ _ _ => []
  | .node _ _ _ children => children

def isLeaf : Tree → Bool
  | .leaf _ _ _ => true
  | .node _ _ _ _ => false

/-- The part below the root at an index. -/
def child (t : Tree) (index : Int) : Except Fault Tree :=
  entryAt t.children index

mutual

def leaves : Tree → List Text
  | .leaf _ _ token => [token]
  | .node _ _ _ children => leavesAll children

def leavesAll : List Tree → List Text
  | [] => []
  | t :: ts => leaves t ++ leavesAll ts

end

mutual

/-- Whether two trees have the same labels and spans throughout.  Equal serial
numbers settle the question at once, because a number is given out only
once. -/
def same : Tree → Tree → Bool
  | .leaf m span token, .leaf n span' token' => m = n || (span = span' && token = token')
  | .node m span head children, .node n span' head' children' =>
    m = n || (span = span' && head = head' && sameAll children children')
  | _, _ => false

/-- Whether two lists of trees are the same tree by tree. -/
def sameAll : List Tree → List Tree → Bool
  | [], [] => true
  | t :: ts, u :: us => same t u && sameAll ts us
  | _, _ => false

end

/-- Whether two trees are the same, where either may be missing.  A missing tree is
the same as another missing one only. -/
def sameIfAny : Option Tree → Option Tree → Bool
  | some t, some u => same t u
  | none, none => true
  | _, _ => false

mutual

/-- The tree as a bracketed expression on one line: tokens between single
quotes, nodes in parentheses behind their label. -/
def text : Tree → Text
  | .leaf _ _ token => "'" ++ token ++ "'"
  | .node _ _ head children => "(" ++ head.text ++ textAll children ++ ")"

/-- Several trees, each behind a space. -/
def textAll : List Tree → Text
  | [] => []
  | t :: ts => " " ++ text t ++ textAll ts

end

end Tree
end ParseForest
