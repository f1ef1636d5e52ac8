import Std.Data.HashMap
import ParseForest.Tree

namespace ParseForest

/-!
# Forests as graphs

The trees of a forest share parts.  Drawn as a graph, a forest shows every
distinct node once, where nodes are distinct by identity and not by content.
Nodes are numbered in the order in which a walk leaves them for the first
time: children before their parent, from left to right, tree after tree.
-/

/-- A node of a graph, with the numbers of its children. -/
structure GraphNode where
  head : Symbol
  span : Span
  children : List Nat

/-- A graph under construction, with the numbers given to serial numbers. -/
structure Graph where
  nodes : Array GraphNode := #[]
  numbers : Std.HashMap Nat Nat := ∅

namespace Graph

/-- Add a node whose children have their numbers already. -/
def add (g : Graph) (serial : Nat) (node : GraphNode) : Nat × Graph :=
  (g.nodes.size, ⟨g.nodes.push node, g.numbers.insert serial g.nodes.size⟩)

mutual

def visit (g : Graph) : Tree → Nat × Graph
  | .leaf serial span token =>
    match g.numbers[serial]? with
    | some number => (number, g)
    | none => g.add serial ⟨.terminal token, span, []⟩
  | .node serial span head children =>
    match g.numbers[serial]? with
    | some number => (number, g)
    | none =>
      let (numbers, g) := visitAll g children
      g.add serial ⟨head, span, numbers⟩

def visitAll (g : Graph) : List Tree → List Nat × Graph
  | [] => ([], g)
  | t :: ts =>
    let (number, g) := visit g t
    let (numbers, g) := visitAll g ts
    (number :: numbers, g)

end

/-- The nodes of a forest, and the numbers of its roots. -/
def ofForest (trees : List Tree) : List GraphNode × List Nat :=
  let (roots, g) := visitAll {} trees
  (g.nodes.toList, roots)

end Graph
end ParseForest
