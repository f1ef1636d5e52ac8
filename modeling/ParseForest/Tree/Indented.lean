import ParseForest.Tree

namespace ParseForest
namespace Tree

/-!
# Trees over several lines

One line per node: a node opens with a parenthesis and its label and closes
with a parenthesis on a line of its own, a token stands between single quotes,
and each level is indented by four more spaces.
-/

mutual

/-- The lines of a tree at a level of indentation. -/
def indentedAt (level : Nat) : Tree → Text
  | .leaf _ _ token => Text.blanks (4 * level) ++ "'" ++ token ++ "'\n"
  | .node _ _ head children =>
    Text.blanks (4 * level) ++ "(" ++ head.text ++ "\n" ++ indentedAllAt (level + 1) children
      ++ Text.blanks (4 * level) ++ ")\n"

def indentedAllAt (level : Nat) : List Tree → Text
  | [] => []
  | t :: ts => indentedAt level t ++ indentedAllAt level ts

end

def indented (t : Tree) : Text :=
  indentedAt 0 t

end Tree
end ParseForest
