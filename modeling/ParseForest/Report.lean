import ParseForest.Tree.Format

namespace ParseForest
namespace Report

/-!
# Reports

A report shows a sentence, the number of its parses and every parse.  The two
lines above the parses are a chunk each, and the report ends at the first
chunk that is refused, or at the first tree that cannot be written.
-/

def writeTrees (format : Format) : List Tree → Writing Unit
  | [] => return ()
  | t :: ts => do
    Writing.within "encode: " (format.write t)
    writeTrees format ts

/-- Write the report of a sentence. -/
def write (format : Format) (tokens : List Text) (trees : List Tree) : Writing Unit := do
  Writing.put ("Input: " ++ Text.spaced tokens ++ "\n")
  Writing.put ("# parses: " ++ Text.ofNat trees.length ++ "\n")
  writeTrees format trees

end Report
end ParseForest
