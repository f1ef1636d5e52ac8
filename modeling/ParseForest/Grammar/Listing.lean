import ParseForest.Grammar
import ParseForest.Table

namespace ParseForest
namespace Grammar

/-!
# Listings of a grammar

The rules of a grammar are listed in order as a table of head, right-hand side
and kind.
-/

def row (r : Rule) : List Text :=
  [r.head.text, Text.spaced (r.rhs.map Symbol.text),
    if r.isLexical then "lexical" else "syntactic"]

def table (g : Grammar) : Table where
  titles := ["HEAD", "RHS", "KIND"]
  gap := "    "
  rows := g.rules.map row

end Grammar
end ParseForest
