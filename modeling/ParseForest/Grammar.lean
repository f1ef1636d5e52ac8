import Std.Data.HashMap
import ParseForest.Rule

namespace ParseForest

/-!
# Grammars

A grammar is a list of rules.  Order matters, since it decides in which order
predictions are made, and so do repetitions, which are kept.  Beside the list
stands an index, which knows for every head the places of its rules in the
list.  The index is a function of the list, and a field of the type says so:
two grammars with the same rules are equal.
-/

/-- The places in a list of rules by head, and the heads in order of
appearance. -/
structure HeadIndex (rules : List Rule) where
  byHead : Std.HashMap Symbol (List (Fin rules.length))
  heads : List Symbol

namespace HeadIndex

variable {rules : List Rule}

def empty : HeadIndex rules where
  byHead := ∅
  heads := []

def add (index : HeadIndex rules) (place : Fin rules.length) : HeadIndex rules :=
  let head := (rules.get place).head
  { heads := if index.byHead.contains head then index.heads else index.heads ++ [head]
    byHead := index.byHead.alter head fun places => some (places.getD [] ++ [place]) }

def ofRules (rules : List Rule) : HeadIndex rules :=
  (List.finRange rules.length).foldl add empty

end HeadIndex

/-- An ordered collection of rules, searchable by head. -/
structure Grammar where
  rules : List Rule
  index : HeadIndex rules
  index_eq : index = HeadIndex.ofRules rules

namespace Grammar

def ofRules (rules : List Rule) : Grammar :=
  ⟨rules, .ofRules rules, rfl⟩

/-- The places of the rules with a given head, from the first to the last. -/
def placesOf (g : Grammar) (head : Symbol) : List (Fin g.rules.length) :=
  g.index.byHead.getD head []

def rulesFor (g : Grammar) (head : Symbol) : List Rule :=
  (g.placesOf head).map g.rules.get

/-- Go through the rules with a given head in grammar order, and hand a state on
from one to the next. -/
def each {σ : Type} (g : Grammar) (head : Symbol) (visit : σ → Rule → σ) (state : σ) : σ :=
  (g.placesOf head).foldl (fun state place => visit state (g.rules.get place)) state

def has (g : Grammar) (head : Symbol) : Bool :=
  g.index.byHead.contains head

/-- The distinct heads in order of first appearance. -/
def heads (g : Grammar) : List Symbol :=
  g.index.heads

/-- The number of rules, repetitions included. -/
def size (g : Grammar) : Nat :=
  g.rules.length

end Grammar

/-- A grammar together with the symbol that parses start from. -/
structure Definition where
  grammar : Grammar
  start : Symbol

end ParseForest
