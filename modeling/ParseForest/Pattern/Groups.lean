import ParseForest.Text.Basic

namespace ParseForest
namespace Pattern

/-!
# The groups of a pattern

Groups have numbers.  Those without a number of their own are numbered in the
order of their opening parentheses, and those with a name take the next free
numbers behind them.  Group 0 is the whole pattern.

A number can be used as a name.  If a name looks like the number of another
group, it is the name of that group.
-/

/-- The groups of a pattern: the numbers in use, and the numbers of names. -/
structure Groups where
  slots : List Nat := [0]
  names : List (List Char × Nat) := []

namespace Groups

def noteSlot (g : Groups) (slot : Nat) : Groups :=
  if g.slots.contains slot then g else { g with slots := g.slots ++ [slot] }

/-- Note a name, whose number is not known yet. -/
def noteName (g : Groups) (name : List Char) : Groups :=
  if g.names.any (·.1 = name) then g else { g with names := g.names ++ [(name, 0)] }

/-- The least number from `slot` on that is not in use, among the next `fuel`. -/
def freeFrom (slots : List Nat) : (fuel slot : Nat) → Nat
  | 0, slot => slot
  | fuel + 1, slot => if slots.contains slot then freeFrom slots fuel (slot + 1) else slot

/-- Number the names in order, from `slot` on. -/
def numberNames (slots : List Nat) (slot : Nat) : List (List Char × Nat) → Groups
  | [] => ⟨slots, []⟩
  | (name, _) :: others =>
    let slot := freeFrom slots slots.length slot
    let g := numberNames (slots ++ [slot]) (slot + 1) others
    { g with names := (name, slot) :: g.names }

def ordered (g : Groups) : List Nat :=
  g.slots.mergeSort

/-- Give a name to a number, in place of the number that the name had before. -/
def rename (names : List (List Char × Nat)) (name : List Char) (slot : Nat) :
    List (List Char × Nat) :=
  if names.any (·.1 = name) then
    names.map fun entry => if entry.1 = name then (name, slot) else entry
  else names ++ [(name, slot)]

def digitsOf (n : Nat) : List Char :=
  Nat.toDigits 10 n

/-- Make the numbers in use names of themselves, in order, unless it is the turn
of a group with a name.  `waiting` are the names whose turn has not come, and
`next` is the number whose turn is the first of them. -/
def nameNumbers (names : List (List Char × Nat)) (waiting : List (List Char))
    (next : Option Nat) : List Nat → List (List Char × Nat)
  | [] => names
  | slot :: slots =>
    if next = some slot then
      nameNumbers names (waiting.drop 1) (waiting[1]?.bind fun name => names.lookup name) slots
    else nameNumbers (rename names (digitsOf slot) slot) waiting next slots

/-- Number the names and settle what each name means, once all groups have been
noted.  `slot` is the next number for a group without one. -/
def settle (g : Groups) (slot : Nat) : Groups :=
  let g := numberNames g.slots slot g.names
  match g.names with
  | [] => g
  | (_, first) :: _ =>
    { g with names := nameNumbers g.names (g.names.map Prod.fst) (some first) g.ordered }

def hasSlot (g : Groups) (slot : Nat) : Bool :=
  g.slots.contains slot

def slot? (g : Groups) (name : List Char) : Option Nat :=
  g.names.lookup name

def size (g : Groups) : Nat :=
  g.slots.length

/-- Where the group with a number stands among all groups in order.  If the
numbers have no gap, this is the number itself. -/
def index (g : Groups) (slot : Nat) : Nat :=
  if g.hasSlot slot then (g.slots.filter (· < slot)).length
  else if g.slots.all (· < g.size) then slot
  else 0

end Groups
end Pattern
end ParseForest
