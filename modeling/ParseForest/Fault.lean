import ParseForest.Text.Basic

namespace ParseForest

/-!
# Faults

The operations on rules, arcs and charts take positions and indexes from their
callers.  One that does not exist is a fault: the operation gives no result and
leaves everything as it was.  Filling a chart from a grammar meets none of
them, whereas charts and arcs put together by hand can.
-/

/-- What can be wrong with the arguments of an operation. -/
inductive Fault where
  /-- There is no entry at `index` among `length` entries. -/
  | outOfRange (index : Int) (length : Nat)
  /-- A part cannot begin at `index`, in front of everything. -/
  | badStart (index : Int)
  /-- A part cannot end at `index`, behind all there is room for. -/
  | badStop (index : Int) (room : Nat)
  /-- A tree was asked for where none has been built. -/
  | noTree
  /-- A chart cannot have so many cells, or fewer than none. -/
  | badLength
  /-- A right-hand side of `length` symbols has none at `index`. -/
  | noSymbol (index : Int) (length : Nat)
  /-- Filling a chart has no end. -/
  | unfinished
  deriving DecidableEq

namespace Fault

def message : Fault → Text
  | .outOfRange index length =>
    if index < 0 then "runtime error: index out of range [" ++ Text.ofInt index ++ "]"
    else "runtime error: index out of range [" ++ Text.ofInt index ++ "] with length "
      ++ Text.ofNat length
  | .badStart index => "runtime error: slice bounds out of range [" ++ Text.ofInt index ++ ":]"
  | .badStop index room =>
    "runtime error: slice bounds out of range [:" ++ Text.ofInt index
      ++ (if index < 0 then Text.ofString "]" else "] with capacity " ++ Text.ofNat room)
  | .noTree => "runtime error: invalid memory address or nil pointer dereference"
  | .badLength => "runtime error: makeslice: len out of range"
  | .noSymbol index length =>
    "earley: rule symbol index " ++ Text.ofInt index ++ " out of range [0,"
      ++ Text.ofNat length ++ ")"
  | .unfinished => "earley: the chart is still growing"

end Fault

/-- The entry of a list at an index that may be any integer. -/
def entryAt {α : Type} (entries : List α) (index : Int) : Except Fault α :=
  if index < 0 then .error (.outOfRange index entries.length)
  else
    match entries[index.toNat]? with
    | some entry => .ok entry
    | none => .error (.outOfRange index entries.length)

end ParseForest
