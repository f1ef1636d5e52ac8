namespace ParseForest
namespace Text

/-!
# Tables of character properties

A property that gives every code point a value is stored as the list of places
where the value changes.  A table is written as text, one `start:value` entry
per run with the start in hexadecimal, sorted by start; a set of code points
is written as `first-last` entries.  Looking up a code point finds the last
run that starts at or before it.
-/

/-- The value of a hexadecimal digit in upper case. -/
def hexValue (c : Char) : Nat :=
  if c.isDigit then c.toNat - 48 else c.toNat - 55

/-- A number written in hexadecimal. -/
def readHex (s : String) : Nat :=
  s.toList.foldl (fun n c => 16 * n + hexValue c) 0

/-- The entries of a table, which blanks and line ends separate. -/
def entries (table : String) : List String :=
  ((table.splitOn "\n").flatMap (·.splitOn " ")).filter (· ≠ "")

/-- The last of the entries `lo … hi - 1` that starts at or before `code`, or
`lo` if none does.  The entries are sorted by their start. -/
def lastFrom {α : Type} (runs : Array (Nat × α)) (code lo hi : Nat) : Nat :=
  if lo + 1 < hi then
    let mid := (lo + hi) / 2
    if (runs[mid]?.map Prod.fst).getD 0 ≤ code then lastFrom runs code mid hi
    else lastFrom runs code lo mid
  else lo
termination_by hi - lo

/-- The runs of a table: each holds from its code point up to the next one. -/
structure Runs where
  runs : Array (Nat × String)

namespace Runs

def read (table : String) : Runs where
  runs := ((entries table).map fun entry =>
    match entry.splitOn ":" with
    | [start, value] => (readHex start, value)
    | _ => (0, "")).toArray

def value (table : Runs) (code : Nat) : String :=
  (table.runs[lastFrom table.runs code 0 table.runs.size]?.map Prod.snd).getD ""

/-- The values that occur, in order of first appearance. -/
def values (table : Runs) : List String :=
  table.runs.toList.foldl (fun seen run => if seen.contains run.2 then seen else seen ++ [run.2]) []

end Runs

abbrev CodeRanges := List (Nat × Nat)

namespace CodeRanges

/-- Read the written form of a set. -/
def read (table : String) : CodeRanges :=
  (entries table).map fun entry =>
    match entry.splitOn "-" with
    | [first, last] => (readHex first, readHex last)
    | _ => (readHex entry, readHex entry)

def holds (ranges : CodeRanges) (code : Nat) : Bool :=
  ranges.any fun range => range.1 ≤ code && code ≤ range.2

end CodeRanges
end Text
end ParseForest
