import ParseForest.Output
import ParseForest.Tree.Indented
import ParseForest.Tree.Json

namespace ParseForest

/-!
# Output formats

Trees are written in one of three formats.  Two of them have a text for every
tree, and JSON has none for a tree that is too deep.  An encoder writes trees one
after another in its format and remembers the latest one.
-/

inductive Format where
  /-- One line per node. -/
  | indented
  /-- One line per tree. -/
  | bracketed
  | json
  deriving DecidableEq

namespace Format

/-- There is no format of this name. -/
structure UnknownName where
  name : Text
  deriving DecidableEq

def UnknownName.message (e : UnknownName) : Text :=
  "unknown format: " ++ e.name

def ofName (name : Text) : Except UnknownName Format :=
  if name = "tree" then .ok .indented
  else if name = "sexp" then .ok .bracketed
  else if name = "json" then .ok .json
  else .error ⟨name⟩

/-- The text of a tree in a format, whether or not the tree is too deep. -/
def text : Format → Tree → Text
  | .indented, t => t.indented
  | .bracketed, t => t.text ++ "\n"
  | .json, t => t.json

/-- Whether a tree can be written in a format. -/
def admits : Format → Tree → Bool
  | .json, t => t.jsonDepth ≤ Tree.jsonDepthLimit
  | _, _ => true

/-- The text of a tree in a format, if it has one. -/
def render (format : Format) (t : Tree) : Except Tree.TooDeep Text :=
  if format.admits t then .ok (format.text t) else .error ⟨⟩

/-- Write a tree.  Nothing is written of a tree without a text.  JSON texts do
not end in a line feed of their own, so one is written behind them as a separate
chunk. -/
def write (format : Format) (t : Tree) : Writing Unit := do
  match format.render t with
  | .error e => throw e.message
  | .ok text =>
    Writing.put text
    if format = .json then Writing.put "\n"

end Format

/-- A format together with the tree encoded last. -/
structure Encoder where
  format : Format
  latest : Option Tree := none

namespace Encoder

def text (e : Encoder) : Except Fault (Except Tree.TooDeep Text) :=
  match e.latest with
  | some t => .ok (e.format.render t)
  | none => .error .noTree

/-- The encoder that has encoded `t`. -/
def remember (e : Encoder) (t : Tree) : Encoder :=
  { e with latest := some t }

end Encoder
end ParseForest
