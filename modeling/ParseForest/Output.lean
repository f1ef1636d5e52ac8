import ParseForest.Text.Basic

namespace ParseForest

/-!
# Writing to a place that can refuse

Output goes to a sink in chunks, and each chunk is either taken whole or
refused with a reason.  A sink counts all attempts and keeps what it has
taken.  A writer stops at the first refusal, or for a reason of its own, and
what was taken before it stays taken.
-/

/-- A place for output.  `refusal` gives the reason if the attempt with this
number and this content fails. -/
structure Sink where
  refusal : Nat → Text → Option Text
  attempts : Nat := 0
  /-- The chunks taken, the latest first. -/
  taken : List Text := []

namespace Sink

/-- The sink that takes everything. -/
def sound : Sink where
  refusal := fun _ _ => none

/-- The sink that refuses one attempt. -/
def refusing (attempt : Nat) (reason : Text) : Sink where
  refusal := fun n _ => if n = attempt then some reason else none

/-- The sink that refuses the chunks that begin with a given text. -/
def refusingLead (lead : Text) (reason : Text) : Sink where
  refusal := fun _ chunk => if (Text.dropLead? lead chunk).isSome then some reason else none

/-- Everything taken so far. -/
def text (sink : Sink) : Text :=
  sink.taken.reverse.flatten

end Sink

/-- A computation that writes, and that stops with a reason when it is refused or
cannot go on. -/
abbrev Writing := EStateM Text Sink

namespace Writing

def put (chunk : Text) : Writing Unit := fun sink =>
  match sink.refusal sink.attempts chunk with
  | some reason => .error reason { sink with attempts := sink.attempts + 1 }
  | none => .ok () { sink with attempts := sink.attempts + 1, taken := chunk :: sink.taken }

/-- Write one chunk and go on whether or not it was taken. -/
def offer (chunk : Text) : Writing Unit := fun sink =>
  match put chunk sink with
  | .ok () sink => .ok () sink
  | .error _ sink => .ok () sink

/-- Write chunks in order, whether or not they are taken. -/
def offerAll : List Text → Writing Unit
  | [] => return ()
  | chunk :: chunks => do
    offer chunk
    offerAll chunks

/-- Put a context in front of the reason for stopping. -/
def within {α : Type} (context : Text) (w : Writing α) : Writing α := fun sink =>
  match w sink with
  | .ok a sink => .ok a sink
  | .error reason sink => .error (context ++ reason) sink

/-- Run a writer on a sink: why it stopped before its end, if it did, and the
sink afterwards. -/
def finish (w : Writing Unit) (sink : Sink) : Option Text × Sink :=
  match w sink with
  | .ok () sink => (none, sink)
  | .error reason sink => (some reason, sink)

end Writing
end ParseForest
