import ParseForest.Parser

namespace ParseForest

/-!
# Working through a batch

A batch is worked through by one worker per item, with a limit on how many are
busy at once.  A worker first looks whether the batch has been cancelled.  If
so it refuses, and otherwise it does its work and stores the result in its
place.  When every worker has ended, the batch has failed if one of them
refused, and else its results stand in the order of the items.

Workers proceed in any order, so the batch is a state with events, and an
event either is possible in a state or is not.  Running a batch takes one
particular order.
-/

/-- What a worker is doing. -/
inductive Stage where
  | waiting
  /-- The worker is about to look whether the batch is cancelled. -/
  | launched
  | working
  | stored
  | refused
  deriving DecidableEq

namespace Stage

def isBusy (s : Stage) : Bool :=
  s = .launched || s = .working

def isOver (s : Stage) : Bool :=
  s = .stored || s = .refused

end Stage

/-- A batch in progress. -/
structure Batch (α β : Type) where
  work : α → β
  limit : Nat
  items : List α
  stages : List Stage
  results : List (Option β)
  cancelled : Bool

/-- What can happen next in a batch. -/
inductive Batch.Event where
  | launch
  | look (worker : Nat)
  | store (worker : Nat)
  | cancel

/-- The batch was cancelled before it was done. -/
structure Cancelled where
  deriving DecidableEq

def Cancelled.message (_ : Cancelled) : Text :=
  "context canceled"

namespace Batch

variable {α β : Type}

/-- The batch at its beginning.  At least one worker may always be busy. -/
def start (work : α → β) (jobs : Int) (cancelled : Bool) (items : List α) : Batch α β where
  work := work
  limit := max jobs 1 |>.toNat
  items := items
  stages := items.map fun _ => .waiting
  results := items.map fun _ => none
  cancelled := cancelled

def busy (b : Batch α β) : Nat :=
  b.stages.countP Stage.isBusy

def setStage (b : Batch α β) (worker : Nat) (stage : Stage) : Batch α β :=
  { b with stages := b.stages.set worker stage }

/-- The batch after an event, if the event is possible. -/
def after? (b : Batch α β) : Event → Option (Batch α β)
  | .launch =>
    match b.stages.idxOf? .waiting with
    | none => none
    | some worker => if b.busy < b.limit then some (b.setStage worker .launched) else none
  | .look worker =>
    if b.stages[worker]? = some .launched then
      if b.cancelled then some (b.setStage worker .refused)
      else some (b.setStage worker .working)
    else none
  | .store worker =>
    match b.items[worker]? with
    | none => none
    | some item =>
      if b.stages[worker]? = some .working then
        some { b.setStage worker .stored with
          results := b.results.set worker (some (b.work item)) }
      else none
  | .cancel => some { b with cancelled := true }

/-- The outcome of a batch in which every worker has ended. -/
def outcome (b : Batch α β) : Except Cancelled (List (Option β)) :=
  if b.stages.contains .refused then .error ⟨⟩ else .ok b.results

/-- The order in which a batch is run: worker after worker. -/
def schedule (count : Nat) : List Event :=
  (List.range count).flatMap fun worker => [.launch, .look worker, .store worker]

/-- The batch after those of the events that were possible. -/
def runAll (b : Batch α β) (events : List Event) : Batch α β :=
  events.foldl (fun b event => (b.after? event).getD b) b

def run (work : α → β) (jobs : Int) (cancelled : Bool) (items : List α) :
    Except Cancelled (List (Option β)) :=
  ((start work jobs cancelled items).runAll (schedule items.length)).outcome

end Batch

/-- Why a batch of sentences has no forests. -/
inductive BatchError where
  | cancelled
  | fault (fault : Fault)
  deriving DecidableEq

def BatchError.message : BatchError → Text
  | .cancelled => Cancelled.message ⟨⟩
  | .fault f => f.message

namespace Parser

/-- The forests of several sentences, in order. -/
def parseBatch (parser : Parser) (start : Symbol) (jobs : Int) (cancelled : Bool)
    (sentences : List (List Text)) : Except BatchError (List (List Tree)) :=
  match Batch.run (parser.parse start) jobs cancelled sentences with
  | .error _ => .error .cancelled
  | .ok results =>
    match results.mapM (fun result => result.getD (.ok [])) with
    | .error fault => .error (.fault fault)
    | .ok forests => .ok forests

end Parser
end ParseForest
