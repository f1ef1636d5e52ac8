import ParseForest.Chart.Listing
import ParseForest.Worklist

namespace ParseForest

/-!
# Parsing under watch

A parser is a grammar with a policy.  A parse can be watched: a trace receives
a listing of the chart before each visit, and a log receives what happened.
When the trace refuses a listing, the log says so and the parse goes on.
Watching never changes the result, because the watch is a state that the walk
does not read.
-/

/-- A line of the log. -/
inductive LogEntry where
  /-- The trace refused a listing. -/
  | traceRefused (reason : Text)
  /-- An arc is about to be visited.  This is of interest for debugging only. -/
  | visiting (cell index : Nat) (arc : Text)
  /-- A parse has ended. -/
  | parsed (start : Symbol) (tokens arcs parses : Nat)

namespace LogEntry

def text : LogEntry → Text
  | .traceRefused reason => "WARNING write chart trace: " ++ reason
  | .visiting cell index arc =>
    "DEBUG cell " ++ Text.ofNat cell ++ " arc " ++ Text.ofNat index ++ ": " ++ arc
  | .parsed start tokens arcs parses =>
    "INFO parsed input start=" ++ start.text ++ " tokens=" ++ Text.ofNat tokens ++ " arcs="
      ++ Text.ofNat arcs ++ " parses=" ++ Text.ofNat parses

end LogEntry

/-- What is watching a parse. -/
structure Watch where
  /-- Where the listings go, if they are wanted. -/
  trace : Option Sink := none
  /-- Whether visits are logged. -/
  debug : Bool := false
  /-- The entries logged, the latest first. -/
  log : List LogEntry := []

namespace Watch

def listing (watch : Watch) (chart : Chart) : Watch :=
  match watch.trace with
  | none => watch
  | some sink =>
    match chart.write.finish sink with
    | (none, sink) => { watch with trace := some sink }
    | (some reason, sink) =>
      { watch with trace := some sink, log := .traceRefused reason :: watch.log }

def visit (watch : Watch) (work : Worklist) : Watch :=
  if watch.debug then
    match work.current? with
    | none => watch
    | some a =>
      let arc := match a.text with
        | .ok text => text
        | .error fault => fault.message
      { watch with log := .visiting work.cell work.index arc :: watch.log }
  else watch

/-- What the watch does before a visit. -/
def observe (work : Worklist) (watch : Watch) : Watch :=
  (watch.listing work.chart).visit work

end Watch

/-- A grammar with the policy its charts follow. -/
structure Parser where
  grammar : Grammar
  policy : Policy := .span

namespace Parser

def problem (parser : Parser) (start : Symbol) (tokens : List Text) : Problem :=
  ⟨parser.grammar, start, tokens⟩

def fill (parser : Parser) (start : Symbol) (tokens : List Text) : Except Fault Chart :=
  (parser.problem start tokens).fill parser.policy

/-- The trees of a sentence. -/
def parse (parser : Parser) (start : Symbol) (tokens : List Text) : Except Fault (List Tree) :=
  (parser.problem start tokens).parse parser.policy

/-- The chart of a sentence, and what the watch has seen. -/
def fillWatched (parser : Parser) (start : Symbol) (tokens : List Text) (watch : Watch) :
    Except Fault (Chart × Watch) := do
  let (work, watch) ←
    (parser.problem start tokens).fillWith parser.policy 0 Watch.observe watch
  return (work.chart, watch)

/-- The trees of a sentence, and what the watch has seen. -/
def parseWatched (parser : Parser) (start : Symbol) (tokens : List Text) (watch : Watch) :
    Except Fault (List Tree × Watch) := do
  let (chart, watch) ← parser.fillWatched start tokens watch
  let trees ← chart.forest start
  let entry := LogEntry.parsed start tokens.length chart.size trees.length
  return (trees, { watch with log := entry :: watch.log })

end Parser
end ParseForest
