import ParseForest.Command.Run
import ParseForest.Main
import ParseForest.Proofs.Forest.Ambiguity
import ParseForest.Proofs.Forest.Completeness
import ParseForest.Proofs.Forest.LexicalStart
import ParseForest.Proofs.Forest.RuleOrder
import ParseForest.Proofs.Forest.Soundness
import ParseForest.Tree.Graph
import ParseForest.Proofs.Worklist.Prefix
import ParseForest.Proofs.Forest.Distinct
import ParseForest.Proofs.Forest.Sharing
import ParseForest.Proofs.Worklist.Watching
import ParseForest.Proofs.Batch.Parsing
import ParseForest.Proofs.Command.Batch
import ParseForest.Proofs.Arc.Merging
import ParseForest.Proofs.Text.Utf8
import ParseForest.Proofs.Json.Basic
import ParseForest.Proofs.Json.Numbers
import ParseForest.Proofs.Json.Strings
import ParseForest.Proofs.Json.RoundTrip
import ParseForest.Proofs.Tree.Json
import ParseForest.Proofs.Forest.ReadBack
import ParseForest.Proofs.Forest.Renderings
import ParseForest.Proofs.Worklist.Safety
import ParseForest.Proofs.Command.Refusal
import ParseForest.Proofs.Chart.History
import ParseForest.Proofs.Worklist.Rejection
import ParseForest.Proofs.Worklist.Context
import ParseForest.Proofs.Worklist.Repetition
import ParseForest.Proofs.Ebnf.Conversion
import ParseForest.Proofs.Splitter.Blocks
