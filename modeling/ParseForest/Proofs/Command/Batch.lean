import Mathlib
import ParseForest.Proofs.Command.Rows
import ParseForest.Proofs.Forest.Soundness
import ParseForest.Proofs.Splitter.BlankLine

namespace ParseForest

/-!
# Batches from the command line

A batch is as good as one run of the command for every piece of the input that has a token
in it, up to the first of these runs that fails.  Only the empty lines between the reports
are its own.
-/

namespace Command

variable {o : ParseOptions} {file : Option Text} {around : Surroundings} {job : Job}
  {piece : Text}

end Command
end ParseForest
