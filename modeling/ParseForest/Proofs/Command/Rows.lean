import Mathlib
import ParseForest.Proofs.Command.Run
import ParseForest.Proofs.Forest.Nesting
import ParseForest.Proofs.Splitter.Joined

namespace ParseForest

/-!
# Rows of words as input

The command can be given a grammar file whose trees are as deep as their sentences are long.
Then a report in JSON on a long row of words ends below the lines that stand above its
parses.
-/

namespace Ebnf

/-- A file for rows of one word. -/
def growingSource : Text :=
  "s = s n | n . n = \"x\" ."

def growingProductions : List Production :=
  [⟨⟨"g", 0, 1, 1⟩, "s", some (.alternatives
      [.sequence [.name ⟨"g", 4, 1, 5⟩ "s", .name ⟨"g", 6, 1, 7⟩ "n"],
        .name ⟨"g", 10, 1, 11⟩ "n"])⟩,
    ⟨⟨"g", 14, 1, 15⟩, "n", some (.token ⟨"g", 18, 1, 19⟩ "x")⟩]

theorem scan_growing : Token.scan "g" growingSource =
    [⟨.ident, Text.glyphs "s", ⟨"g", 0, 1, 1⟩⟩, ⟨.sign '=', Text.glyphs "=", ⟨"g", 2, 1, 3⟩⟩,
      ⟨.ident, Text.glyphs "s", ⟨"g", 4, 1, 5⟩⟩, ⟨.ident, Text.glyphs "n", ⟨"g", 6, 1, 7⟩⟩,
      ⟨.sign '|', Text.glyphs "|", ⟨"g", 8, 1, 9⟩⟩, ⟨.ident, Text.glyphs "n", ⟨"g", 10, 1, 11⟩⟩,
      ⟨.sign '.', Text.glyphs ".", ⟨"g", 12, 1, 13⟩⟩, ⟨.ident, Text.glyphs "n", ⟨"g", 14, 1, 15⟩⟩,
      ⟨.sign '=', Text.glyphs "=", ⟨"g", 16, 1, 17⟩⟩,
      ⟨.string, Text.glyphs "\"x\"", ⟨"g", 18, 1, 19⟩⟩,
      ⟨.sign '.', Text.glyphs ".", ⟨"g", 22, 1, 23⟩⟩, ⟨.eof, [], ⟨"g", 23, 1, 24⟩⟩] := by
  cbv

theorem load_growing :
    load "g" growingSource = .ok ⟨Parser.growing, .nonterminal "s"⟩ := by
  have readable : read "g" growingSource = .ok growingProductions := by
    unfold read
    rw [scan_growing]
    cbv
  have sorted : inFileOrder growingProductions = growingProductions :=
    List.mergeSort_of_pairwise (by decide)
  have converted : convert growingProductions = .ok ⟨Parser.growing, .nonterminal "s"⟩ := by
    unfold convert
    rw [sorted]
    rfl
  unfold load
  rw [readable]
  simp only
  rw [converted]

end Ebnf

namespace Command

open Splitter (whiteSpace)

/-- Some words in a row, with spaces between them. -/
def rowChars (n : Nat) : List Char :=
  List.intercalate [' '] (List.replicate n ['x'])

def rowText (n : Nat) : Text :=
  Text.ofChars (rowChars n)

theorem split_rowText {n : Nat} (some : 0 < n) :
    whiteSpace.split (rowText n) = .ok (Parser.row n) := by
  have each : ∀ w ∈ List.replicate n ['x'], w ≠ [] ∧ ∀ c ∈ w, c ∉ Splitter.whites := by
    intro w member
    rw [List.eq_of_mem_replicate member]
    simp [Splitter.whites]
  have split := Splitter.split_spaced each (by simp; omega)
  rw [List.map_replicate] at split
  exact split

/-- Options for reports in JSON on rows. -/
def growingOptions : ParseOptions where
  grammar := "g"
  format := "json"

def growingAround (input : Text) : Surroundings where
  entry := fun name => if name = "g" then .file Ebnf.growingSource else .unavailable []
  input := .ok input

def growingJob (input : Text) : Job where
  parser := ⟨Parser.growing, .span⟩
  start := .nonterminal "s"
  splitter := whiteSpace
  format := .json
  input := input

theorem make_growing (batch : Bool) (input : Text) :
    Job.make { growingOptions with batch := batch } none (growingAround input) =
      .ok (growingJob input) := by
  have definition : loadDefinition (growingAround input) "g" false =
      .ok ⟨Parser.growing, .nonterminal "s"⟩ := by
    change (Ebnf.load "g" Ebnf.growingSource).mapError _ = _
    rw [Ebnf.load_growing]
    rfl
  have separates : (growingAround input).splitter growingOptions.separator = .ok whiteSpace :=
    Splitter.make_defaultSeparator
  have read : Job.inputText (growingAround input) none = .ok input := rfl
  exact Job.make_of_ok definition rfl separates rfl read

/-- A run for a long row writes the lines above its parses and fails. -/
theorem exists_single_row {n : Nat} (long : 5001 ≤ n) (fits : n < Chart.maxLength) :
    ∃ trace, ∀ sink, (growingJob (rowText n)).single false { output := sink } =
      Running.write (Writing.follow (Report.rowCourse n)) { output := sink, trace := trace } := by
  rcases Report.exists_course_row long fits with ⟨t, parsed, ends⟩
  have split := split_rowText (by omega : 0 < n)
  rcases (growingJob (rowText n)).exists_single_eq split parsed false with ⟨trace, run⟩
  refine ⟨trace, fun sink => ?_⟩
  rw [run, ← ends]
  rfl

end Command
end ParseForest
