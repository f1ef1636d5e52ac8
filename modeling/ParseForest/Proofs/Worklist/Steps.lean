import Mathlib.Algebra.Group.Nat.Even
import Mathlib.Tactic.Ring
import ParseForest.Grammar.English
import ParseForest.Proofs.Worklist.Saturation
import ParseForest.Proofs.Worklist.Termination
import ParseForest.Proofs.Worklist.Visits

namespace ParseForest

/-!
# How many visits a walk takes

Where the first arc of a key stands for all, a cell cannot have more arcs than
there are keys for it: a rule, a beginning that is not behind the end, and a
dot.  No grammar is excluded.  A unary rule that leads back to its own head goes
on proposing arcs, but their keys are known, and a walk through a cell ends
because its cursor cannot pass the number of keys.

Under the other policies a cell has no such bound and the walk ends for the
reason given before, if unary rules form no cycle.  In both cases the number of
visits is the number of arcs.
-/

namespace Chart

theorem size_le_of_cells {chart : Chart} {c : Nat}
    (narrow : ∀ e, (chart.arcsIn e).length ≤ c * (e + 1)) :
    2 * chart.size ≤ c * (chart.length * (chart.length + 1)) := by
  have upTo : ∀ n, 2 * ((List.range n).map fun e => (chart.arcsIn e).length).sum ≤
      c * (n * (n + 1)) := by
    intro n
    induction n with
    | zero => exact Nat.le_refl 0
    | succ n ih =>
        rw [List.range_succ, List.map_append, List.sum_append, List.map_singleton,
          List.sum_singleton]
        calc 2 * (((List.range n).map fun e => (chart.arcsIn e).length).sum +
              (chart.arcsIn n).length)
            ≤ c * (n * (n + 1)) + 2 * (c * (n + 1)) := by
              have last := narrow n
              omega
          _ = c * ((n + 1) * (n + 1 + 1)) := by ring
  rw [size_eq, arcs, List.length_flatMap]
  exact upTo chart.length

end Chart

namespace Problem

/-- The keys that arcs ending at `e` can have. -/
def keysAt (p : Problem) (e : Nat) : List ArcKey :=
  p.grammar.rules.flatMap fun r => (List.range (e + 1)).flatMap fun (s : Nat) =>
    (List.range (Rule.maxLength + 1)).map fun (d : Nat) => ⟨⟨s, e⟩, r, d⟩

variable {p : Problem} {chart : Chart} {a : Arc} {e : Nat}

theorem length_keysAt (p : Problem) (e : Nat) :
    (p.keysAt e).length = p.grammar.size * (Rule.maxLength + 1) * (e + 1) := by
  simp only [keysAt, List.length_flatMap, List.length_map, List.length_range, List.map_const',
    List.sum_replicate_nat, Grammar.size]
  ring

theorem key_mem_keysAt (charted : p.Charted chart) (member : a ∈ chart.arcsIn e) :
    a.key ∈ p.keysAt e := by
  have sound := charted.sound member
  have stop := charted.tidy.located e a member
  have lower := sound.start_nonneg
  have order := sound.start_le
  have short := Nat.le_trans sound.dot_le a.rule.length_le
  simp only [keysAt, List.mem_flatMap, List.mem_map, List.mem_range]
  refine ⟨a.rule, sound.rule_mem, a.span.start.toNat, by omega, a.dot, by omega, ?_⟩
  rw [Int.toNat_of_nonneg lower, ← stop]
  rfl

/-! ## Keys that occur once -/

theorem Charted.keys_nodup (charted : p.Charted chart) (coarse : chart.policy = .span) (e : Nat) :
    ((chart.arcsIn e).map Arc.key).Nodup := by
  rw [List.Nodup, List.pairwise_map]
  refine (List.Pairwise.and_mem.mp (charted.tidy.distinct e)).imp ?_
  rintro a b ⟨member, member', distinct⟩ keys
  rw [coarse, Bool.eq_false_iff] at distinct
  exact distinct (((charted.sound member').span_merges_iff (charted.sound member)).mpr keys.symm)

theorem Charted.length_arcsIn_le (charted : p.Charted chart) (coarse : chart.policy = .span)
    (e : Nat) : (chart.arcsIn e).length ≤ p.grammar.size * (Rule.maxLength + 1) * (e + 1) := by
  have known : (chart.arcsIn e).map Arc.key ⊆ p.keysAt e := by
    intro k member
    rcases List.mem_map.mp member with ⟨a, inCell, rfl⟩
    exact key_mem_keysAt charted inCell
  have most := (List.subperm_of_subset (charted.keys_nodup coarse e) known).length_le
  rwa [List.length_map, length_keysAt] at most

/-- In the whole chart no key occurs twice either, since a key says where the
arc ends. -/
theorem Charted.all_keys_nodup (charted : p.Charted chart) (coarse : chart.policy = .span) :
    (chart.arcs.map Arc.key).Nodup := by
  rw [Chart.arcs, List.map_flatMap, List.nodup_flatMap]
  refine ⟨fun e _ => charted.keys_nodup coarse e, ?_⟩
  refine (List.nodup_range).imp ?_
  intro e e' different k member member'
  rcases List.mem_map.mp member with ⟨a, inCell, rfl⟩
  rcases List.mem_map.mp member' with ⟨b, inCell', keys⟩
  have stops : b.span.stop = a.span.stop := congrArg (·.span.stop) keys
  rw [charted.tidy.located e a inCell, charted.tidy.located e' b inCell'] at stops
  exact different (Int.natCast_inj.mp stops.symm)

theorem Charted.size_le (charted : p.Charted chart) (coarse : chart.policy = .span) :
    chart.size ≤ p.grammar.size * (p.tokens.length + 1) * (p.tokens.length + 2) / 2 *
      (Rule.maxLength + 1) := by
  have twice := Chart.size_le_of_cells (charted.length_arcsIn_le coarse)
  rw [charted.length_eq] at twice
  -- Of two successive numbers one is even, so nothing is lost in the division.
  rcases Nat.even_mul_succ_self (p.tokens.length + 1) with ⟨half, even⟩
  have product : p.grammar.size * (p.tokens.length + 1) * (p.tokens.length + 2) =
      p.grammar.size * half * 2 := by
    rw [Nat.mul_assoc, even]
    ring
  rw [product, Nat.mul_div_cancel _ (by decide)]
  rw [even] at twice
  have rearranged : p.grammar.size * (Rule.maxLength + 1) * (half + half) =
      2 * (p.grammar.size * half * (Rule.maxLength + 1)) := by ring
  omega

/-! ## The walk ends -/

/-- Where keys occur once, the cursor cannot pass the number of keys. -/
theorem exists_walkCell_of_span {work : Worklist} (reached : p.Reaches .span 0 work) :
    ∃ result, p.walkCell (fun _ (seen : Unit) => seen) work () = some result := by
  -- On the room that the cursor has left.
  induction room : p.grammar.size * (Rule.maxLength + 1) * (work.cell + 1) - work.index using
    Nat.strong_induction_on generalizing work with
  | _ n ih =>
      rw [walkCell]
      cases current : work.current? with
      | none => exact ⟨_, rfl⟩
      | some a =>
          rcases reached.invariant with ⟨coherent, policyEq, _⟩
          rcases exists_visit coherent current with ⟨next, run, _, _, _, cellEq, indexEq⟩
          simp only [run]
          refine ih _ ?_ (.visited reached current run) rfl
          rw [work.current?_eq] at current
          have inside := (List.getElem?_eq_some_iff.mp current).1
          have most := coherent.charted.length_arcsIn_le policyEq work.cell
          rw [cellEq, indexEq]
          omega

theorem exists_fill_span (fits : p.tokens.length < Chart.maxLength) :
    ∃ chart, p.fill .span = .ok chart :=
  exists_fill_of_walkCell fits fun _ reached => exists_walkCell_of_span reached

end Problem

namespace Parser

/-- The chart of a sentence, and the number of visits it takes. -/
def fillCounting (parser : Parser) (start : Symbol) (tokens : List Text) :
    Except Fault (Chart × Nat) :=
  (parser.problem start tokens).fillCounting parser.policy

/-- Where the first arc of a key stands for all, every sentence that fits into
a chart has one.  It takes as many visits as it has arcs, no two of these have
the same key, and their number has a bound that depends on the numbers of rules
and tokens only. -/
theorem fill_span_bounded (g : Grammar) (start : Symbol) (tokens : List Text) :
    (Chart.maxLength ≤ tokens.length ∧
      (Parser.mk g .span).fill start tokens = .error .badLength) ∨
    ∃ chart, (Parser.mk g .span).fill start tokens = .ok chart ∧
      (Parser.mk g .span).fillCounting start tokens = .ok (chart, chart.size) ∧
      (chart.arcs.map Arc.key).Nodup ∧
      chart.size ≤ g.size * (tokens.length + 1) * (tokens.length + 2) / 2 *
        (Rule.maxLength + 1) := by
  rcases Nat.lt_or_ge tokens.length Chart.maxLength with fits | long
  · rcases Problem.exists_fill_span (p := ⟨g, start, tokens⟩) fits with ⟨chart, run⟩
    have filled := Problem.Filled.of_fill run
    exact Or.inr ⟨chart, run, Problem.fillCounting_eq run,
      filled.charted.all_keys_nodup filled.policy_eq, filled.charted.size_le filled.policy_eq⟩
  · exact Or.inl ⟨long, Problem.fill_eq_badLength .span long⟩

/-- Under every policy, a sentence that fits into a chart has one if unary rules
form no cycle, and it takes as many visits as it has arcs. -/
theorem fill_ends_of_acyclic (parser : Parser) (start : Symbol) (tokens : List Text)
    (acyclic : parser.grammar.UnaryAcyclic) :
    (Chart.maxLength ≤ tokens.length ∧ parser.fill start tokens = .error .badLength) ∨
    ∃ chart, parser.fill start tokens = .ok chart ∧
      parser.fillCounting start tokens = .ok (chart, chart.size) := by
  rcases Nat.lt_or_ge tokens.length Chart.maxLength with fits | long
  · rcases ends_of_acyclic acyclic start fits with ⟨chart, run⟩
    exact Or.inr ⟨chart, run, Problem.fillCounting_eq run⟩
  · exact Or.inl ⟨long, Problem.fill_eq_badLength parser.policy long⟩

open Grammar (phrase word)

/-- Nouns and rows of nouns. -/
def nounRows : Grammar :=
  .ofRules [phrase "np" ["noun"] rfl, phrase "np" ["np", "np"] rfl, word "noun" "fish"]

theorem nounRows_acyclic : nounRows.UnaryAcyclic :=
  Grammar.unaryAcyclic_of_rank (fun s => if s = .nonterminal "np" then 1 else 0) (by decide)

theorem derives_nounRow {g : Grammar} (known : ∀ r ∈ nounRows.rules, r ∈ g.rules) (n : Nat) :
    g.Derives [.nonterminal "np"] ((List.replicate (n + 1) (.ofString "fish")).map .terminal) := by
  have noun : g.Derives [.nonterminal "np"] [.terminal "fish"] :=
    .of_parts (known (phrase "np" ["noun"] rfl) (by decide))
      (.of_rule (known (word "noun" "fish") (by decide)))
  induction n with
  | zero => exact noun
  | succ n ih => exact .of_parts (known (phrase "np" ["np", "np"] rfl) (by decide)) (noun.append ih)

/-- In every grammar that has these rules there is a tree for a row of more than one noun. -/
theorem ne_nil_of_nounRow {parser : Parser}
    (known : ∀ r ∈ nounRows.rules, r ∈ parser.grammar.rules) (n : Nat) {trees : List Tree}
    (parsed : parser.parse (.nonterminal "np") (List.replicate (n + 2) "fish") = .ok trees) :
    trees ≠ [] :=
  ne_nil_of_derives parsed (known (phrase "np" ["np", "np"] rfl) (by decide)) (by decide) rfl
    ((derives_nounRow known 0).append (derives_nounRow known n))

/-- A row of nouns is grouped in every way, under a policy without a name. -/
theorem fill_ends_of_acyclic_rows :
    ∃ chart, (Parser.mk nounRows (.unnamed 7)).fill (.nonterminal "np")
        ["fish", "fish", "fish"] = .ok chart ∧
      (Parser.mk nounRows (.unnamed 7)).fillCounting (.nonterminal "np")
        ["fish", "fish", "fish"] = .ok (chart, chart.size) := by
  rcases fill_ends_of_acyclic (Parser.mk nounRows (.unnamed 7)) (.nonterminal "np")
    ["fish", "fish", "fish"] nounRows_acyclic with ⟨long, _⟩ | found
  · exact absurd long (by decide)
  · exact found

end Parser
end ParseForest
