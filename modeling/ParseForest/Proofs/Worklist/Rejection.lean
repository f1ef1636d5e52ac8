import ParseForest.Proofs.Chart.Firsts
import ParseForest.Proofs.Worklist.Steps

namespace ParseForest

/-!
# Filled charts reject every further step

A visit makes its moves in the chart as it is at that moment, and no arc is visited
twice.  Still nothing is left to be done in the end.  What an arc offers depends
on cells that the cursor has left, so it cannot have become more since the visit,
and an arc stands in the chart for each offer.  Where trees are not told apart by
number, such an arc is enough for the offer to be rejected, although it would come
with a tree of its own.
-/

namespace Span

/-- Inside a chart positions do not wrap. -/
theorem single_eq {pos : Int} (lower : 0 ≤ pos) (upper : pos < Chart.maxLength) :
    single pos = ⟨pos, pos + 1⟩ := by
  have same : wrapped (pos + 1) = pos + 1 := by
    unfold Chart.maxLength at upper
    apply Int.bmod_eq_of_le <;> omega
  rw [single, same]

end Span

namespace Problem

/-- No step from what the chart holds leads to a new arc. -/
structure Saturated (p : Problem) (chart : Chart) : Prop where
  /-- The rules for the start symbol have been predicted. -/
  seeds : ∀ r ∈ p.grammar.rules, r.head = p.start →
    chart.insert (.predict r 0) = .ok (chart, false)
  /-- So have the rules for every symbol that an arc waits for, and the next token
  has been scanned if one of them tags it. -/
  waiting : ∀ i arcs, chart.arcsAt i = .ok arcs → ∀ a ∈ arcs, a.isComplete = false →
    ∃ awaited, a.next = .ok (some awaited) ∧ ∀ r ∈ p.grammar.rules, r.head = awaited →
      chart.insert (.predict r a.span.stop) = .ok (chart, false) ∧
      ∀ token, r.rhs = [.terminal token] → p.tokenAt? a.span.stop = some token →
        ∀ serial, chart.insert (.scan serial r (.single a.span.stop) token) = .ok (chart, false)
  /-- The tree of a complete arc has been put to every arc that waited for it. -/
  complete : ∀ i arcs, chart.arcsAt i = .ok arcs → ∀ a ∈ arcs, a.isComplete = true →
    ∃ t earlier, a.tree = .ok t ∧ t.head = a.rule.head ∧
      chart.arcsAt a.span.start = .ok earlier ∧
      ∀ b ∈ earlier, b.next = .ok (some a.rule.head) →
        ∀ serial, chart.insert (b.extend serial t) = .ok (chart, false)

variable {p : Problem} {policy : Policy} {chart : Chart} {m : Move} {a : Arc} {e : Nat}

/-- A settled move is rejected, whatever numbers it is given. -/
theorem Filled.insert_of_settles (filled : p.Filled policy chart)
    (looks : policy = .span ∨ policy = .shape) (settled : chart.Settles m)
    (grounded : m.Grounded p chart) (serial : Nat) :
    chart.insert (m.arc serial) = .ok (chart, false) := by
  rcases settled with ⟨e, b, member, repeated⟩
  have sound := (grounded.deduced serial).sound
  have sound' := filled.charted.sound member
  rw [filled.policy_eq] at repeated
  have again := (m.arc_repeats policy serial 0).trans repeated
  have stop : (m.arc serial).span.stop = e := by
    rw [← filled.charted.tidy.located e b member]
    exact congrArg (·.span.stop) again.1
  have merged := Policy.merges_of_kind looks sound sound' (Policy.kind_eq_iff.mpr again)
  rw [filled.charted.tidy.insert_eq (Chart.lt_length_of_mem member) stop, filled.policy_eq,
    if_pos (List.any_eq_true.mpr ⟨b, member, merged⟩)]

/-- What an arc of a filled chart offers is rejected. -/
theorem Filled.insert_of_offers (filled : p.Filled policy chart)
    (looks : policy = .span ∨ policy = .shape) (member : a ∈ chart.arcsIn e)
    (offer : p.Offers chart a m) (serial : Nat) :
    chart.insert (m.arc serial) = .ok (chart, false) :=
  filled.insert_of_settles looks (filled.closed e a member m offer)
    (offer.grounded filled.charted member) serial

theorem Filled.saturated (filled : p.Filled policy chart)
    (looks : policy = .span ∨ policy = .shape) (fits : p.tokens.length < Chart.maxLength) :
    p.Saturated chart where
  seeds r inGrammar head :=
    filled.insert_of_settles looks (filled.seeds r inGrammar head) (grounded_seed inGrammar head) 0
  waiting i arcs found a member waits := by
    rcases Chart.exists_of_arcsAt found with ⟨e, inside, rfl, rfl⟩
    have sound := filled.charted.sound member
    have stop := filled.charted.tidy.located e a member
    have inside' : a.dot < a.rule.rhs.length :=
      Nat.lt_of_le_of_ne sound.dot_le (Arc.isComplete_eq_false_iff.mp waits)
    have next := sound.next_eq_some.mpr (List.getElem?_eq_getElem inside')
    refine ⟨_, next, fun r inGrammar head => ⟨?_, fun token lexical here serial => ?_⟩⟩
    · exact filled.insert_of_offers looks member (.predict next inGrammar head) 0
    · have single : Span.single a.span.stop = ⟨a.span.stop, a.span.stop + 1⟩ := by
        have width := filled.charted.length_eq
        exact Span.single_eq (by omega) (by omega)
      rw [single]
      exact filled.insert_of_offers looks member (.scan next inGrammar head lexical here) serial
  complete i arcs found a member full := by
    rcases Chart.exists_of_arcsAt found with ⟨e, inside, rfl, rfl⟩
    have sound := filled.charted.sound member
    rcases sound.exists_tree full with ⟨t, built⟩
    have head : t.head = a.rule.head := (sound.builds built).applies.1
    rcases exists_start_cell filled.charted sound with ⟨k, starts, within⟩
    refine ⟨t, chart.arcsIn k, by rw [Arc.tree, built], head, ?_, ?_⟩
    · rw [starts, Chart.arcsAt_natCast within]
    · intro b waiting next serial
      rw [← head] at next
      exact filled.insert_of_offers looks member (.extend built starts waiting next) serial

end Problem

namespace Parser

/-- Under the policies that compare keys or shapes a filled chart rejects every arc
that one further step could produce. -/
theorem fill_saturated (g : Grammar) (policy : Policy) (start : Symbol) (tokens : List Text)
    (ends : policy = .span ∨ policy = .shape ∧ (Parser.mk g policy).Ends start tokens) :
    (Chart.maxLength ≤ tokens.length ∧
      (Parser.mk g policy).fill start tokens = .error .badLength) ∨
    ∃ chart, (Parser.mk g policy).fill start tokens = .ok chart ∧
      Problem.Saturated ⟨g, start, tokens⟩ chart := by
  have looks : policy = .span ∨ policy = .shape := ends.imp_right And.left
  rcases Nat.lt_or_ge tokens.length Chart.maxLength with fits | long
  · have found : (Parser.mk g policy).Ends start tokens := by
      rcases ends with rfl | ⟨_, found⟩
      · exact Problem.exists_fill_span fits
      · exact found
    rcases found with ⟨chart, run⟩
    exact Or.inr ⟨chart, run, (Problem.Filled.of_fill run).saturated looks fits⟩
  · exact Or.inl ⟨long, Problem.fill_eq_badLength policy long⟩

/-- The chart of a row of nouns that can be grouped in several ways, with a tree
for each of them. -/
theorem fill_saturated_rows :
    ∃ chart, (Parser.mk nounRows .shape).fill (.nonterminal "np") ["fish", "fish", "fish"] =
        .ok chart ∧
      Problem.Saturated ⟨nounRows, .nonterminal "np", ["fish", "fish", "fish"]⟩ chart := by
  rcases fill_saturated nounRows .shape (.nonterminal "np") ["fish", "fish", "fish"]
    (Or.inr ⟨rfl, ends_of_acyclic nounRows_acyclic _ (by decide)⟩) with ⟨long, _⟩ | found
  · exact absurd long (by decide)
  · exact found

end Parser
end ParseForest
