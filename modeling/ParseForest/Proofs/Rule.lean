import ParseForest.Rule

namespace ParseForest
namespace Rule

/-!
# The two shapes of a rule

A rule without a defect has a nonterminal head and between one and three
symbols on its right.  If a terminal is among them it is alone there, so a rule
that is not lexical has nonterminals only.  Rules are equal as soon as they
agree on both sides.
-/

theorem firstToken?_eq_none {rhs : List Symbol} (clean : firstToken? rhs = none) :
    ∀ s ∈ rhs, s.isTerminal = false := by
  induction rhs with
  | nil => simp
  | cons s rest ih =>
      cases s with
      | terminal token => simp [firstToken?] at clean
      | nonterminal name =>
          intro s member
          rcases List.mem_cons.mp member with equal | inRest
          · rw [equal, Symbol.isTerminal]
          · exact ih clean s inRest

theorem firstToken?_eq_some {rhs : List Symbol} {token : Text}
    (found : firstToken? rhs = some token) :
    ∃ (names : List Text) (rest : List Symbol),
      rhs = names.map .nonterminal ++ .terminal token :: rest := by
  induction rhs with
  | nil => cases found
  | cons s rest ih =>
      cases s with
      | terminal value =>
          cases found
          exact ⟨[], rest, rfl⟩
      | nonterminal name =>
          rcases ih found with ⟨names, others, rfl⟩
          exact ⟨name :: names, others, rfl⟩

/-- Building a rule keeps what was given, and a rejection says what is wrong with it. -/
theorem make_outcome (head : Symbol) (rhs : List Symbol) :
    match make head rhs with
    | .ok r => r.head = head ∧ r.rhs = rhs
    | .error e => ∃ defect, defect? head rhs = some defect ∧ e = ⟨head, rhs, defect⟩ := by
  cases made : make head rhs with
  | ok r =>
      unfold make at made
      split at made <;> cases made
      exact ⟨rfl, rfl⟩
  | error e =>
      unfold make at made
      split at made <;> cases made
      exact ⟨_, ‹_›, rfl⟩

variable (r : Rule)

theorem head_isTerminal : r.head.isTerminal = false := by
  have sound := r.sound
  unfold defect? at sound
  split at sound
  · cases sound
  · exact Bool.eq_false_iff.mpr ‹_›

theorem rhs_ne_nil : r.rhs ≠ [] := by
  intro empty
  have sound := r.sound
  simp [defect?, empty, r.head_isTerminal] at sound

theorem length_le : r.length ≤ maxLength := by
  apply Nat.le_of_not_lt
  intro long
  have sound := r.sound
  have long : maxLength < r.rhs.length := long
  simp [defect?, long, r.head_isTerminal, r.rhs_ne_nil] at sound

theorem token?_eq_some {token : Text} :
    r.token? = some token ↔ r.rhs = [.terminal token] := by
  unfold token?
  split <;> simp_all

theorem isLexical_iff : r.isLexical = true ↔ ∃ token, r.rhs = [.terminal token] := by
  simp only [isLexical, Option.isSome_iff_exists, token?_eq_some]

/-- All symbols of a syntactic rule are nonterminals. -/
theorem isTerminal_of_mem_rhs (syntactic : r.isLexical = false) :
    ∀ s ∈ r.rhs, s.isTerminal = false := by
  by_cases single : r.rhs.length = 1
  · rcases List.length_eq_one_iff.mp single with ⟨s, only⟩
    cases s with
    | terminal token =>
        have lexical := r.isLexical_iff.mpr ⟨token, only⟩
        rw [syntactic] at lexical
        cases lexical
    | nonterminal name => simp [only, Symbol.isTerminal]
  · have sound := r.sound
    have short : ¬ maxLength < r.rhs.length := Nat.not_lt_of_le r.length_le
    simp only [defect?, r.head_isTerminal, Bool.false_eq_true, if_false, short, single,
      List.length_eq_zero_iff, r.rhs_ne_nil, Option.map_eq_none_iff] at sound
    exact firstToken?_eq_none sound

/-- A rule is determined by its two sides. -/
theorem eq_of_sides {r r' : Rule} (heads : r.head = r'.head) (sides : r.rhs = r'.rhs) :
    r = r' := by
  cases r
  cases r'
  cases heads
  cases sides
  rfl

end Rule
end ParseForest
