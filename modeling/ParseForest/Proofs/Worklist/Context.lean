import ParseForest.Proofs.Tree.Rewriting
import ParseForest.Proofs.Worklist.Saturation
import ParseForest.Proofs.Worklist.Steps

namespace ParseForest

/-!
# What stands before an arc

A chart is filled from the top.  No rule is tried at a position unless the tokens
before it, together with the head of the rule, begin something that the start
symbol derives.  An arc does not keep this reason.  It has to be put together again
from the arc that made the prediction: from the reason for that arc, its rule, and
the trees that it had matched.

The filter lets through whatever has such a reason.  If the start symbol derives
something that begins with the tokens before a position and continues with a symbol,
then every rule for the symbol has been predicted there.
-/

namespace Grammar

/-- The start symbol derives something that begins with the tokens and continues with
the symbol. -/
def Admits (g : Grammar) (start : Symbol) (before : List Text) (s : Symbol) : Prop :=
  ∃ rest, g.Derives [start] (before.map .terminal ++ s :: rest)

end Grammar

namespace Problem

variable {p : Problem} {policy : Policy} {chart : Chart} {a : Arc} {s : Symbol}

/-! ## Every arc has a reason -/

/-- What an arc waits for is admitted where it ends, if its head is admitted where it
begins. -/
theorem admits_of_waiting (sound : a.Sound p) (awaits : a.rule.rhs[a.dot]? = some s)
    (admitted : p.grammar.Admits p.start (Tree.between p.tokens 0 a.span.start) a.rule.head) :
    p.grammar.Admits p.start (Tree.between p.tokens 0 a.span.stop) s := by
  rcases admitted with ⟨rest, run⟩
  have inside := (List.getElem?_eq_some_iff.mp awaits).1
  -- The rule is applied, and the trees say what becomes of its first symbols.
  have matched : p.grammar.Derives (a.rule.rhs.take a.dot)
      ((Tree.between p.tokens a.span.start a.span.stop).map .terminal) := by
    rw [← sound.labels, ← Tree.leavesAll_eq_between sound.tiled sound.parts
      (fun t member => (sound.parts t member).leaves_eq) sound.start_nonneg sound.stop_le]
    exact Tree.derives_leavesAll fun t member => (sound.parts t member).derives
  have applied : p.grammar.Derives [a.rule.head]
      ((Tree.between p.tokens a.span.start a.span.stop).map .terminal ++
        s :: a.rule.rhs.drop (a.dot + 1)) := by
    have whole := (Grammar.Derives.of_rule sound.rule_mem).trans
      (List.take_append_drop a.dot a.rule.rhs ▸ matched.append Relation.ReflTransGen.refl)
    rwa [List.drop_eq_getElem_cons inside, (List.getElem?_eq_some_iff.mp awaits).2] at whole
  have placed := applied.around ((Tree.between p.tokens 0 a.span.start).map .terminal) rest
  refine ⟨a.rule.rhs.drop (a.dot + 1) ++ rest, run.trans ?_⟩
  change p.grammar.Derives _ _
  rw [← Tree.between_append sound.start_nonneg sound.start_le sound.stop_le]
  simpa only [List.append_assoc, List.singleton_append, List.cons_append, List.nil_append,
    List.map_append] using placed

/-- The head of every arc is admitted where the arc begins. -/
theorem Deduced.admitted (deduced : p.Deduced a) :
    p.grammar.Admits p.start (Tree.between p.tokens 0 a.span.start) a.rule.head := by
  induction deduced with
  | seed r member head =>
      refine ⟨[], ?_⟩
      change p.grammar.Derives [p.start] [r.head]
      rw [head]
      exact Relation.ReflTransGen.refl
  | predict waiting next r member head ih =>
      have sound := waiting.sound
      exact head ▸ admits_of_waiting sound (sound.next_eq_some.mp next) ih
  | scan waiting next r member head serial token lexical found ih =>
      have sound := waiting.sound
      exact head ▸ admits_of_waiting sound (sound.next_eq_some.mp next) ih
  | extend waiting finished built next meets serial ih _ => exact ih

/-! ## Whatever has a reason is tried -/

/-- The symbol is awaited at a position, or a sentence begins there with it. -/
def Expected (p : Problem) (chart : Chart) (s : Symbol) (k : Nat) : Prop :=
  Awaited chart s k ∨ k = 0 ∧ s = p.start

theorem Filled.predicted_of_expected (filled : p.Filled policy chart) {k : Nat}
    (expected : p.Expected chart s k) {r : Rule} (member : r ∈ p.grammar.rules)
    (head : r.head = s) : ∃ b ∈ chart.arcsIn k, b.key = ⟨⟨k, k⟩, r, 0⟩ := by
  rcases expected with waits | ⟨rfl, rfl⟩
  · exact filled.predicted waits member head
  · exact filled.seeded member head

/-- If the head of a rule is expected, then each symbol of the rule is expected behind
trees for those before it. -/
theorem Filled.expected_behind (filled : p.Filled policy chart) {r : Rule}
    (member : r ∈ p.grammar.rules) {front back : List Symbol} (split : r.rhs = front ++ s :: back)
    {i k : Nat} (expected : p.Expected chart r.head i) {row : List Tree}
    (labels : row.map Tree.head = front) (tiled : Tree.Tiled i row k)
    (derived : ∀ t ∈ row, t.Derivation p.grammar p.tokens) : p.Expected chart s k := by
  rcases filled.predicted_of_expected expected member rfl with ⟨b, inCell, key⟩
  have found : ∀ t ∈ row, ∀ k : Nat, t.span.start = k → Awaited chart t.head k →
      Found chart t := by
    intro t inRow j starts waits
    have inFront : t.head ∈ front := labels ▸ List.mem_map_of_mem inRow
    have phrase : t.head.isTerminal = false := by
      cases kind : r.isLexical with
      | false => exact r.isTerminal_of_mem_rhs kind _ (split ▸ List.mem_append_left _ inFront)
      | true =>
          -- A lexical rule has no symbols before its only one.
          rcases r.isLexical_iff.mp kind with ⟨token, lexical⟩
          have lengths := congrArg List.length (split.symm.trans lexical)
          have some := List.length_pos_of_mem inFront
          simp only [List.length_append, List.length_cons, List.length_nil] at lengths
          omega
    exact filled.found (derived t inRow) phrase starts waits
  have ahead : row.map Tree.head <+: r.rhs := labels ▸ split ▸ List.prefix_append _ _
  rcases filled.along_predicted inCell key found ahead tiled with ⟨c, inLast, last⟩
  rcases Arc.key_eq.mp last with ⟨_, rule, dot⟩
  refine Or.inl ⟨c, inLast, (filled.charted.sound inLast).next_eq_some.mpr ?_⟩
  rw [rule, dot, split, ← List.length_map (f := Tree.head), labels]
  simp

/-- Where a symbol of a form leads to an expectation: trees for the symbols before it
reach up to some position, and if it is expected there, then so is the other symbol
at `k`. -/
def Points (p : Problem) (chart : Chart) (form : List Symbol) (s : Symbol) (k : Nat) : Prop :=
  ∃ front t back row, ∃ i : Nat, form = front ++ t :: back ∧ row.map Tree.head = front ∧
    Tree.Tiled 0 row i ∧ (∀ u ∈ row, u.Derivation p.grammar p.tokens) ∧
    (p.Expected chart t i → p.Expected chart s k)

/-- An entry of two lists in a row belongs to one of them. -/
theorem append_eq_append_cons {α : Type} {first second front back : List α} {x : α}
    (equal : first ++ second = front ++ x :: back) :
    (∃ rest, first = front ++ x :: rest) ∨
      ∃ rest, front = first ++ rest ∧ second = rest ++ x :: back := by
  rcases List.append_eq_append_iff.mp equal with found | ⟨rest, split, entry⟩
  · exact Or.inr found
  · cases rest with
    | nil => exact Or.inr ⟨[], by rw [split, List.append_nil, List.append_nil], entry.symm⟩
    | cons y rest =>
        rw [List.cons_append, List.cons.injEq] at entry
        exact Or.inl ⟨rest, entry.1 ▸ split⟩

/-- A form points where it did after a replacement. -/
theorem Filled.points_of_rewrites (filled : p.Filled policy chart) {form form' : List Symbol}
    (step : p.grammar.Rewrites form form') {k : Nat} (points : p.Points chart form' s k) :
    p.Points chart form s k := by
  cases step with
  | rule before after r member =>
      rcases points with ⟨front, t, back, row, i, split, labels, tiled, derived, leads⟩
      rcases append_eq_append_cons split with ⟨rest, split⟩ | ⟨outer, rfl, rfl⟩
      · rcases append_eq_append_cons split with ⟨rest, rfl⟩ | ⟨inner, rfl, rhs⟩
        · -- The symbol stands before the replaced one.
          exact ⟨front, t, rest ++ [r.head] ++ after, row, i, by simp, labels, tiled, derived, leads⟩
        · -- It comes from the rule, whose head takes its place.
          rcases List.map_eq_append_iff.mp labels with
            ⟨left, middle, rfl, leftLabels, middleLabels⟩
          rcases Tree.tiled_append.mp tiled with ⟨j, leftTiled, middleTiled⟩
          have lower := leftTiled.start_le fun u inLeft =>
            (derived u (List.mem_append_left _ inLeft)).span_bounds.2.1
          obtain ⟨j, rfl⟩ := Int.eq_ofNat_of_zero_le lower
          refine ⟨before, r.head, after, left, j, by simp, leftLabels, leftTiled,
            fun u inLeft => derived u (List.mem_append_left _ inLeft), fun expected => leads ?_⟩
          exact filled.expected_behind member rhs expected middleLabels middleTiled
            fun u inMiddle => derived u (List.mem_append_right _ inMiddle)
      · -- It stands behind, and the trees for the rule go under a node.
        rcases Tree.exists_contracted member labels tiled derived with
          ⟨row', labels', tiled', derived'⟩
        exact ⟨before ++ [r.head] ++ outer, t, back, row', i, by simp, labels', tiled', derived',
          leads⟩

/-- A form points where some symbol stands in what it derives, if the tokens come
before that. -/
theorem Filled.points_of_derives (filled : p.Filled policy chart) {k : Nat}
    (inside : k ≤ p.tokens.length) {form rest : List Symbol}
    (run : p.grammar.Derives form ((p.tokens.take k).map .terminal ++ s :: rest)) :
    p.Points chart form s k := by
  induction run using Relation.ReflTransGen.head_induction_on with
  | refl =>
      refine ⟨_, s, rest, Tree.leafRow 0 (p.tokens.take k), k, rfl, Tree.leafRow_heads _ _, ?_,
        Tree.leafRow_derivation [] (List.take_prefix _ _), id⟩
      have tiled := Tree.leafRow_tiled 0 (p.tokens.take k)
      rwa [Nat.zero_add, List.length_take, Nat.min_eq_left inside] at tiled
  | head step _ ih => exact filled.points_of_rewrites step ih

/-- What is admitted is expected. -/
theorem Filled.expected_of_admitted (filled : p.Filled policy chart) {k : Nat}
    (inside : k ≤ p.tokens.length)
    (admitted : p.grammar.Admits p.start (p.tokens.take k) s) : p.Expected chart s k := by
  rcases admitted with ⟨rest, run⟩
  rcases filled.points_of_derives inside run with
    ⟨front, t, back, row, i, split, labels, tiled, _, leads⟩
  rcases List.append_eq_singleton_iff.mp split.symm with ⟨rfl, single⟩ | ⟨_, none⟩
  · rw [List.map_eq_nil_iff.mp labels] at tiled
    rw [List.cons.injEq] at single
    exact leads (Or.inr ⟨Int.natCast_inj.mp tiled.symm, single.1⟩)
  · cases none

/-- An arc with the key of a prediction is the prediction. -/
theorem Charted.eq_predict (charted : p.Charted chart) {r : Rule} {k : Nat}
    (member : a ∈ chart.arcsIn k) (key : a.key = ⟨⟨k, k⟩, r, 0⟩) : a = .predict r k := by
  rcases Arc.key_eq.mp key with ⟨span, rule, dot⟩
  have matched : a.matched = [] := List.length_eq_zero_iff.mp dot
  have built : a.built = none := by
    apply (charted.sound member).built_eq_none
    rw [Arc.isComplete_eq_of_key (b := .predict r k) key]
    exact Arc.predict_isComplete r k
  cases a
  cases span
  cases rule
  cases matched
  cases built
  rfl

end Problem

namespace Parser

/-- A rule is tried at a position exactly if the start symbol derives something that
begins with the tokens before the position and continues with the head of the rule:
every arc of the chart begins where that is so, and wherever it is so the chart has
the prediction. -/
theorem fill_top_down (parser : Parser) (start : Symbol) (tokens : List Text)
    (ends : parser.Ends start tokens) :
    ∃ chart, parser.fill start tokens = .ok chart ∧
      (∀ i arcs, chart.arcsAt i = .ok arcs → ∀ a ∈ arcs,
        ∃ k : Nat, a.span.start = k ∧ k ≤ tokens.length ∧ ∃ rest,
          parser.grammar.Derives [start] ((tokens.take k).map .terminal ++ a.rule.head :: rest)) ∧
      ∀ r ∈ parser.grammar.rules, ∀ k : Nat, k ≤ tokens.length → ∀ rest,
        parser.grammar.Derives [start] ((tokens.take k).map .terminal ++ r.head :: rest) →
          ∃ arcs, chart.arcsAt k = .ok arcs ∧ .predict r k ∈ arcs := by
  rcases ends with ⟨chart, run⟩
  have filled := Problem.Filled.of_fill run
  have charted := filled.charted
  refine ⟨chart, run, ?_, ?_⟩
  · intro i arcs found a member
    rcases Chart.exists_of_arcsAt found with ⟨e, _, _, rfl⟩
    have sound := charted.sound member
    rcases Int.eq_ofNat_of_zero_le sound.start_nonneg with ⟨k, starts⟩
    have upper := Int.le_trans sound.start_le sound.stop_le
    have admitted := (charted.deduced e a member).admitted
    rw [starts] at admitted upper
    exact ⟨k, starts, Int.ofNat_le.mp upper, admitted⟩
  · intro r member k inside rest derived
    have expected := filled.expected_of_admitted inside ⟨rest, derived⟩
    rcases filled.predicted_of_expected expected member rfl with ⟨b, inCell, key⟩
    refine ⟨_, Chart.arcsAt_natCast (Chart.lt_length_of_mem inCell), ?_⟩
    rw [← charted.eq_predict inCell key]
    exact inCell

open Grammar (phrase word)

/-- Under a policy without a name, a third noun is tried behind two nouns. -/
theorem fill_top_down_rows :
    ∃ chart arcs, (Parser.mk nounRows (.unnamed 7)).fill (.nonterminal "np")
        ["fish", "fish", "fish"] = .ok chart ∧
      chart.arcsAt 2 = .ok arcs ∧ .predict (word "noun" "fish") 2 ∈ arcs ∧
      ∀ a ∈ arcs, ∃ k : Nat, a.span.start = k ∧ k ≤ 3 ∧ ∃ rest,
        nounRows.Derives [.nonterminal "np"]
          (((["fish", "fish", "fish"] : List Text).take k).map .terminal ++
            a.rule.head :: rest) := by
  have noun : nounRows.Derives [.nonterminal "np"] [.nonterminal "noun"] :=
    Grammar.Derives.of_rule (r := phrase "np" ["noun"]) (by decide)
  have pair : nounRows.Derives [.nonterminal "np"] [.nonterminal "np", .nonterminal "np"] :=
    Grammar.Derives.of_rule (r := phrase "np" ["np", "np"]) (by decide)
  have fish : nounRows.Derives [.nonterminal "np"] [.terminal "fish"] :=
    noun.trans (Grammar.Derives.of_rule (r := word "noun" "fish") (by decide))
  have two : nounRows.Derives [.nonterminal "np"] [.terminal "fish", .terminal "fish"] :=
    pair.trans (fish.append fish)
  rcases fill_top_down (Parser.mk nounRows (.unnamed 7)) (.nonterminal "np")
    ["fish", "fish", "fish"] (ends_of_acyclic nounRows_acyclic _ (by decide)) with
    ⟨chart, run, reasons, tried⟩
  rcases tried (word "noun" "fish") (by decide) 2 (by decide) [] (pair.trans (two.append noun)) with
    ⟨arcs, found, member⟩
  exact ⟨chart, arcs, run, found, member, reasons 2 arcs found⟩

end Parser
end ParseForest
