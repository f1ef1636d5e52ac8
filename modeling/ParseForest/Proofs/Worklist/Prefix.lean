import ParseForest.Proofs.Worklist.Lockstep
import ParseForest.Proofs.Worklist.Steps

namespace ParseForest

/-!
# The beginning of a sentence

A cell holds what can be said about the tokens before it.  If a sentence goes on
behind some point, the cells up to that point come out the same, arc by arc and
in the same order.

Two runs are compared, one for the whole sentence and one for its beginning.  As
long as the cursor has not left the last cell of the shorter chart, they keep step.
In that cell the longer run also scans the next token, which has no counterpart, but
what it scans enters a later cell.  The numbers that it takes for the scan shift those
of all later trees, so trees can be compared by shape only.
-/

/-- The arc of the move ends at `k` or before. -/
def Move.endsBy (k : Nat) (m : Move) : Bool :=
  (m.arc 0).span.stop ≤ (k : Int)

/-- What ends behind `k` does not matter up to `k`. -/
theorem Policy.offersAlike_filter (policy : Policy) {k : Nat} {moves moves' : List Move}
    (alike : moves.map (fun m => (m.arc 0).shape) =
      (moves'.filter (Move.endsBy k)).map fun m => (m.arc 0).shape) :
    policy.OffersAlike k moves moves' := by
  intro e upTo arcs
  rw [alike, List.foldl_map, List.foldl_map, List.foldl_filter]
  congr 1
  funext kept m
  by_cases inside : m.endsBy k = true
  · rw [if_pos inside]
  · have elsewhere : (m.arc 0).shape.span.stop ≠ e := by
      intro ends
      apply inside
      apply decide_eq_true
      change (m.arc 0).shape.span.stop ≤ (k : Int)
      omega
    rw [if_neg inside, Policy.offer, if_neg fun both => elsewhere both.1]

namespace Problem

/-- The second problem is about a sentence that begins with that of the first. -/
structure Begins (p p' : Problem) : Prop where
  grammar_eq : p'.grammar = p.grammar
  start_eq : p'.start = p.start
  tokens_prefix : p.tokens <+: p'.tokens

variable {p p' : Problem} {policy : Policy} {work work' : Worklist} {a a' : Arc} {e : Nat}

theorem Begins.tokenAt?_eq (begins : p.Begins p') (inside : e < p.tokens.length) :
    p'.tokenAt? e = p.tokenAt? e := by
  rcases begins.tokens_prefix with ⟨rest, whole⟩
  simp only [tokenAt?, Int.natCast_nonneg, if_true, Int.toNat_natCast, ← whole,
    List.getElem?_append_left inside]

/-- Of the moves in the longer sentence, those that end inside the shorter one are
the moves there. -/
theorem Begins.filter_predictions (begins : p.Begins p') (awaited : Symbol)
    (upTo : e ≤ p.tokens.length) :
    (p'.predictions awaited e).filter (Move.endsBy p.tokens.length) =
      p.predictions awaited e := by
  rw [predictions, predictions, begins.grammar_eq, List.filter_flatMap]
  congr 1
  funext r
  have predicted : (Move.predict r e).endsBy p.tokens.length = true :=
    decide_eq_true (Int.ofNat_le.mpr upTo)
  rcases Nat.lt_or_eq_of_le upTo with inside | last
  · rw [begins.tokenAt?_eq inside]
    apply List.filter_eq_self.mpr
    intro m member
    rcases mem_movesOf.mp member with rfl | ⟨token, _, _, rfl⟩
    · exact predicted
    · exact decide_eq_true (show (e : Int) + 1 ≤ p.tokens.length by omega)
  · -- The shorter sentence has no token here, and the scan goes to a later cell.
    have nothing : p.tokenAt? e = none := by
      simp [tokenAt?, last]
    have scanned : ∀ token, (Move.scan r e token).endsBy p.tokens.length = false := fun _ =>
      decide_eq_false (show ¬ ((e : Int) + 1 ≤ p.tokens.length) by omega)
    rw [nothing]
    unfold movesOf
    rw [List.filter_cons_of_pos predicted]
    cases r.token? with
    | none => rfl
    | some expected =>
        cases p'.tokenAt? e with
        | none => rfl
        | some found => by_cases equal : found = expected <;> simp [equal, scanned]

theorem Begins.moves (begins : p.Begins p') (both : p.KeepsStep p' policy work work')
    (upTo : e ≤ p.tokens.length) (member : a ∈ work.chart.arcsIn e)
    (member' : a' ∈ work'.chart.arcsIn e) (alike : a.shape = a'.shape) {moves moves' : List Move}
    (movesEq : p.moves work.chart a = .ok moves)
    (movesEq' : p'.moves work'.chart a' = .ok moves') :
    moves.map (fun m => (m.arc 0).shape) =
      (moves'.filter (Move.endsBy p.tokens.length)).map fun m => (m.arc 0).shape := by
  have charted := both.reached.coherent.charted
  have charted' := both.reached'.coherent.charted
  have sound := charted.sound member
  have sound' := charted'.sound member'
  rcases Arc.key_eq.mp (Arc.key_eq_of_shape alike) with ⟨_, rule, dot⟩
  cases awaits : a.rule.rhs[a.dot]? with
  | some awaited =>
      rw [moves_of_waiting sound awaits, Except.ok.injEq] at movesEq
      rw [rule, dot] at awaits
      rw [moves_of_waiting sound' awaits, Except.ok.injEq] at movesEq'
      rw [← movesEq, ← movesEq', charted.tidy.located e a member,
        charted'.tidy.located e a' member', begins.filter_predictions awaited upTo]
  | none =>
      have nothing : a'.next = .ok none := by
        rw [sound'.next_eq, ← rule, ← dot, awaits]
      have inside : ∀ m ∈ moves', m.endsBy p.tokens.length = true := by
        intro m inMoves
        rcases exists_moves charted' sound' with ⟨offers, offersEq, offered⟩
        rw [movesEq', Except.ok.injEq] at offersEq
        subst offersEq
        cases (offered m).mp inMoves with
        | predict next => simp [nothing] at next
        | scan next => simp [nothing] at next
        | @extend i b t built =>
            have stop : t.span.stop = e := by
              rw [(sound'.builds built).span_eq, charted'.tidy.located e a' member']
            exact decide_eq_true (stop ▸ Int.ofNat_le.mpr upTo)
      rw [List.filter_eq_self.mpr inside]
      exact both.map_moves_of_complete upTo member member' alike awaits movesEq movesEq'

theorem Begins.filter_seeds (begins : p.Begins p') :
    p'.seeds.filter (Move.endsBy p.tokens.length) = p.seeds := by
  have inside : ∀ m ∈ p'.seeds, m.endsBy p.tokens.length = true := by
    intro m member
    exact decide_eq_true (stop_of_mem_seeds member ▸ Int.natCast_nonneg _)
  rw [List.filter_eq_self.mpr inside, seeds, seeds, begins.grammar_eq, begins.start_eq]

theorem Begins.paces (begins : p.Begins p') (policy : Policy) : p.Paces p' policy where
  shorter := begins.tokens_prefix.length_le
  seeds := policy.offersAlike_filter (by rw [begins.filter_seeds])
  moves both upTo member member' alike movesEq movesEq' :=
    policy.offersAlike_filter (begins.moves both upTo member member' alike movesEq movesEq')

/-- If the chart of a sentence is filled, then so is the chart of each beginning of
it, and the two agree as far as the shorter one goes. -/
theorem Begins.exists_fill (begins : p.Begins p') {whole : Chart}
    (run' : p'.fill policy = .ok whole) :
    ∃ chart, p.fill policy = .ok chart ∧ Chart.AgreeUpTo p.tokens.length chart whole :=
  (begins.paces policy).exists_fill run'

end Problem

namespace Parser

/-- The arcs that end at a position are determined by the tokens before it: if the
walk through a sentence ends, then so does the walk through each beginning of it,
and as far as the beginning goes the cells of the two charts are the same up to the
numbering of trees. -/
theorem fill_prefix (parser : Parser) (start : Symbol) (ts us : List Text)
    (ends : parser.Ends start (ts ++ us)) :
    ∃ chart whole, parser.fill start ts = .ok chart ∧
      parser.fill start (ts ++ us) = .ok whole ∧
      ∀ i : Nat, i ≤ ts.length → ∃ arcs arcs', chart.arcsAt i = .ok arcs ∧
        whole.arcsAt i = .ok arcs' ∧ arcs'.map Arc.shape = arcs.map Arc.shape := by
  rcases ends with ⟨whole, run'⟩
  have begins : (parser.problem start ts).Begins (parser.problem start (ts ++ us)) :=
    ⟨rfl, rfl, List.prefix_append ts us⟩
  rcases begins.exists_fill run' with ⟨chart, run, agree⟩
  refine ⟨chart, whole, run, run', fun i upTo => ?_⟩
  have length : chart.length = ts.length + 1 := (Problem.Filled.of_fill run).charted.length_eq
  have length' : whole.length = (ts ++ us).length + 1 :=
    (Problem.Filled.of_fill run').charted.length_eq
  rw [List.length_append] at length'
  exact ⟨_, _, Chart.arcsAt_natCast (by omega), Chart.arcsAt_natCast (by omega),
    (agree i upTo).symm⟩

/-- Two nouns and what can be said about them when a third one follows, under the
policy that keeps every tree it builds. -/
theorem fill_prefix_rows :
    ∃ chart whole trees,
      (Parser.mk nounRows .identity).parse (.nonterminal "np") ["fish", "fish"] = .ok trees ∧
      trees ≠ [] ∧
      (Parser.mk nounRows .identity).fill (.nonterminal "np") ["fish", "fish"] = .ok chart ∧
      (Parser.mk nounRows .identity).fill (.nonterminal "np") ["fish", "fish", "fish"] =
        .ok whole ∧
      ∀ i : Nat, i ≤ 2 → ∃ arcs arcs', chart.arcsAt i = .ok arcs ∧
        whole.arcsAt i = .ok arcs' ∧ arcs'.map Arc.shape = arcs.map Arc.shape := by
  rcases fill_prefix (Parser.mk nounRows .identity) (.nonterminal "np") ["fish", "fish"] ["fish"]
    (ends_of_acyclic nounRows_acyclic _ (by decide)) with ⟨chart, whole, run, run', cells⟩
  rcases Ends.parse_eq ⟨chart, run⟩ with ⟨_, _, parsed⟩
  have some := ne_nil_of_nounRow (fun _ => id) 0 parsed
  exact ⟨chart, whole, _, parsed, some, run, run', cells⟩

end Parser
end ParseForest
