import ParseForest.Proofs.Grammar.Index
import ParseForest.Proofs.Worklist.Proposal

namespace ParseForest
namespace Problem

/-!
# The moves of an arc

An arc that waits for a symbol offers the prediction of every rule for it and
the scan of the next token, a complete arc offers the extension of every arc
that waits for its head where it began.  In a chart of deduced arcs the list of
moves can always be computed and consists of exactly what is offered, each
offer is grounded, and none of them concerns a cell before that of the arc.
-/

/-- The moves that an arc makes possible in a chart. -/
inductive Offers (p : Problem) (chart : Chart) (a : Arc) : Move → Prop
  | predict {awaited : Symbol} {r : Rule} (next : a.next = .ok (some awaited))
      (member : r ∈ p.grammar.rules) (head : r.head = awaited) :
      Offers p chart a (.predict r a.span.stop)
  | scan {awaited : Symbol} {r : Rule} {token : Text} (next : a.next = .ok (some awaited))
      (member : r ∈ p.grammar.rules) (head : r.head = awaited)
      (lexical : r.rhs = [.terminal token]) (found : p.tokenAt? a.span.stop = some token) :
      Offers p chart a (.scan r a.span.stop token)
  | extend {e : Nat} {b : Arc} {t : Tree} (built : a.built = some t)
      (starts : a.span.start = e) (member : b ∈ chart.arcsIn e)
      (next : b.next = .ok (some t.head)) : Offers p chart a (.extend b t)

variable {p : Problem} {chart : Chart} {a : Arc} {m : Move} {e : Nat}

/-! ## The list of moves -/

theorem mem_movesOf {token : Option Text} {pos : Int} {r : Rule} :
    m ∈ movesOf token pos r ↔
      m = .predict r pos ∨ ∃ t, r.token? = some t ∧ token = some t ∧ m = .scan r pos t := by
  unfold movesOf
  rw [List.mem_cons]
  apply or_congr_right
  cases expected : r.token? with
  | none => simp
  | some t =>
      cases token with
      | none => simp
      | some found =>
          by_cases equal : found = t
          · simp [equal]
          · simp [equal]

theorem mem_predictions {awaited : Symbol} {pos : Int} :
    m ∈ p.predictions awaited pos ↔
      ∃ r ∈ p.grammar.rules, r.head = awaited ∧ (m = .predict r pos ∨
        ∃ t, r.rhs = [.terminal t] ∧ p.tokenAt? pos = some t ∧ m = .scan r pos t) := by
  simp only [predictions, List.mem_flatMap, Grammar.mem_rulesFor, mem_movesOf,
    Rule.token?_eq_some, and_assoc]

/-- Among sound arcs the waiting ones are those with the head behind the dot. -/
theorem waitingFor_eq_filter {arcs : List Arc} (sound : ∀ b ∈ arcs, b.Sound p) (head : Symbol) :
    waitingFor head arcs = .ok (arcs.filter fun b => b.rule.rhs[b.dot]? = some head) := by
  induction arcs with
  | nil => rfl
  | cons b rest ih =>
      have next := (sound b (List.mem_cons_self ..)).next_eq
      have others := ih fun c member => sound c (List.mem_cons_of_mem b member)
      simp only [waitingFor, next, others, bind, Except.bind, pure, Except.pure]
      by_cases awaits : b.rule.rhs[b.dot]? = some head
      · simp [awaits]
      · simp [awaits]

theorem moves_of_waiting (sound : a.Sound p) {awaited : Symbol}
    (awaits : a.rule.rhs[a.dot]? = some awaited) :
    p.moves chart a = .ok (p.predictions awaited a.span.stop) := by
  simp only [moves, sound.next_eq, awaits, bind, Except.bind, pure, Except.pure]

/-- The cell where a sound arc begins. -/
theorem exists_start_cell (charted : p.Charted chart) (sound : a.Sound p) :
    ∃ i : Nat, a.span.start = i ∧ i < chart.length := by
  have lower := sound.start_nonneg
  have upper := Int.le_trans sound.start_le sound.stop_le
  refine ⟨a.span.start.toNat, (Int.toNat_of_nonneg lower).symm, ?_⟩
  rw [charted.length_eq]
  omega

theorem moves_of_built (charted : p.Charted chart) (sound : a.Sound p) {t : Tree}
    (built : a.built = some t) {i : Nat} (starts : a.span.start = i) :
    p.moves chart a = .ok (((chart.arcsIn i).filter fun b =>
      b.rule.rhs[b.dot]? = some t.head).map (.extend · t)) := by
  have full : a.rule.rhs[a.dot]? = none := List.getElem?_eq_none
    (Nat.le_of_eq (Arc.isComplete_iff.mp (sound.builds built).complete).symm)
  rcases exists_start_cell charted sound with ⟨i', starts', inside⟩
  have same : i' = i := Int.natCast_inj.mp (starts'.symm.trans starts)
  subst same
  have waiting := waitingFor_eq_filter
    (fun b (member : b ∈ chart.arcsIn i') => charted.sound member) t.head
  simp only [moves, completions, Arc.tree, sound.next_eq, full, built, starts,
    Chart.arcsAt_natCast inside, waiting, bind, Except.bind, pure, Except.pure]

/-- The moves of an arc can be computed and are what it offers. -/
theorem exists_moves (charted : p.Charted chart) (sound : a.Sound p) :
    ∃ moves, p.moves chart a = .ok moves ∧ ∀ m, m ∈ moves ↔ p.Offers chart a m := by
  cases awaits : a.rule.rhs[a.dot]? with
  | some awaited =>
      have next := sound.next_eq_some.mpr awaits
      refine ⟨_, moves_of_waiting sound awaits, fun m => ?_⟩
      rw [mem_predictions]
      constructor
      · rintro ⟨r, member, head, rfl | ⟨t, lexical, found, rfl⟩⟩
        · exact .predict next member head
        · exact .scan next member head lexical found
      · intro offer
        cases offer with
        | @predict awaited' r next' member head =>
            rw [next, Except.ok.injEq, Option.some.injEq] at next'
            exact ⟨r, member, head.trans next'.symm, Or.inl rfl⟩
        | @scan awaited' r token next' member head lexical found =>
            rw [next, Except.ok.injEq, Option.some.injEq] at next'
            exact ⟨r, member, head.trans next'.symm, Or.inr ⟨token, lexical, found, rfl⟩⟩
        | extend built _ _ _ =>
            have full := Arc.isComplete_iff.mp (sound.builds built).complete
            rw [full, List.getElem?_eq_none (Nat.le_refl _)] at awaits
            cases awaits
  | none =>
      rcases sound.exists_tree (sound.isComplete_of_none awaits) with ⟨t, built⟩
      rcases exists_start_cell charted sound with ⟨i, starts, inside⟩
      refine ⟨_, moves_of_built charted sound built starts, fun m => ?_⟩
      simp only [List.mem_map, List.mem_filter, decide_eq_true_eq]
      constructor
      · rintro ⟨b, ⟨member, waits⟩, rfl⟩
        exact .extend built starts member
          ((charted.sound member).next_eq_some.mpr waits)
      · intro offer
        cases offer with
        | predict next _ _ =>
            rw [sound.next_eq, awaits] at next
            cases next
        | scan next _ _ _ _ =>
            rw [sound.next_eq, awaits] at next
            cases next
        | @extend i' b t' built' starts' member next =>
            have sameTree : t' = t := Option.some.inj (built'.symm.trans built)
            have sameCell : i' = i := Int.natCast_inj.mp (starts'.symm.trans starts)
            subst sameTree sameCell
            exact ⟨b, ⟨member, (charted.sound member).next_eq_some.mp next⟩, rfl⟩

/-! ## Offers are grounded -/

/-- A seed is grounded in every chart. -/
theorem grounded_seed {r : Rule} (member : r ∈ p.grammar.rules) (head : r.head = p.start) :
    (Move.predict r 0).Grounded p chart where
  deduced _ := .seed r member head
  traced _ := .predict r 0
  contained _ _ contains := absurd contains Arc.contains_predict

theorem Offers.grounded (charted : p.Charted chart) (member : a ∈ chart.arcsIn e)
    (offer : p.Offers chart a m) : m.Grounded p chart := by
  have deduced := charted.deduced e a member
  cases offer with
  | predict next inGrammar head =>
      exact ⟨fun _ => .predict deduced next _ inGrammar head, fun _ => .predict _ _,
        fun _ _ contains => absurd contains Arc.contains_predict⟩
  | @scan awaited r token next inGrammar head lexical found =>
      refine ⟨fun serial => .scan deduced next _ inGrammar head serial _ lexical found,
        fun serial => .scan serial r _ token lexical, ?_⟩
      intro serial x contains
      rcases Arc.contains_scan contains with leaf | node
      · exact Or.inr (by simp [Move.made, leaf])
      · exact Or.inr (by simp [Move.made, node])
  | @extend i b t built starts waits next =>
      have meets : b.span.stop = a.span.start :=
        (charted.tidy.located i b waits).trans starts.symm
      refine ⟨fun serial => .extend (charted.deduced i b waits) deduced built next meets serial,
        fun serial => .extend serial waits member built, ?_⟩
      intro serial x contains
      rcases Arc.contains_extend contains with old | part | new
      · exact Or.inl ⟨i, b, waits, old⟩
      · exact Or.inl ⟨e, a, member, Or.inr ⟨t, built, part⟩⟩
      · exact Or.inr (Option.mem_toList.mpr new)

/-- An offer concerns the cell of the arc or, if it is a scan, the next one. -/
theorem Offers.stop_eq (charted : p.Charted chart) (member : a ∈ chart.arcsIn e)
    (offer : p.Offers chart a m) (serial : Nat) :
    (m.arc serial).span.stop = e ∨ (m.arc serial).span.stop = (e : Int) + 1 := by
  have stop := charted.tidy.located e a member
  cases offer with
  | predict => exact Or.inl stop
  | scan => exact Or.inr (by rw [← stop]; rfl)
  | extend built _ _ _ =>
      have span := ((charted.sound member).builds built).span_eq
      exact Or.inl (by rw [← stop, ← span]; rfl)

/-- A complete arc begins before the cell it stands in. -/
theorem start_lt_of_built (charted : p.Charted chart) (member : a ∈ chart.arcsIn e) {t : Tree}
    (built : a.built = some t) {i : Nat} (starts : a.span.start = i) : i < e := by
  have sound := charted.sound member
  have before := sound.start_lt (sound.matched_ne_nil (sound.builds built).complete)
  rw [charted.tidy.located e a member, starts] at before
  exact Int.ofNat_lt.mp before

/-- Growth behind an arc leaves what it offers as it was. -/
theorem Offers.of_grows {chart' : Chart} {k : Nat} (charted : p.Charted chart)
    (member : a ∈ chart.arcsIn e) (grows : chart.Grows k chart') (behind : e ≤ k)
    (offer : p.Offers chart' a m) : p.Offers chart a m := by
  cases offer with
  | predict next inGrammar head => exact .predict next inGrammar head
  | scan next inGrammar head lexical found => exact .scan next inGrammar head lexical found
  | @extend i b t built starts waits next =>
      have before := start_lt_of_built charted member built starts
      rw [grows.kept i (Nat.lt_of_lt_of_le before behind)] at waits
      exact .extend built starts waits next

end Problem
end ParseForest
