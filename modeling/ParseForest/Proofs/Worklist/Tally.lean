import Mathlib.Algebra.BigOperators.Group.List.Basic
import Mathlib.Algebra.GroupWithZero.Nat
import Mathlib.Data.List.Nodup
import ParseForest.Proofs.Chart.Firsts
import ParseForest.Proofs.Worklist.Saturation
import ParseForest.Proofs.Worklist.Visits

namespace ParseForest

/-!
# How often a key occurs

An arc that waits has a key of its own.  For complete arcs this depends on the
policy.  If trees are told apart by number, nothing that completes an arc is
ever rejected, so a complete key occurs as often as it is proposed, and how
often a visit proposes it depends on the key of the visited arc only.  If trees
are told apart by shape, a key that is not a tag occurs as often as there are
arcs whose visit proposes it.
-/

section Counting

variable {α : Type} {entries : List α}

theorem countP_le_one {P : α → Bool}
    (apart : entries.Pairwise fun a b => P a = true → P b = false) : entries.countP P ≤ 1 := by
  induction entries with
  | nil => exact Nat.zero_le 1
  | cons a entries ih =>
      rw [List.pairwise_cons] at apart
      cases holds : P a with
      | false =>
          rw [List.countP_cons_of_neg (by rw [holds]; exact Bool.false_ne_true)]
          exact ih apart.2
      | true =>
          have rest : entries.countP P = 0 := by
            apply List.countP_eq_zero.mpr
            intro b member
            rw [apart.1 b member holds]
            exact Bool.false_ne_true
          have total : (a :: entries).countP P = entries.countP P + 1 :=
            List.countP_cons_of_pos holds
          omega

/-- A sum of zeros and ones counts the ones. -/
theorem sum_eq_length_filter {f : α → Nat} (small : ∀ a ∈ entries, f a ≤ 1) :
    (entries.map f).sum = (entries.filter (f · ≠ 0)).length := by
  induction entries with
  | nil => rfl
  | cons a entries ih =>
      have rest := ih fun b member => small b (List.mem_cons_of_mem a member)
      have first := small a (List.mem_cons_self ..)
      rw [List.map_cons, List.sum_cons, rest]
      by_cases zero : f a = 0
      · rw [List.filter_cons_of_neg (by simp [zero]), zero, Nat.zero_add]
      · rw [List.filter_cons_of_pos (by simp [zero]), List.length_cons]
        omega

end Counting

namespace Chart

/-- The number of arcs with a key. -/
def tally (chart : Chart) (k : ArcKey) : Nat :=
  ((chart.arcsIn k.span.stop.toNat).map Arc.key).count k

variable {p : Problem} {chart : Chart} {k : ArcKey} {e : Nat} {a : Arc}

/-- A key occurs in the cell where it says that its arcs end, and nowhere else. -/
theorem count_keys (tidy : chart.Tidy) (k : ArcKey) (e : Nat) :
    ((chart.arcsIn e).map Arc.key).count k = if k.span.stop = e then chart.tally k else 0 := by
  by_cases here : k.span.stop = e
  · rw [if_pos here, tally, here, Int.toNat_natCast]
  · rw [if_neg here]
    apply List.count_eq_zero_of_not_mem
    intro member
    rcases List.mem_map.mp member with ⟨a, inCell, rfl⟩
    exact here (tidy.located e a inCell)

theorem tally_pos_iff (tidy : chart.Tidy) :
    0 < chart.tally k ↔ ∃ e, ∃ a ∈ chart.arcsIn e, a.key = k := by
  rw [tally, List.count_pos_iff, List.mem_map]
  constructor
  · rintro ⟨a, member, key⟩
    exact ⟨_, a, member, key⟩
  · rintro ⟨e, a, member, rfl⟩
    have stop : a.key.span.stop = e := tidy.located e a member
    rw [stop, Int.toNat_natCast]
    exact ⟨a, member, rfl⟩

theorem tally_le_one (apart : (chart.arcsIn k.span.stop.toNat).Pairwise
    fun a b => a.key = k → b.key ≠ k) : chart.tally k ≤ 1 := by
  rw [tally, List.count, List.countP_map]
  apply countP_le_one
  refine apart.imp ?_
  intro a b distinct key
  exact beq_eq_false_iff_ne.mpr (distinct (eq_of_beq key))

theorem tally_append (inside : e < chart.length) (stop : a.span.stop = e) (k : ArcKey) :
    (chart.append e a).tally k = chart.tally k + if a.key = k then 1 else 0 := by
  rw [tally, tally]
  by_cases here : k.span.stop.toNat = e
  · rw [here, append_arcsIn_self inside, List.map_append, List.count_append, List.map_singleton,
      List.count_singleton]
    simp only [beq_iff_eq]
  · have different : a.key ≠ k := by
      rintro rfl
      apply here
      change a.span.stop.toNat = e
      rw [stop, Int.toNat_natCast]
    rw [append_arcsIn_of_ne here, if_neg different, Nat.add_zero]

theorem sum_map_arcs (chart : Chart) (f : Arc → Nat) : (chart.arcs.map f).sum =
    ((List.range chart.length).map fun e => ((chart.arcsIn e).map f).sum).sum := by
  rw [arcs, List.map_flatMap, List.flatMap_def, List.sum_flatten, List.map_map]
  rfl

/-- A sum over all arcs to which only one cell contributes. -/
theorem sum_arcs_of_cell {f : Arc → Nat} (elsewhere : ∀ i ≠ e, ∀ a ∈ chart.arcsIn i, f a = 0) :
    (chart.arcs.map f).sum = ((chart.arcsIn e).map f).sum := by
  have others : ∀ i ≠ e, ((chart.arcsIn i).map f).sum = 0 := by
    intro i different
    apply List.sum_eq_zero
    intro n member
    rcases List.mem_map.mp member with ⟨a, inCell, rfl⟩
    exact elsewhere i different a inCell
  rw [sum_map_arcs, List.sum_map_eq_nsmul_single e _ fun i different _ => others i different]
  by_cases inside : e < chart.length
  · rw [List.count_eq_one_of_mem List.nodup_range (List.mem_range.mpr inside), one_nsmul]
  · have outside : ((chart.arcsIn e).map f).sum = 0 := by
      rw [arcsIn_eq_nil (Nat.not_lt.mp inside)]
      rfl
    rw [outside, nsmul_zero]

end Chart

/-- An arc with the key `b` waits for the head of `k`, and has the key `target` if
it is extended by a tree of `k`. -/
def ArcKey.Completes (k target b : ArcKey) : Prop :=
  b.rule.rhs[b.dot]? = some k.rule.head ∧ ⟨⟨b.span.start, k.span.stop⟩, b.rule, b.dot + 1⟩ = target

instance (k target b : ArcKey) : Decidable (k.Completes target b) :=
  inferInstanceAs (Decidable (_ ∧ _))

namespace Problem

theorem Charted.tally_le_of_waiting {p : Problem} {chart : Chart} {k : ArcKey}
    (charted : p.Charted chart) (waits : k.dot ≠ k.rule.rhs.length) : chart.tally k ≤ 1 := by
  apply Chart.tally_le_one
  refine (charted.waiting_distinct _).imp ?_
  rintro a b distinct rfl key
  refine distinct (Arc.isComplete_eq_false_iff.mpr ?_) key
  rw [← key] at waits
  exact waits

/-- How many arcs with the key `target` a visit proposes, if the visited arc has
the key `k`. -/
def gain (p : Problem) (chart : Chart) (target k : ArcKey) : Nat :=
  match k.rule.rhs[k.dot]? with
  | some awaited => (p.predictions awaited k.span.stop).countP fun m => (m.arc 0).key = target
  | none => (chart.arcsIn k.span.start.toNat).countP fun b => k.Completes target b.key

variable {p : Problem} {policy : Policy} {chart : Chart} {a : Arc} {e : Nat}

theorem gain_of_awaits {k : ArcKey} {awaited : Symbol}
    (awaits : k.rule.rhs[k.dot]? = some awaited) (target : ArcKey) :
    p.gain chart target k =
      (p.predictions awaited k.span.stop).countP fun m => (m.arc 0).key = target := by
  unfold gain
  rw [awaits]

theorem gain_of_complete {k : ArcKey} (complete : k.rule.rhs[k.dot]? = none) {i : Nat}
    (starts : k.span.start = i) (target : ArcKey) :
    p.gain chart target k = (chart.arcsIn i).countP fun b => k.Completes target b.key := by
  unfold gain
  rw [complete, starts]
  rfl

theorem countP_moves (charted : p.Charted chart) (member : a ∈ chart.arcsIn e)
    {moves : List Move} (movesEq : p.moves chart a = .ok moves) (target : ArcKey) :
    (moves.countP fun m => (m.arc 0).key = target) = p.gain chart target a.key := by
  have sound := charted.sound member
  cases awaits : a.rule.rhs[a.dot]? with
  | some awaited =>
      rw [moves_of_waiting sound awaits, Except.ok.injEq] at movesEq
      rw [gain_of_awaits (k := a.key) awaits, ← movesEq]
      rfl
  | none =>
      rcases sound.exists_tree (sound.isComplete_of_none awaits) with ⟨t, built⟩
      rcases exists_start_cell charted sound with ⟨i, starts, _⟩
      have builds := sound.builds built
      rw [moves_of_built charted sound built starts, Except.ok.injEq] at movesEq
      rw [gain_of_complete (k := a.key) awaits starts, ← movesEq, List.countP_map,
        List.countP_filter]
      apply List.countP_congr
      intro b _
      simp only [Function.comp_apply, Move.arc, Arc.extend_key, builds.span_eq, builds.applies.1,
        Bool.and_eq_true, decide_eq_true_eq]
      exact And.comm

/-- What an arc gains does not change when the chart grows behind it. -/
theorem gain_of_grows {chart' : Chart} {i : Nat} (charted : p.Charted chart)
    (member : a ∈ chart.arcsIn e) (grows : chart.Grows i chart') (behind : e ≤ i)
    (target : ArcKey) : p.gain chart' target a.key = p.gain chart target a.key := by
  have sound := charted.sound member
  cases awaits : a.rule.rhs[a.dot]? with
  | some awaited => rw [gain_of_awaits (k := a.key) awaits, gain_of_awaits (k := a.key) awaits]
  | none =>
      rcases sound.exists_tree (sound.isComplete_of_none awaits) with ⟨t, built⟩
      rcases exists_start_cell charted sound with ⟨k, starts, _⟩
      have before := start_lt_of_built charted member built starts
      rw [gain_of_complete (k := a.key) awaits starts, gain_of_complete (k := a.key) awaits starts,
        grows.kept k (Nat.lt_of_lt_of_le before behind)]

end Problem

/-! ## Trees told apart by number -/

namespace Worklist

variable {p : Problem} {work next : Worklist} {m : Move} {k : ArcKey}

theorem serial_le_of_built {serial : Nat} {t : Tree} (built : (m.arc serial).built = some t) :
    serial ≤ t.serial := by
  cases m with
  | predict r pos => cases built
  | scan r pos token =>
      cases built
      exact Nat.le_succ serial
  | extend b u =>
      rw [Move.arc, Arc.extend_built] at built
      split at built
      · cases built
        exact Nat.le_refl serial
      · cases built

/-- An arc with a new tree is not merged by number. -/
theorem Coherent.merges_eq_false (coherent : work.Coherent p)
    (numbers : work.chart.policy ≠ .span ∧ work.chart.policy ≠ .shape) {t : Tree}
    (built : (m.arc work.serial).built = some t) {e : Nat} {b : Arc}
    (member : b ∈ work.chart.arcsIn e) :
    work.chart.policy.merges (m.arc work.serial) b = false := by
  have high := serial_le_of_built built
  cases built' : b.built with
  | none => simp [Policy.merges, built, built']
  | some u =>
      have low := coherent.numbered.below u ⟨e, b, member, Or.inr ⟨u, built', .self u⟩⟩
      have different : t.serial ≠ u.serial := by omega
      cases which : work.chart.policy with
      | span => exact absurd which numbers.1
      | shape => exact absurd which numbers.2
      | identity => simp [Policy.merges, built, built', different]
      | unnamed code => simp [Policy.merges, built, built', different]

theorem Coherent.tally_propose (coherent : work.Coherent p) (grounded : m.Grounded p work.chart)
    (numbers : work.chart.policy ≠ .span ∧ work.chart.policy ≠ .shape)
    (complete : k.dot = k.rule.rhs.length) (run : work.propose m = .ok next) :
    next.chart.tally k = work.chart.tally k + if (m.arc 0).key = k then 1 else 0 := by
  have same : (m.arc 0).key = (m.arc work.serial).key :=
    (m.arc_repeats work.chart.policy 0 work.serial).1
  rcases coherent.propose_cases grounded with ⟨e, stop, inside, ⟨merged, run'⟩ | ⟨_, run'⟩⟩
  · rw [run, Except.ok.injEq] at run'
    subst run'
    have different : (m.arc 0).key ≠ k := by
      rintro rfl
      rw [same] at complete
      have sound := (grounded.deduced work.serial).sound
      rcases sound.exists_tree (Arc.isComplete_iff.mpr complete) with ⟨t, built⟩
      rcases List.any_eq_true.mp merged with ⟨b, member, merged⟩
      rw [coherent.merges_eq_false numbers built member] at merged
      cases merged
    rw [if_neg different]
    rfl
  · rw [run, Except.ok.injEq] at run'
    subst run'
    rw [Chart.tally_append inside stop, same]

theorem Coherent.tally_proposeAll {moves : List Move} (coherent : work.Coherent p)
    (grounded : ∀ m ∈ moves, m.Grounded p work.chart)
    (numbers : work.chart.policy ≠ .span ∧ work.chart.policy ≠ .shape)
    (complete : k.dot = k.rule.rhs.length) (run : work.proposeAll moves = .ok next) :
    next.chart.tally k = work.chart.tally k + moves.countP fun m => (m.arc 0).key = k := by
  induction moves generalizing work with
  | nil =>
      rw [Worklist.proposeAll, Except.ok.injEq] at run
      subst run
      rfl
  | cons m moves ih =>
      rcases coherent.proposeAll_cons grounded run with
        ⟨middle, proposed, rest, coherent', grounded', grows, _⟩
      rw [ih coherent' grounded' (grows.policy_eq ▸ numbers) rest,
        coherent.tally_propose (grounded m (List.mem_cons_self ..)) numbers complete proposed,
        List.countP_cons, Nat.add_assoc]
      simp only [decide_eq_true_eq]
      omega

end Worklist

namespace Problem

variable {p : Problem} {policy : Policy} {chart : Chart} {work : Worklist} {k : ArcKey}

/-- Seeds do not complete anything. -/
theorem countP_seeds (complete : k.dot = k.rule.rhs.length) :
    (p.seeds.countP fun m => (m.arc 0).key = k) = 0 := by
  apply List.countP_eq_zero.mpr
  intro m member equal
  rcases List.mem_map.mp member with ⟨r, _, rfl⟩
  have keys : (⟨⟨0, 0⟩, r, 0⟩ : ArcKey) = k := of_decide_eq_true equal
  rw [← keys] at complete
  exact r.rhs_ne_nil (List.length_eq_zero_iff.mp complete.symm)

/-- Where trees are told apart by number, the arcs that have been passed account
for every complete arc of the chart. -/
theorem Reaches.tally_eq (reached : p.Reaches policy 0 work)
    (numbers : policy ≠ .span ∧ policy ≠ .shape) (complete : k.dot = k.rule.rhs.length) :
    work.chart.tally k = (work.passed.map fun a => p.gain work.chart k a.key).sum := by
  induction reached with
  | seeded run =>
      have start := Seeded.of_run run
      rw [seeded_eq policy 0 (fits_of_seeded run)] at run
      rw [blank_coherent.tally_proposeAll (fun m member => grounded_of_mem_seeds member) numbers
        complete run, countP_seeds complete, start.passed_eq, Chart.tally, blank_arcsIn]
      rfl
  | @visited work next a reached current run ih =>
      rcases reached.invariant with ⟨coherent, policyEq, _⟩
      rcases exists_visits coherent current run with ⟨moves, visits⟩
      have added := (coherent.moved work.cell (work.index + 1)).tally_proposeAll visits.grounded
        (policyEq.symm ▸ numbers) complete visits.proposed
      -- The gains of the arcs passed before are what they were.
      have kept : ∀ b ∈ work.passed ++ [a],
          p.gain next.chart k b.key = p.gain work.chart k b.key := by
        intro b passed
        have found : ∃ e ≤ work.cell, b ∈ work.chart.arcsIn e := by
          rcases List.mem_append.mp passed with before | here
          · exact Worklist.exists_cell_of_passed before
          · exact ⟨work.cell, Nat.le_refl _, List.mem_singleton.mp here ▸ visits.member⟩
        rcases found with ⟨e, behind, member⟩
        exact gain_of_grows coherent.charted member visits.grows behind k
      rw [added, Worklist.passed_visit current visits.grows visits.cell_eq visits.index_eq,
        List.map_congr_left kept, List.map_append, List.sum_append, ← ih,
        countP_moves coherent.charted visits.member visits.moves_eq]
      simp
  | advanced reached done ih =>
      rw [Worklist.passed_advance done]
      exact ih

end Problem

/-! ## Trees told apart by shape -/

/-- The key of complete arcs that tag no token. -/
structure ArcKey.Phrase (k : ArcKey) : Prop where
  complete : k.dot = k.rule.rhs.length
  syntactic : k.rule.isLexical = false

namespace Arc

/-- The shape of the tree matched last. -/
def tip (a : Arc) : Option Tree :=
  a.matched.getLast?.map Tree.shape

variable {p : Problem} {a b : Arc} {t : Tree}

theorem tip_extend (serial : Nat) (b : Arc) (t : Tree) :
    (b.extend serial t).tip = some t.shape := by
  simp [tip, extend]

/-- Arcs that have built trees of one shape have matched trees of the same
shapes. -/
theorem Sound.tip_eq_of_built (sound : a.Sound p) (sound' : b.Sound p)
    (complete : a.isComplete = true) (shapes : a.built.map Tree.shape = b.built.map Tree.shape) :
    a.tip = b.tip := by
  rcases sound.exists_tree complete with ⟨t, built⟩
  rw [built, Option.map_some, eq_comm, Option.map_eq_some_iff] at shapes
  rcases shapes with ⟨u, built', same⟩
  have children := Tree.children_eq_of_shape same
  rw [(sound.builds built).children_eq, (sound'.builds built').children_eq] at children
  rw [tip, tip, ← List.getLast?_map, ← List.getLast?_map, children]

/-- Arcs that end together have one key if they are extended to one key. -/
theorem key_eq_of_advanced {stop stop' : Int} (ends : a.span.stop = b.span.stop)
    (keys : (⟨⟨a.span.start, stop⟩, a.rule, a.dot + 1⟩ : ArcKey) =
      ⟨⟨b.span.start, stop'⟩, b.rule, b.dot + 1⟩) : a.key = b.key := by
  simp only [ArcKey.mk.injEq, Span.mk.injEq, Nat.add_right_cancel_iff] at keys
  have spans : a.span = b.span := by
    cases first : a.span
    cases second : b.span
    simp_all
  exact key_eq.mpr ⟨spans, keys.2⟩

/-- What an extension that makes sense has awaited. -/
theorem Sound.of_extend {serial : Nat} (waiting : b.Sound p) (sound : (b.extend serial t).Sound p) :
    b.rule.rhs[b.dot]? = some t.head ∧ b.span.stop = t.span.start := by
  constructor
  · have labels := congrArg (·[b.dot]?) sound.labels
    have outside : (b.matched.map Tree.head).length ≤ b.dot := by
      rw [List.length_map]
      exact Nat.le_refl _
    simp only [extend_dot] at labels
    change ((b.matched ++ [t]).map Tree.head)[b.dot]? =
      (b.rule.rhs.take (b.dot + 1))[b.dot]? at labels
    rw [List.getElem?_take_of_lt (Nat.lt_succ_self _), List.map_append] at labels
    rw [← labels, List.getElem?_append_right outside]
    simp [dot]
  · have tiled := Tree.tiled_concat.mp sound.tiled
    exact waiting.tiled.stop_unique tiled.1

end Arc

namespace Problem

variable {p : Problem} {policy : Policy} {chart : Chart} {a b c : Arc} {e : Nat} {k : ArcKey}

/-- Only complete arcs complete a phrase. -/
theorem gain_eq_zero_of_waiting (charted : p.Charted chart) (member : a ∈ chart.arcsIn e)
    (waits : a.isComplete = false) (phrase : k.Phrase) : p.gain chart k a.key = 0 := by
  have sound := charted.sound member
  rcases exists_moves charted sound with ⟨moves, movesEq, offered⟩
  rw [← countP_moves charted member movesEq, List.countP_eq_zero]
  intro m inMoves equal
  have key := of_decide_eq_true equal
  cases (offered m).mp inMoves with
  | @predict awaited r next _ _ =>
      have complete := phrase.complete
      rw [← key] at complete
      exact r.rhs_ne_nil (List.length_eq_zero_iff.mp complete.symm)
  | @scan awaited r token next _ _ lexical _ =>
      have syntactic : r.isLexical = false := by
        rw [← key] at phrase
        exact phrase.syntactic
      rw [r.isLexical_iff.mpr ⟨token, lexical⟩] at syntactic
      cases syntactic
  | extend built _ _ _ =>
      rw [sound.built_eq_none waits] at built
      cases built

/-- A complete arc completes an arc of the chart at most once. -/
theorem gain_le_one (charted : p.Charted chart) (member : a ∈ chart.arcsIn e)
    (full : a.isComplete = true) : p.gain chart k a.key ≤ 1 := by
  have sound := charted.sound member
  have nothing : a.key.rule.rhs[a.key.dot]? = none :=
    List.getElem?_eq_none (Nat.le_of_eq (Arc.isComplete_iff.mp full).symm)
  rcases exists_start_cell charted sound with ⟨i, starts, _⟩
  rw [gain_of_complete nothing starts]
  apply countP_le_one
  refine (List.Pairwise.and_mem.mp (charted.waiting_distinct i)).imp ?_
  rintro b c ⟨inCell, inCell', distinct⟩ gains
  apply decide_eq_false
  rintro ⟨awaits, keys⟩
  rcases of_decide_eq_true gains with ⟨_, keys'⟩
  apply distinct (Arc.isComplete_of_awaits awaits)
  refine Arc.key_eq_of_advanced ?_ (keys.trans keys'.symm)
  rw [charted.tidy.located i b inCell, charted.tidy.located i c inCell']

theorem gain_ne_zero_iff (charted : p.Charted chart) (member : a ∈ chart.arcsIn e) {t : Tree}
    (built : a.built = some t) {i : Nat} (starts : a.span.start = i) :
    p.gain chart k a.key ≠ 0 ↔
      ∃ b ∈ chart.arcsIn i, b.rule.rhs[b.dot]? = some t.head ∧ (b.extend 0 t).key = k := by
  rcases exists_moves charted (charted.sound member) with ⟨moves, movesEq, _⟩
  rw [← countP_moves charted member movesEq, Nat.ne_zero_iff_zero_lt, List.countP_pos_iff]
  rw [moves_of_built charted (charted.sound member) built starts, Except.ok.injEq] at movesEq
  rw [← movesEq]
  simp only [List.mem_map, List.mem_filter, decide_eq_true_eq]
  constructor
  · rintro ⟨_, ⟨b, ⟨inCell, awaits⟩, rfl⟩, key⟩
    exact ⟨b, inCell, awaits, key⟩
  · rintro ⟨b, inCell, awaits, key⟩
    exact ⟨_, ⟨b, ⟨inCell, awaits⟩, rfl⟩, key⟩

theorem exists_built_of_gain (charted : p.Charted chart) (member : a ∈ chart.arcsIn e)
    (phrase : k.Phrase) (gains : p.gain chart k a.key ≠ 0) : ∃ t, a.built = some t := by
  cases full : a.isComplete with
  | true => exact (charted.sound member).exists_tree full
  | false => exact absurd (gain_eq_zero_of_waiting charted member full phrase) gains

/-- A complete phrase of the chart comes from an arc that waited for a tree built
in its own cell. -/
theorem Charted.exists_origin (charted : p.Charted chart) (member : c ∈ chart.arcsIn e)
    (phrase : c.key.Phrase) :
    ∃ (i : Nat) (b d : Arc) (t : Tree) (serial : Nat), b ∈ chart.arcsIn i ∧ d ∈ chart.arcsIn e ∧
      d.built = some t ∧ d.span.start = i ∧ b.rule.rhs[b.dot]? = some t.head ∧
      c = b.extend serial t := by
  have sound := charted.sound member
  have stop := charted.tidy.located e c member
  cases charted.traced e c member with
  | predict r pos =>
      exact absurd (List.length_eq_zero_iff.mp phrase.complete.symm) r.rhs_ne_nil
  | scan serial r span token lexical =>
      have syntactic : r.isLexical = false := phrase.syntactic
      rw [r.isLexical_iff.mpr ⟨token, lexical⟩] at syntactic
      cases syntactic
  | @extend b d t i j serial waiting finished built =>
      rcases (charted.sound waiting).of_extend sound with ⟨awaits, meets⟩
      have span := ((charted.sound finished).builds built).span_eq
      have here : j = e := Int.natCast_inj.mp <| by
        rw [← charted.tidy.located j d finished, ← stop, ← span]
        rfl
      subst here
      refine ⟨i, b, d, t, serial, waiting, finished, built, ?_, awaits, rfl⟩
      rw [← span, ← meets, charted.tidy.located i b waiting]

/-- Where trees are told apart by shape, no shape is built twice in a cell. -/
theorem Filled.shapes_distinct (filled : p.Filled .shape chart) (e : Nat) :
    (chart.arcsIn e).Pairwise fun a b =>
      ∀ t u, a.built = some t → b.built = some u → t.shape ≠ u.shape := by
  rcases filled.numbered with ⟨bound, numbered⟩
  refine (List.Pairwise.and_mem.mp (filled.charted.tidy.distinct e)).imp ?_
  rintro a b ⟨member, member', apart⟩ t u built built' shapes
  rw [filled.policy_eq, Chart.merges_of_shape filled.charted numbered member' member built' built
    shapes.symm] at apart
  cases apart

/-- Arcs of one phrase whose last trees have the same shape have built trees of
the same shape, since one and the same arc has waited for both. -/
theorem Charted.shape_eq_of_tip (charted : p.Charted chart) (member : b ∈ chart.arcsIn e)
    (member' : c ∈ chart.arcsIn e) (phrase : b.key.Phrase) (keys : b.key = c.key)
    (tips : b.tip = c.tip) : b.built.map Tree.shape = c.built.map Tree.shape := by
  rcases charted.exists_origin member phrase with
    ⟨_, w, _, t, serial, waiting, _, _, _, awaits, rfl⟩
  rcases charted.exists_origin member' (keys ▸ phrase) with
    ⟨_, w', _, t', serial', waiting', _, _, _, awaits', rfl⟩
  rw [Arc.tip_extend, Arc.tip_extend, Option.some.injEq] at tips
  have meets := ((charted.sound waiting).of_extend (charted.sound member)).2
  have meets' := ((charted.sound waiting').of_extend (charted.sound member')).2
  have ends : w.span.stop = w'.span.stop := by rw [meets, meets', Tree.span_eq_of_shape tips]
  have fronts : w.key = w'.key := by
    apply Arc.key_eq_of_advanced ends
    rw [← Arc.extend_key serial w t, keys, Arc.extend_key]
  have same := charted.eq_of_key waiting waiting' fronts (Arc.isComplete_of_awaits awaits)
    (Arc.isComplete_of_awaits awaits')
  subst same
  have shapes : (w.extend serial t).shape = (w.extend serial' t').shape := by
    rw [Arc.shape_extend, Arc.shape_extend, tips]
  exact congrArg Arc.built shapes

/-- Where trees are told apart by shape, the arcs of a phrase differ in the shapes
of their last trees. -/
theorem Filled.tips_nodup (filled : p.Filled .shape chart) (phrase : k.Phrase) (e : Nat) :
    (((chart.arcsIn e).filter (·.key = k)).map Arc.tip).Nodup := by
  have charted := filled.charted
  rw [List.Nodup, List.pairwise_map, List.pairwise_filter]
  refine (List.Pairwise.and_mem.mp (filled.shapes_distinct e)).imp ?_
  rintro b c ⟨member, member', distinct⟩ isKey isKey' tips
  have key := of_decide_eq_true isKey
  have key' := of_decide_eq_true isKey'
  subst key
  rcases (charted.sound member).exists_tree (Arc.isComplete_iff.mpr phrase.complete) with
    ⟨t, built⟩
  have shapes := charted.shape_eq_of_tip member member' phrase key'.symm tips
  rw [built, Option.map_some, eq_comm, Option.map_eq_some_iff] at shapes
  rcases shapes with ⟨u, built', shape⟩
  exact distinct t u built built' shape.symm

/-- The arcs that complete a phrase have built trees of different shapes. -/
theorem Filled.built_nodup (filled : p.Filled .shape chart) (phrase : k.Phrase) (e : Nat) :
    (((chart.arcsIn e).filter (p.gain chart k ·.key ≠ 0)).map
      fun a => a.built.map Tree.shape).Nodup := by
  have charted := filled.charted
  rw [List.Nodup, List.pairwise_map, List.pairwise_filter]
  refine (List.Pairwise.and_mem.mp (filled.shapes_distinct e)).imp ?_
  rintro a a' ⟨member, member', distinct⟩ gains gains' shapes
  rcases exists_built_of_gain charted member phrase (of_decide_eq_true gains) with
    ⟨t, built⟩
  rcases exists_built_of_gain charted member' phrase (of_decide_eq_true gains') with
    ⟨t', built'⟩
  rw [built, built', Option.map_some, Option.map_some, Option.some.injEq] at shapes
  exact distinct t t' built built' shapes

/-- The last trees of a phrase are the trees that complete it. -/
theorem Filled.mem_tips_iff (filled : p.Filled .shape chart) (phrase : k.Phrase) {e : Nat}
    {shape : Option Tree} :
    shape ∈ ((chart.arcsIn e).filter (·.key = k)).map Arc.tip ↔
      shape ∈ ((chart.arcsIn e).filter (p.gain chart k ·.key ≠ 0)).map
        fun a => a.built.map Tree.shape := by
  have charted := filled.charted
  simp only [List.mem_map, List.mem_filter, decide_eq_true_eq]
  constructor
  · rintro ⟨c, ⟨member, rfl⟩, rfl⟩
    rcases charted.exists_origin member phrase with
      ⟨i, b, d, t, serial, waiting, finished, built, starts, awaits, origin⟩
    refine ⟨d, ⟨finished, ?_⟩, ?_⟩
    · apply (gain_ne_zero_iff charted finished built starts).mpr
      refine ⟨b, waiting, awaits, ?_⟩
      rw [origin, Arc.extend_key, Arc.extend_key]
    · rw [origin, Arc.tip_extend, built, Option.map_some]
  · rintro ⟨a, ⟨member, gains⟩, rfl⟩
    have sound := charted.sound member
    rcases exists_built_of_gain charted member phrase gains with ⟨t, built⟩
    rcases exists_start_cell charted sound with ⟨i, starts, _⟩
    rcases (gain_ne_zero_iff charted member built starts).mp gains with
      ⟨b, waiting, awaits, rfl⟩
    have next := (charted.sound waiting).next_eq_some.mpr awaits
    rcases filled.extended member built starts waiting next with ⟨c, inCell, repeated⟩
    refine ⟨c, ⟨inCell, repeated.1.symm⟩, ?_⟩
    have extended : (b.extend 0 t).Sound p := by
      have builds := sound.builds built
      refine Arc.sound_extend (charted.sound waiting) builds.derived next ?_ 0
      rw [builds.span_eq, starts, charted.tidy.located i b waiting]
    have full : (b.extend 0 t).isComplete = true := Arc.isComplete_iff.mpr phrase.complete
    have tips := extended.tip_eq_of_built (charted.sound inCell) full
      (repeated.2 (by decide))
    rw [← tips, Arc.tip_extend, built, Option.map_some]

/-- Arcs of other cells do not complete a phrase. -/
theorem gain_eq_zero_of_cell (charted : p.Charted chart) (member : a ∈ chart.arcsIn e)
    (phrase : k.Phrase) (elsewhere : k.span.stop ≠ e) : p.gain chart k a.key = 0 := by
  by_contra gains
  have sound := charted.sound member
  rcases exists_built_of_gain charted member phrase gains with ⟨t, built⟩
  rcases exists_start_cell charted sound with ⟨i, starts, _⟩
  rcases (gain_ne_zero_iff charted member built starts).mp gains with ⟨b, _, _, rfl⟩
  apply elsewhere
  rw [← charted.tidy.located e a member, ← (sound.builds built).span_eq]
  rfl

/-- Where trees are told apart by shape, the key of a phrase occurs as often as
there are arcs whose visit proposes it. -/
theorem Filled.tally_of_shape (filled : p.Filled .shape chart) (phrase : k.Phrase) :
    chart.tally k = (chart.arcs.map fun a => p.gain chart k a.key).sum := by
  have charted := filled.charted
  -- An arc of the phrase is known by its last tree, and so is an arc that completes it.
  have tips := (List.perm_ext_iff_of_nodup (filled.tips_nodup phrase k.span.stop.toNat)
    (filled.built_nodup phrase _)).mpr fun _ => filled.mem_tips_iff phrase
  have lengths := tips.length_eq
  rw [List.length_map, List.length_map] at lengths
  have few : ∀ a ∈ chart.arcsIn k.span.stop.toNat, p.gain chart k a.key ≤ 1 := by
    intro a member
    cases full : a.isComplete with
    | true => exact gain_le_one charted member full
    | false =>
        rw [gain_eq_zero_of_waiting charted member full phrase]
        exact Nat.zero_le 1
  have elsewhere : ∀ e ≠ k.span.stop.toNat, ∀ a ∈ chart.arcsIn e, p.gain chart k a.key = 0 := by
    intro e different a member
    apply gain_eq_zero_of_cell charted member phrase
    intro stop
    rw [stop, Int.toNat_natCast] at different
    exact different rfl
  rw [Chart.sum_arcs_of_cell elsewhere, sum_eq_length_filter few, ← lengths, Chart.tally,
    List.count, List.countP_map, List.countP_eq_length_filter]
  congr 2

/-- Where trees are told apart by shape, a token is tagged once. -/
theorem Filled.tally_le_of_tag (filled : p.Filled .shape chart)
    (complete : k.dot = k.rule.rhs.length) (lexical : k.rule.isLexical = true) :
    chart.tally k ≤ 1 := by
  have charted := filled.charted
  apply Chart.tally_le_one
  refine (List.Pairwise.and_mem.mp (filled.shapes_distinct _)).imp ?_
  rintro a b ⟨member, member', distinct⟩ rfl keys
  have full : a.isComplete = true := Arc.isComplete_iff.mpr complete
  rcases (charted.sound member).exists_tree full with ⟨t, built⟩
  rcases (charted.sound member').exists_tree ((Arc.isComplete_eq_of_key keys).trans full) with
    ⟨u, built'⟩
  rcases Arc.key_eq.mp keys with ⟨span, rule, _⟩
  have builds := (charted.sound member).builds built
  have builds' := (charted.sound member').builds built'
  apply distinct t u built built'
  refine builds.derived.shape_eq_of_tagged builds'.derived builds.applies lexical builds'.applies
    (rule ▸ lexical) ?_ ?_
  · rw [builds.span_eq, builds'.span_eq, span]
  · rw [builds.applies.1, builds'.applies.1, rule]

/-- Unless the first arc of a key stands for all, a key occurs as often as the
arcs of the chart propose it. -/
theorem tally_eq_sum (run : p.fill policy = .ok chart) (finer : policy ≠ .span)
    (complete : k.dot = k.rule.rhs.length)
    (untagged : policy = .shape → k.rule.isLexical = false) :
    chart.tally k = (chart.arcs.map fun a => p.gain chart k a.key).sum := by
  by_cases shapes : policy = .shape
  · subst shapes
    exact (Filled.of_fill run).tally_of_shape ⟨complete, untagged rfl⟩
  · rcases Reaches.of_fill run with ⟨work, reached, rfl, last, _⟩
    rw [reached.tally_eq ⟨finer, shapes⟩ complete, Worklist.passed_eq_arcs last]

end Problem
end ParseForest
