import Mathlib.Data.List.Induction
import ParseForest.Proofs.Worklist.Proposal

namespace ParseForest

/-!
# The first arc of each kind

A policy that compares keys or shapes sorts the arcs of a chart into kinds, and
a chart that follows it keeps the first arc of each kind.  A chart that follows
a finer policy has these arcs too, with others between them.  What a proposal
does to the first arcs is the same under all such policies: it adds the proposed
arc if its kind is new, and otherwise leaves them alone, whether or not the arc
itself enters the chart.
-/

/-! ## Lists without repetitions -/

section Repetitions

variable {α β : Type} {same : α → α → Bool} {entries : List α} {x : α}

/-- An entry at the end is compared with those that have been kept. -/
theorem eraseDupsBy_concat (same : α → α → Bool) (entries : List α) (x : α) :
    (entries ++ [x]).eraseDupsBy same =
      if (entries.eraseDupsBy same).any (same x) then entries.eraseDupsBy same
      else entries.eraseDupsBy same ++ [x] := by
  have loop : ∀ kept, List.eraseDupsBy.loop same (entries ++ [x]) kept =
      if (List.eraseDupsBy.loop same entries kept).any (same x) then
        List.eraseDupsBy.loop same entries kept
      else List.eraseDupsBy.loop same entries kept ++ [x] := by
    induction entries with
    | nil =>
        intro kept
        simp only [List.nil_append, List.eraseDupsBy.loop, List.any_reverse]
        cases kept.any (same x) <;> simp
    | cons y entries ih =>
        intro kept
        simp only [List.cons_append, List.eraseDupsBy.loop]
        by_cases repeated : kept.any (same y) = true
        · simp only [repeated]
          exact ih kept
        · simp only [repeated]
          exact ih (y :: kept)
  exact loop []

theorem eraseDupsBy_prefix (same : α → α → Bool) (entries more : List α) :
    entries.eraseDupsBy same <+: (entries ++ more).eraseDupsBy same := by
  induction more using List.reverseRecOn with
  | nil => simp
  | append_singleton more x ih =>
      rw [← List.append_assoc, eraseDupsBy_concat]
      split
      · exact ih
      · exact ih.trans (List.prefix_append _ _)

theorem mem_of_mem_eraseDupsBy (member : x ∈ entries.eraseDupsBy same) : x ∈ entries := by
  induction entries using List.reverseRecOn with
  | nil => exact member
  | append_singleton entries y ih =>
      rw [eraseDupsBy_concat] at member
      split at member
      · exact List.mem_append_left _ (ih member)
      · rcases List.mem_append.mp member with old | new
        · exact List.mem_append_left _ (ih old)
        · exact List.mem_append_right _ new

/-- Where the comparison is equality of kinds, every kind is kept. -/
theorem exists_mem_eraseDupsBy {kind : α → β}
    (kinds : ∀ y ∈ entries, ∀ z ∈ entries, same y z = true ↔ kind y = kind z)
    (member : x ∈ entries) : ∃ y ∈ entries.eraseDupsBy same, kind y = kind x := by
  induction entries using List.reverseRecOn with
  | nil => cases member
  | append_singleton entries z ih =>
      have inner := ih fun y inside w inside' =>
        kinds y (List.mem_append_left _ inside) w (List.mem_append_left _ inside')
      rw [eraseDupsBy_concat]
      split
      case isTrue repeated =>
        rcases List.mem_append.mp member with old | new
        · exact inner old
        · rcases List.any_eq_true.mp repeated with ⟨y, kept, equal⟩
          have old := List.mem_append_left [z] (mem_of_mem_eraseDupsBy kept)
          rw [List.mem_singleton.mp new]
          exact ⟨y, kept, ((kinds z (by simp) y old).mp equal).symm⟩
      case isFalse =>
        rcases List.mem_append.mp member with old | new
        · rcases inner old with ⟨y, kept, equal⟩
          exact ⟨y, List.mem_append_left _ kept, equal⟩
        · exact ⟨x, List.mem_append_right _ new, rfl⟩

/-- Where the comparison is equality of kinds, an entry at the end is kept if its
kind is new. -/
theorem eraseDupsBy_concat_of_kinds {kind : α → β}
    (kinds : ∀ y ∈ entries ++ [x], ∀ z ∈ entries ++ [x], same y z = true ↔ kind y = kind z) :
    ((∃ y ∈ entries, kind y = kind x) →
      (entries ++ [x]).eraseDupsBy same = entries.eraseDupsBy same) ∧
    ((¬ ∃ y ∈ entries, kind y = kind x) →
      (entries ++ [x]).eraseDupsBy same = entries.eraseDupsBy same ++ [x]) := by
  have last : x ∈ entries ++ [x] := by simp
  have repeated : (entries.eraseDupsBy same).any (same x) = true ↔
      ∃ y ∈ entries, kind y = kind x := by
    rw [List.any_eq_true]
    constructor
    · rintro ⟨y, kept, equal⟩
      have old := mem_of_mem_eraseDupsBy kept
      exact ⟨y, old, ((kinds x last y (List.mem_append_left _ old)).mp equal).symm⟩
    · rintro ⟨y, old, equal⟩
      rcases exists_mem_eraseDupsBy (fun y inside z inside' =>
        kinds y (List.mem_append_left _ inside) z (List.mem_append_left _ inside')) old with
        ⟨z, kept, equal'⟩
      have inside := List.mem_append_left [x] (mem_of_mem_eraseDupsBy kept)
      exact ⟨z, kept, (kinds x last z inside).mpr (equal'.trans equal).symm⟩
  rw [eraseDupsBy_concat]
  exact ⟨fun known => if_pos (repeated.mpr known), fun new => if_neg (mt repeated.mp new)⟩

/-- Entries that repeat no earlier one are all kept. -/
theorem filter_eraseDupsBy {P : α → Bool}
    (alone : entries.Pairwise fun y z => P z = true → same z y = false) :
    (entries.eraseDupsBy same).filter P = entries.filter P := by
  induction entries using List.reverseRecOn with
  | nil => rfl
  | append_singleton entries z ih =>
      rcases List.pairwise_append.mp alone with ⟨front, _, across⟩
      rw [eraseDupsBy_concat]
      split
      case isTrue repeated =>
        rcases List.any_eq_true.mp repeated with ⟨y, kept, equal⟩
        have out : P z = false := by
          cases holds : P z with
          | false => rfl
          | true =>
              have apart := across y (mem_of_mem_eraseDupsBy kept) z (by simp) holds
              rw [equal] at apart
              cases apart
        rw [ih front, List.filter_append]
        simp [out]
      case isFalse => rw [List.filter_append, List.filter_append, ih front]

/-- Repetitions can be erased before or after a selection that respects them. -/
theorem filterMap_eraseDupsBy {select : α → Option β} {alike : β → β → Bool}
    (respects : ∀ y ∈ entries, ∀ z ∈ entries, ∀ t, select y = some t →
      (same y z = true ↔ ∃ u, select z = some u ∧ alike t u = true)) :
    (entries.eraseDupsBy same).filterMap select =
      (entries.filterMap select).eraseDupsBy alike := by
  induction entries using List.reverseRecOn with
  | nil => rfl
  | append_singleton entries z ih =>
      have inner := ih fun y inside w inside' =>
        respects y (List.mem_append_left _ inside) w (List.mem_append_left _ inside')
      rw [eraseDupsBy_concat, List.filterMap_append]
      cases selected : select z with
      | none =>
          have nothing : [z].filterMap select = [] := List.filterMap_cons_none selected
          rw [nothing, List.append_nil]
          split
          · exact inner
          · rw [List.filterMap_append, nothing, List.append_nil, inner]
      | some t =>
          have agree : (entries.eraseDupsBy same).any (same z) =
              ((entries.filterMap select).eraseDupsBy alike).any (alike t) := by
            rw [← inner, Bool.eq_iff_iff, List.any_eq_true, List.any_eq_true]
            constructor
            · rintro ⟨y, kept, equal⟩
              have old := List.mem_append_left [z] (mem_of_mem_eraseDupsBy kept)
              rcases (respects z (by simp) y old t selected).mp equal with ⟨u, found, equal'⟩
              exact ⟨u, List.mem_filterMap.mpr ⟨y, kept, found⟩, equal'⟩
            · rintro ⟨u, member, equal'⟩
              rcases List.mem_filterMap.mp member with ⟨y, kept, found⟩
              have old := List.mem_append_left [z] (mem_of_mem_eraseDupsBy kept)
              exact ⟨y, kept, (respects z (by simp) y old t selected).mpr ⟨u, found, equal'⟩⟩
          have single : [z].filterMap select = [t] := List.filterMap_cons_some selected
          rw [single, eraseDupsBy_concat, agree]
          split
          · exact inner
          · rw [List.filterMap_append, single, inner]

/-- Only comparisons between entries matter. -/
theorem eraseDupsBy_congr {same' : α → α → Bool}
    (agree : ∀ y ∈ entries, ∀ z ∈ entries, same y z = same' y z) :
    entries.eraseDupsBy same = entries.eraseDupsBy same' := by
  have respects : ∀ y ∈ entries, ∀ z ∈ entries, ∀ t, some y = some t →
      (same y z = true ↔ ∃ u, some z = some u ∧ same' t u = true) := by
    intro y inside z inside' t equal
    cases equal
    simp [agree y inside z inside']
  have erased := filterMap_eraseDupsBy respects
  simpa using erased

end Repetitions

/-! ## Kinds of arcs -/

namespace Tree

/-- The rule at the root: its label with the labels below it. -/
def production (t : Tree) : Symbol × List Symbol :=
  (t.head, t.children.map head)

theorem Applies.production_eq {t : Tree} {r : Rule} (applies : t.Applies r) :
    t.production = (r.head, r.rhs) := by
  rw [production, applies.1, applies.2]

theorem production_eq_of_shape {t u : Tree} (equal : t.shape = u.shape) :
    t.production = u.production := by
  have labels := heads_eq_of_shapes (children_eq_of_shape equal)
  rw [production, production, head_eq_of_shape equal, labels]

end Tree

namespace Arc

/-- The arc with the numbers of its trees forgotten. -/
def shape (a : Arc) : Arc :=
  { a with matched := a.matched.map Tree.shape, built := a.built.map Tree.shape }

theorem shape_dot (a : Arc) : a.shape.dot = a.dot := by
  simp [shape, dot]

theorem shape_shape (a : Arc) : a.shape.shape = a.shape := by
  cases built : a.built <;> simp [shape, built]

theorem key_eq_of_shape {a b : Arc} (equal : a.shape = b.shape) : a.key = b.key := by
  have keys : a.shape.key = b.shape.key := congrArg key equal
  rwa [key, key, shape_dot, shape_dot] at keys

theorem shape_extend (serial : Nat) (b : Arc) (t : Tree) :
    (b.extend serial t).shape = b.shape.extend 0 t.shape := by
  by_cases full : b.matched.length + 1 = b.rule.length
  · simp [shape, extend, full, Tree.shape_node]
  · simp [shape, extend, full]

end Arc

theorem Move.arc_shape (m : Move) (serial : Nat) : (m.arc serial).shape = (m.arc 0).shape := by
  cases m with
  | predict r pos => rfl
  | scan r pos token => simp [arc, Arc.scan, Arc.shape, Tree.shape]
  | extend b t => rw [arc, arc, Arc.shape_extend, Arc.shape_extend]

namespace Policy

/-- What a policy that compares keys or shapes looks at. -/
def kind (policy : Policy) (a : Arc) : ArcKey × Option Tree :=
  (a.key, if policy = .span then none else a.built.map Tree.shape)

variable {policy coarse : Policy} {a b : Arc}

theorem kind_eq_iff : policy.kind a = policy.kind b ↔ a.Repeats policy b := by
  rw [kind, kind, Prod.mk.injEq, Arc.Repeats]
  by_cases spans : policy = .span
  · simp [spans]
  · simp [spans]

theorem kind_eq_of_shape (policy : Policy) (equal : a.shape = b.shape) :
    policy.kind a = policy.kind b :=
  kind_eq_iff.mpr ⟨Arc.key_eq_of_shape equal, fun _ => congrArg Arc.built equal⟩

/-- The second policy compares keys or shapes, and takes for the same whatever
the first one does. -/
structure Refines (policy coarse : Policy) : Prop where
  looks : coarse = .span ∨ coarse = .shape
  finer : policy = .span → coarse = .span

theorem Refines.kind_eq (refines : policy.Refines coarse) (repeated : a.Repeats policy b) :
    coarse.kind a = coarse.kind b := by
  apply kind_eq_iff.mpr
  refine ⟨repeated.1, fun different => repeated.2 ?_⟩
  intro spans
  exact different (refines.finer spans)

/-- Arcs of one kind are merged, whatever the numbers of their trees. -/
theorem merges_of_kind {p : Problem} (looks : coarse = .span ∨ coarse = .shape)
    (sound : a.Sound p) (sound' : b.Sound p) (kinds : coarse.kind a = coarse.kind b) :
    coarse.merges a b = true := by
  rcases kind_eq_iff.mp kinds with ⟨keys, trees⟩
  rcases looks with rfl | rfl
  · exact (sound.span_merges_iff sound').mpr keys
  · have shapes := trees (by decide)
    cases first : a.built with
    | none =>
        rw [first, Option.map_none, eq_comm, Option.map_eq_none_iff] at shapes
        exact merges_of_unbuilt keys first shapes
    | some t =>
        rw [first, Option.map_some, eq_comm, Option.map_eq_some_iff] at shapes
        rcases shapes with ⟨u, second, shape⟩
        have equal := Tree.same_of_shape t u shape.symm
        simp [merges, keys, first, second, equal]

/-- Where comparing trees is reliable, arcs are merged if they are of one
kind. -/
theorem merges_iff_kind {p : Problem} (looks : coarse = .span ∨ coarse = .shape)
    (sound : a.Sound p) (sound' : b.Sound p)
    (agree : ∀ t u, a.built = some t → b.built = some u → t.Agree u) :
    coarse.merges a b = true ↔ coarse.kind a = coarse.kind b :=
  ⟨fun merged => kind_eq_iff.mpr (repeats_of_merges merged agree),
    merges_of_kind looks sound sound'⟩

end Policy

/-! ## The first arcs of a cell -/

namespace Chart

/-- The first arc of each kind in a cell. -/
def firsts (coarse : Policy) (chart : Chart) (e : Nat) : List Arc :=
  (chart.arcsIn e).eraseDupsBy coarse.merges

/-- The chart has an arc of the kind that the move proposes. -/
def Knows (coarse : Policy) (chart : Chart) (m : Move) : Prop :=
  ∃ e, ∃ b ∈ chart.arcsIn e, coarse.kind b = coarse.kind (m.arc 0)

/-- Up to numbering, the charts have the same first arcs in every cell. -/
def SameFirsts (coarse : Policy) (chart chart' : Chart) : Prop :=
  ∀ e, (chart.firsts coarse e).map Arc.shape = (chart'.firsts coarse e).map Arc.shape

variable {chart : Chart} {bound : Nat}

theorem Numbered.agree_of_mem (numbered : chart.Numbered bound) {e e' : Nat} {a b : Arc}
    (member : a ∈ chart.arcsIn e) (member' : b ∈ chart.arcsIn e') {t u : Tree}
    (built : a.built = some t) (built' : b.built = some u) : t.Agree u := by
  have trees : Tree.Numbered chart.Contains bound := ⟨numbered.below, numbered.unique⟩
  exact trees.agree (fun v part => ⟨e, a, member, Or.inr ⟨t, built, part⟩⟩)
    fun w part => ⟨e', b, member', Or.inr ⟨u, built', part⟩⟩

variable {p : Problem} {a b : Arc} {e : Nat} {t u : Tree}

/-- Trees that begin and end together come from arcs of one key if they apply
the same rule. -/
theorem key_eq_iff_production (charted : p.Charted chart) (member : a ∈ chart.arcsIn e)
    (member' : b ∈ chart.arcsIn e) (starts : a.span.start = b.span.start)
    (built : a.built = some t) (built' : b.built = some u) :
    a.key = b.key ↔ t.production = u.production := by
  have builds := (charted.sound member).builds built
  have builds' := (charted.sound member').builds built'
  rw [builds.applies.production_eq, builds'.applies.production_eq, Prod.mk.injEq]
  constructor
  · intro keys
    rw [(Arc.key_eq.mp keys).2.1]
    exact ⟨rfl, rfl⟩
  · rintro ⟨heads, sides⟩
    have rules := Rule.eq_of_sides heads sides
    have stops : a.span.stop = b.span.stop := by
      rw [charted.tidy.located e a member, charted.tidy.located e b member']
    have dots : a.dot = b.dot := by
      rw [Arc.isComplete_iff.mp builds.complete, Arc.isComplete_iff.mp builds'.complete, rules]
    have spans : a.span = b.span := by
      cases first : a.span
      cases second : b.span
      simp_all
    exact Arc.key_eq.mpr ⟨spans, rules, dots⟩

/-- Trees of one cell with the same shape come from arcs that are merged by
shape. -/
theorem merges_of_shape (charted : p.Charted chart) (numbered : chart.Numbered bound)
    (member : a ∈ chart.arcsIn e) (member' : b ∈ chart.arcsIn e) (built : a.built = some t)
    (built' : b.built = some u) (shapes : t.shape = u.shape) :
    Policy.shape.merges a b = true := by
  have span := ((charted.sound member).builds built).span_eq
  have span' := ((charted.sound member').builds built').span_eq
  have starts : a.span.start = b.span.start := by
    rw [← span, ← span', Tree.span_eq_of_shape shapes]
  have keys := (key_eq_iff_production charted member member' starts built built').mpr
    (Tree.production_eq_of_shape shapes)
  have equal := (Tree.same_iff_shape t u
    (numbered.agree_of_mem member member' built built')).mpr shapes
  simp [Policy.merges, keys, built, built', equal]

/-- A chart that follows the policy has first arcs only. -/
theorem Tidy.firsts_eq (tidy : chart.Tidy) (e : Nat) :
    chart.firsts chart.policy e = chart.arcsIn e := by
  have all := filter_eraseDupsBy (P := fun _ => true)
    ((tidy.distinct e).imp fun apart _ => apart)
  rwa [List.filter_eq_self.mpr fun _ _ => rfl, List.filter_eq_self.mpr fun _ _ => rfl] at all

end Chart

namespace Worklist

variable {p p' : Problem} {work work' next next' : Worklist} {m m' : Move} {coarse : Policy}

theorem Coherent.merges_iff_kind (coherent : work.Coherent p)
    (looks : coarse = .span ∨ coarse = .shape) {e : Nat} :
    ∀ a ∈ work.chart.arcsIn e, ∀ b ∈ work.chart.arcsIn e,
      (coarse.merges a b = true ↔ coarse.kind a = coarse.kind b) := by
  intro a member b member'
  apply Policy.merges_iff_kind looks (coherent.charted.sound member)
    (coherent.charted.sound member')
  intro t u built built'
  exact coherent.numbered.agree_of_mem member member' built built'

/-- Whether a kind is known can be seen from the first arcs. -/
theorem Coherent.knows_iff (coherent : work.Coherent p)
    (looks : coarse = .span ∨ coarse = .shape) :
    work.chart.Knows coarse m ↔
      ∃ e, ∃ b ∈ work.chart.firsts coarse e, coarse.kind b = coarse.kind (m.arc 0) := by
  constructor
  · rintro ⟨e, b, member, known⟩
    rcases exists_mem_eraseDupsBy (coherent.merges_iff_kind looks) member with ⟨c, first, kinds⟩
    exact ⟨e, c, first, kinds.trans known⟩
  · rintro ⟨e, b, first, known⟩
    exact ⟨e, b, mem_of_mem_eraseDupsBy first, known⟩

/-- A proposal adds its arc to the first arcs of its cell if the kind is new,
and changes no first arcs otherwise. -/
theorem Coherent.firsts_propose (coherent : work.Coherent p)
    (grounded : m.Grounded p work.chart) (refines : work.chart.policy.Refines coarse)
    (run : work.propose m = .ok next) :
    (work.chart.Knows coarse m →
      ∀ i, next.chart.firsts coarse i = work.chart.firsts coarse i) ∧
    (¬ work.chart.Knows coarse m →
      ∀ i : Nat, next.chart.firsts coarse i = work.chart.firsts coarse i ++
        if (m.arc 0).span.stop = i then [m.arc work.serial] else []) := by
  have same : coarse.kind (m.arc work.serial) = coarse.kind (m.arc 0) :=
    Policy.kind_eq_of_shape coarse (m.arc_shape work.serial)
  have keys : (m.arc work.serial).key = (m.arc 0).key := congrArg Prod.fst same
  have stops : (m.arc 0).span.stop = (m.arc work.serial).span.stop :=
    congrArg (·.span.stop) keys.symm
  have after : next.Coherent p := by
    have sound := (grounded.deduced 0).sound
    rcases coherent.propose grounded (k := 0) (Int.le_trans sound.start_nonneg sound.start_le)
      with ⟨next', run', coherent', _⟩
    rw [run, Except.ok.injEq] at run'
    exact run' ▸ coherent'
  rcases coherent.propose_cases grounded with ⟨e, stop, inside, ⟨merged, run'⟩ | ⟨_, run'⟩⟩
  · -- An arc that the finer policy merges is of a known kind.
    rw [run, Except.ok.injEq] at run'
    subst run'
    rcases List.any_eq_true.mp merged with ⟨b, member, merged⟩
    have repeated := Policy.repeats_of_merges merged fun t u built built' =>
      coherent.numbered.agree grounded built member built'
    have known : work.chart.Knows coarse m :=
      ⟨e, b, member, (refines.kind_eq repeated).symm.trans same⟩
    exact ⟨fun _ _ => rfl, fun new => absurd known new⟩
  · rw [run, Except.ok.injEq] at run'
    subst run'
    have kinds := after.merges_iff_kind refines.looks (e := e)
    simp only [Chart.append_arcsIn_self inside] at kinds
    have erased := eraseDupsBy_concat_of_kinds kinds
    have other : ∀ i, i ≠ e → (work.chart.append e (m.arc work.serial)).firsts coarse i =
        work.chart.firsts coarse i := by
      intro i different
      rw [Chart.firsts, Chart.append_arcsIn_of_ne different, Chart.firsts]
    constructor
    · rintro ⟨e', b, member, known⟩ i
      by_cases here : i = e
      · subst here
        have cell : e' = i := Int.natCast_inj.mp <| by
          rw [← coherent.charted.tidy.located e' b member, ← stop, ← stops]
          exact congrArg (·.1.span.stop) known
        rw [Chart.firsts, Chart.append_arcsIn_self inside]
        exact erased.1 ⟨b, cell ▸ member, known.trans same.symm⟩
      · exact other i here
    · intro new i
      by_cases here : i = e
      · subst here
        rw [if_pos (stops.trans stop), Chart.firsts, Chart.append_arcsIn_self inside]
        apply erased.2
        rintro ⟨b, member, known⟩
        exact new ⟨i, b, member, known.trans same⟩
      · have elsewhere : (m.arc 0).span.stop ≠ i := by
          rw [stops, stop]
          exact fun equal => here (Int.natCast_inj.mp equal.symm)
        rw [if_neg elsewhere, List.append_nil]
        exact other i here

end Worklist

namespace Chart

variable {p p' : Problem} {work work' next next' : Worklist} {m m' : Move} {coarse : Policy}

theorem SameFirsts.knows (first : SameFirsts coarse work.chart work'.chart)
    (coherent : work.Coherent p) (coherent' : work'.Coherent p')
    (looks : coarse = .span ∨ coarse = .shape) (alike : (m.arc 0).shape = (m'.arc 0).shape)
    (knows : work.chart.Knows coarse m) : work'.chart.Knows coarse m' := by
  rcases (coherent.knows_iff looks).mp knows with ⟨e, b, member, known⟩
  have found := List.mem_map_of_mem (f := Arc.shape) member
  rw [first e] at found
  rcases List.mem_map.mp found with ⟨b', member', shape⟩
  refine (coherent'.knows_iff looks).mpr ⟨e, b', member', ?_⟩
  rw [Policy.kind_eq_of_shape coarse shape, known, Policy.kind_eq_of_shape coarse alike]

/-- Proposals that are alike keep the first arcs alike. -/
theorem SameFirsts.propose (first : SameFirsts coarse work.chart work'.chart)
    (coherent : work.Coherent p) (coherent' : work'.Coherent p')
    (refines : work.chart.policy.Refines coarse) (refines' : work'.chart.policy.Refines coarse)
    (grounded : m.Grounded p work.chart) (grounded' : m'.Grounded p' work'.chart)
    (alike : (m.arc 0).shape = (m'.arc 0).shape) (run : work.propose m = .ok next)
    (run' : work'.propose m' = .ok next') : SameFirsts coarse next.chart next'.chart := by
  have effect := coherent.firsts_propose grounded refines run
  have effect' := coherent'.firsts_propose grounded' refines' run'
  intro i
  by_cases known : work.chart.Knows coarse m
  · have known' := first.knows coherent coherent' refines.looks alike known
    rw [effect.1 known, effect'.1 known']
    exact first i
  · have new' : ¬ work'.chart.Knows coarse m' := by
      intro known'
      have back : SameFirsts coarse work'.chart work.chart := fun e => (first e).symm
      exact known (back.knows coherent' coherent refines.looks alike.symm known')
    have stops : (m'.arc 0).span.stop = (m.arc 0).span.stop :=
      congrArg (·.span.stop) alike.symm
    rw [effect.2 known, effect'.2 new', List.map_append, List.map_append, first i, stops]
    split
    · rw [List.map_singleton, List.map_singleton, m.arc_shape, m'.arc_shape, alike]
    · rfl

theorem SameFirsts.proposeAll {moves moves' : List Move}
    (first : SameFirsts coarse work.chart work'.chart) (coherent : work.Coherent p)
    (coherent' : work'.Coherent p') (refines : work.chart.policy.Refines coarse)
    (refines' : work'.chart.policy.Refines coarse)
    (grounded : ∀ m ∈ moves, m.Grounded p work.chart)
    (grounded' : ∀ m ∈ moves', m.Grounded p' work'.chart)
    (alike : moves.map (fun m => (m.arc 0).shape) = moves'.map fun m => (m.arc 0).shape)
    (run : work.proposeAll moves = .ok next) (run' : work'.proposeAll moves' = .ok next') :
    SameFirsts coarse next.chart next'.chart := by
  induction moves generalizing work work' moves' with
  | nil =>
      rw [List.map_nil, eq_comm, List.map_eq_nil_iff] at alike
      subst alike
      rw [Worklist.proposeAll, Except.ok.injEq] at run run'
      subst run run'
      exact first
  | cons m moves ih =>
      rw [List.map_cons, eq_comm, List.map_eq_cons_iff] at alike
      rcases alike with ⟨m', rest', rfl, one, others⟩
      rcases coherent.proposeAll_cons grounded run with
        ⟨middle, proposed, rest, coherentNext, groundedNext, grows, _⟩
      rcases coherent'.proposeAll_cons grounded' run' with
        ⟨middle', proposed', rest', coherentNext', groundedNext', grows', _⟩
      have step := first.propose coherent coherent' refines refines'
        (grounded m (List.mem_cons_self ..)) (grounded' m' (List.mem_cons_self ..)) one.symm
        proposed proposed'
      exact ih step coherentNext coherentNext' (grows.policy_eq ▸ refines)
        (grows'.policy_eq ▸ refines') groundedNext groundedNext' others.symm rest rest'

theorem Knows.mono {chart chart' : Chart} {k : Nat} (knows : chart.Knows coarse m)
    (grows : chart.Grows k chart') : chart'.Knows coarse m := by
  rcases knows with ⟨e, b, member, known⟩
  exact ⟨e, b, grows.mem member, known⟩

/-- Proposals of known kinds leave the first arcs alone. -/
theorem firsts_proposeAll_of_known {moves : List Move} (coherent : work.Coherent p)
    (refines : work.chart.policy.Refines coarse)
    (grounded : ∀ m ∈ moves, m.Grounded p work.chart)
    (known : ∀ m ∈ moves, work.chart.Knows coarse m) (run : work.proposeAll moves = .ok next) :
    ∀ e, next.chart.firsts coarse e = work.chart.firsts coarse e := by
  induction moves generalizing work with
  | nil =>
      rw [Worklist.proposeAll, Except.ok.injEq] at run
      subst run
      intro e
      rfl
  | cons m moves ih =>
      rcases coherent.proposeAll_cons grounded run with
        ⟨middle, proposed, rest, coherentNext, groundedNext, grows, _⟩
      have step := (coherent.firsts_propose (grounded m (List.mem_cons_self ..)) refines
        proposed).1 (known m (List.mem_cons_self ..))
      intro e
      rw [← step e]
      refine ih coherentNext (grows.policy_eq ▸ refines) groundedNext ?_ rest e
      intro m' member
      exact (known m' (List.mem_cons_of_mem m member)).mono grows

end Chart
end ParseForest
