import ParseForest.Proofs.Arc.Deduction
import ParseForest.Proofs.Chart.Insertion
import ParseForest.Proofs.Tree.Shape

namespace ParseForest

/-!
# What a proposal does

A move proposes an arc.  If everything it is made of can be found in the chart,
the proposal cannot fail, and afterwards the chart has an arc that stands for
the proposed one: with the same key, and unless the policy looks at keys only,
with a tree of the same shape if it has a tree at all.

Serial numbers are what makes the last point true.  Every number in use belongs
to one tree, and a proposal takes numbers that are not in use, so comparing by
number never confuses two shapes.
-/

/-! ## Charts that grow -/

/-- The second chart comes from the first by putting arcs at the ends of cells,
and not into cells before `k`. -/
structure Chart.Grows (k : Nat) (chart chart' : Chart) : Prop where
  length_eq : chart'.length = chart.length
  policy_eq : chart'.policy = chart.policy
  extended : ∀ e, chart.arcsIn e <+: chart'.arcsIn e
  kept : ∀ e < k, chart'.arcsIn e = chart.arcsIn e

namespace Chart

variable {chart chart' chart'' : Chart} {k : Nat}

theorem Grows.refl (k : Nat) (chart : Chart) : chart.Grows k chart :=
  ⟨rfl, rfl, fun _ => List.prefix_refl _, fun _ _ => rfl⟩

theorem Grows.trans (first : chart.Grows k chart') (second : chart'.Grows k chart'') :
    chart.Grows k chart'' where
  length_eq := second.length_eq.trans first.length_eq
  policy_eq := second.policy_eq.trans first.policy_eq
  extended e := (first.extended e).trans (second.extended e)
  kept e before := (second.kept e before).trans (first.kept e before)

theorem Grows.mono {i : Nat} (grows : chart.Grows k chart') (le : i ≤ k) :
    chart.Grows i chart' where
  length_eq := grows.length_eq
  policy_eq := grows.policy_eq
  extended := grows.extended
  kept e before := grows.kept e (Nat.lt_of_lt_of_le before le)

theorem Grows.mem {a : Arc} {e : Nat} (grows : chart.Grows k chart')
    (member : a ∈ chart.arcsIn e) : a ∈ chart'.arcsIn e :=
  (grows.extended e).subset member

theorem grows_append {a : Arc} {e : Nat} (inside : e < chart.length) (behind : k ≤ e) :
    chart.Grows k (chart.append e a) where
  length_eq := append_length
  policy_eq := append_policy
  extended i := by
    by_cases same : i = e
    · subst same
      rw [append_arcsIn_self inside]
      exact List.prefix_append _ _
    · exact ⟨[], by rw [List.append_nil, append_arcsIn_of_ne same]⟩
  kept i before := append_arcsIn_of_ne (by omega)

end Chart

/-! ## The trees in a chart -/

/-- The tree occurs among those that the arc has matched or built. -/
def Arc.Contains (a : Arc) (x : Tree) : Prop :=
  (∃ t ∈ a.matched, x.Within t) ∨ ∃ t, a.built = some t ∧ x.Within t

namespace Arc

variable {x : Tree}

theorem contains_predict {r : Rule} {pos : Int} : ¬ (predict r pos).Contains x := by
  rintro (⟨t, member, _⟩ | ⟨t, built, _⟩)
  · cases member
  · cases built

/-- A scan has two trees, both of them new. -/
theorem contains_scan {serial : Nat} {r : Rule} {span : Span} {token : Text}
    (contains : (scan serial r span token).Contains x) :
    x = .leaf serial span token ∨
      x = .node (serial + 1) span r.head [.leaf serial span token] := by
  rcases contains with ⟨t, inMatched, part⟩ | ⟨t, built, part⟩
  · rw [List.mem_singleton.mp inMatched, Tree.within_leaf] at part
    exact Or.inl part
  · cases built
    rcases Tree.within_node.mp part with root | ⟨c, inChildren, inner⟩
    · exact Or.inr root
    · rw [List.mem_singleton.mp inChildren, Tree.within_leaf] at inner
      exact Or.inl inner

/-- An extended arc has the trees of the old one, those of the child, and perhaps the
one that it has built. -/
theorem contains_extend {serial : Nat} {a : Arc} {child : Tree}
    (contains : (extend serial a child).Contains x) :
    a.Contains x ∨ x.Within child ∨ (extend serial a child).built = some x := by
  have parts : ∀ c ∈ a.matched ++ [child], x.Within c → a.Contains x ∨ x.Within child := by
    intro c inMatched part
    rcases List.mem_append.mp inMatched with old | new
    · exact Or.inl (Or.inl ⟨c, old, part⟩)
    · exact Or.inr (List.mem_singleton.mp new ▸ part)
  rcases contains with ⟨c, inMatched, part⟩ | ⟨t, built, part⟩
  · exact (parts c inMatched part).imp_right Or.inl
  · have node := built
    rw [extend_built] at node
    split at node
    · cases node
      rcases Tree.within_node.mp part with root | ⟨c, inChildren, inner⟩
      · exact Or.inr (Or.inr (root ▸ built))
      · exact (parts c inChildren inner).imp_right Or.inl
    · cases node

end Arc

/-- The tree occurs in some arc of the chart. -/
def Chart.Contains (chart : Chart) (x : Tree) : Prop :=
  ∃ e, ∃ a ∈ chart.arcsIn e, a.Contains x

/-- Every number in the chart is below the bound and belongs to one tree. -/
structure Chart.Numbered (chart : Chart) (bound : Nat) : Prop where
  below : ∀ x, chart.Contains x → x.serial < bound
  unique : ∀ x y, chart.Contains x → chart.Contains y → x.serial = y.serial → x = y

/-- What the arc was made of is in the chart. -/
inductive Chart.Traces (chart : Chart) : Arc → Prop
  | predict (r : Rule) (pos : Int) : Traces chart (.predict r pos)
  | scan (serial : Nat) (r : Rule) (span : Span) (token : Text)
      (lexical : r.rhs = [.terminal token]) : Traces chart (.scan serial r span token)
  | extend {b c : Arc} {t : Tree} {i e : Nat} (serial : Nat) (waiting : b ∈ chart.arcsIn i)
      (finished : c ∈ chart.arcsIn e) (built : c.built = some t) :
      Traces chart (.extend serial b t)

theorem Chart.Traces.mono {chart chart' : Chart} {k : Nat} {a : Arc} (traced : chart.Traces a)
    (grows : chart.Grows k chart') : chart'.Traces a := by
  cases traced with
  | predict r pos => exact .predict r pos
  | scan serial r span token lexical => exact .scan serial r span token lexical
  | extend serial waiting finished built =>
      exact .extend serial (grows.mem waiting) (grows.mem finished) built

namespace Move

/-- The trees that a move makes anew. -/
def made (serial : Nat) : Move → List Tree
  | .predict _ _ => []
  | .scan r pos token =>
    [.leaf serial ⟨pos, pos + 1⟩ token,
      .node (serial + 1) ⟨pos, pos + 1⟩ r.head [.leaf serial ⟨pos, pos + 1⟩ token]]
  | .extend b t => (b.extend serial t).built.toList

/-- The arc of the move can be deduced, and what the move is made of is in the
chart. -/
structure Grounded (p : Problem) (chart : Chart) (m : Move) : Prop where
  deduced : ∀ serial, p.Deduced (m.arc serial)
  traced : ∀ serial, chart.Traces (m.arc serial)
  contained : ∀ serial x, (m.arc serial).Contains x → chart.Contains x ∨ x ∈ m.made serial

theorem Grounded.mono {p : Problem} {chart chart' : Chart} {k : Nat} {m : Move}
    (grounded : m.Grounded p chart) (grows : chart.Grows k chart') : m.Grounded p chart' where
  deduced := grounded.deduced
  traced serial := (grounded.traced serial).mono grows
  contained serial x contains := by
    rcases grounded.contained serial x contains with ⟨e, a, member, old⟩ | new
    · exact Or.inl ⟨e, a, grows.mem member, old⟩
    · exact Or.inr new

variable {m : Move} {serial : Nat} {x y : Tree}

theorem serial_of_made (new : x ∈ m.made serial) : serial ≤ x.serial ∧ x.serial < serial + 2 := by
  cases m with
  | predict r pos => cases new
  | scan r pos token =>
      simp only [made, List.mem_cons, List.not_mem_nil, or_false] at new
      rcases new with rfl | rfl <;> simp
  | extend b t =>
      rw [made, Arc.extend_built] at new
      split at new
      · rw [Option.toList_some, List.mem_singleton] at new
        subst new
        simp
      · cases new

theorem made_unique (first : x ∈ m.made serial) (second : y ∈ m.made serial)
    (equal : x.serial = y.serial) : x = y := by
  cases m with
  | predict r pos => cases first
  | scan r pos token =>
      simp only [made, List.mem_cons, List.not_mem_nil, or_false] at first second
      rcases first with rfl | rfl <;> rcases second with rfl | rfl
      · rfl
      · simp at equal
      · simp at equal
      · rfl
  | extend b t =>
      rw [made, Option.mem_toList] at first second
      exact Option.some.inj (first.symm.trans second)

end Move

namespace Chart

variable {chart : Chart} {bound : Nat} {p : Problem} {m : Move}

theorem Numbered.mono {bound' : Nat} (numbered : chart.Numbered bound) (le : bound ≤ bound') :
    chart.Numbered bound' where
  below x contains := Nat.lt_of_lt_of_le (numbered.below x contains) le
  unique := numbered.unique

/-- Numbers stay unique when a new arc enters. -/
theorem Numbered.append (numbered : chart.Numbered bound) (grounded : m.Grounded p chart) {e : Nat}
    (inside : e < chart.length) : (chart.append e (m.arc bound)).Numbered (bound + 2) := by
  have source : ∀ x, (chart.append e (m.arc bound)).Contains x →
      chart.Contains x ∨ x ∈ m.made bound := by
    rintro x ⟨i, a, member, contains⟩
    rcases (mem_arcsIn_append inside).mp member with old | ⟨_, rfl⟩
    · exact Or.inl ⟨i, a, old, contains⟩
    · exact grounded.contained bound x contains
  have trees : Tree.Numbered chart.Contains bound := ⟨numbered.below, numbered.unique⟩
  have grown := trees.grow (m.made bound) source (Nat.le_add_right bound 2)
    (fun x new => Move.serial_of_made new) fun x first y second => Move.made_unique first second
  exact ⟨grown.below, grown.unique⟩

/-- A tree about to be made agrees with every tree of the chart. -/
theorem Numbered.agree (numbered : chart.Numbered bound) (grounded : m.Grounded p chart)
    {t u : Tree} (built : (m.arc bound).built = some t) {e : Nat} {b : Arc}
    (member : b ∈ chart.arcsIn e) (built' : b.built = some u) : t.Agree u := by
  intro v w part part' equal
  have old : chart.Contains w := ⟨e, b, member, Or.inr ⟨u, built', part'⟩⟩
  rcases grounded.contained bound v (Or.inr ⟨t, built, part⟩) with known | new
  · rw [numbered.unique v w known old equal]
  · have low := numbered.below w old
    have high := (Move.serial_of_made new).1
    omega

end Chart

/-! ## Arcs that stand for one another -/

/-- The second arc stands for the first: it has the same key, and the same shape
of tree unless the policy does not look at trees. -/
def Arc.Repeats (policy : Policy) (a b : Arc) : Prop :=
  a.key = b.key ∧ (policy ≠ .span → a.built.map Tree.shape = b.built.map Tree.shape)

theorem Arc.Repeats.trans {policy : Policy} {a b c : Arc} (first : a.Repeats policy b)
    (second : b.Repeats policy c) : a.Repeats policy c :=
  ⟨first.1.trans second.1, fun finer => (first.2 finer).trans (second.2 finer)⟩

/-- The numbers that a move takes do not matter for what its arc stands for. -/
theorem Move.arc_repeats (policy : Policy) (m : Move) (serial serial' : Nat) :
    (m.arc serial).Repeats policy (m.arc serial') := by
  cases m with
  | predict r pos => exact ⟨rfl, fun _ => rfl⟩
  | scan r pos token => exact ⟨rfl, fun _ => by simp [arc, Arc.scan, Tree.shape]⟩
  | extend b t =>
      refine ⟨rfl, fun _ => ?_⟩
      have same : (b.extend serial t).isComplete = (b.extend serial' t).isComplete := rfl
      rw [arc, arc, Arc.extend_built, Arc.extend_built, same]
      split
      · simp only [Option.map_some, Tree.shape_node]
      · rfl

/-- Merged arcs stand for one another where comparing trees is reliable. -/
theorem Policy.repeats_of_merges {policy : Policy} {a b : Arc}
    (merged : policy.merges a b = true)
    (agree : ∀ t u, a.built = some t → b.built = some u → t.Agree u) : a.Repeats policy b := by
  refine ⟨key_eq_of_merges merged, fun finer => ?_⟩
  have trees := (Bool.and_eq_true_iff.mp merged).2
  cases first : a.built with
  | none =>
      cases second : b.built with
      | none => rfl
      | some u => simp [first, second] at trees
  | some t =>
      cases second : b.built with
      | none => simp [first, second] at trees
      | some u =>
          have agree := agree t u first second
          have numbers : t.serial = u.serial → t.shape = u.shape :=
            agree t u (.self t) (.self u)
          simp only [first, second] at trees
          rw [Option.map_some, Option.map_some, Option.some.injEq]
          cases policy with
          | span => exact absurd rfl finer
          | shape => exact (Tree.same_iff_shape t u agree).mp trees
          | identity => exact numbers (of_decide_eq_true trees)
          | unnamed code => exact numbers (of_decide_eq_true trees)

/-- The coarsest policy takes sound arcs for the same if their keys agree. -/
theorem Arc.Sound.span_merges_iff {p : Problem} {a b : Arc} (sound : a.Sound p)
    (sound' : b.Sound p) : Policy.span.merges a b = true ↔ a.key = b.key := by
  constructor
  · exact Policy.key_eq_of_merges
  · intro keys
    have complete := Arc.isComplete_eq_of_key keys
    rcases sound.built_eq with ⟨waits, nothing⟩ | ⟨full, _, tree⟩
    · have nothing' := sound'.built_eq_none (complete ▸ waits)
      simp [Policy.merges, keys, nothing, nothing']
    · rcases sound'.exists_tree (complete ▸ full) with ⟨u, tree'⟩
      simp [Policy.merges, keys, tree, tree']

/-- The chart has an arc that stands for the one the move proposes. -/
def Chart.Settles (chart : Chart) (m : Move) : Prop :=
  ∃ e, ∃ b ∈ chart.arcsIn e, (m.arc 0).Repeats chart.policy b

theorem Chart.Settles.mono {chart chart' : Chart} {k : Nat} {m : Move}
    (settled : chart.Settles m) (grows : chart.Grows k chart') : chart'.Settles m := by
  rcases settled with ⟨e, b, member, repeated⟩
  rw [← grows.policy_eq] at repeated
  exact ⟨e, b, grows.mem member, repeated⟩

/-! ## Coherent machines -/

/-- The chart of the sentence is tidy, holds deduced arcs only, and holds what
these were made of. -/
structure Problem.Charted (p : Problem) (chart : Chart) : Prop where
  tidy : chart.Tidy
  length_eq : chart.length = p.tokens.length + 1
  deduced : ∀ e, ∀ a ∈ chart.arcsIn e, p.Deduced a
  traced : ∀ e, ∀ a ∈ chart.arcsIn e, chart.Traces a

theorem Problem.Charted.sound {p : Problem} {chart : Chart} (charted : p.Charted chart) {a : Arc}
    {e : Nat} (member : a ∈ chart.arcsIn e) : a.Sound p :=
  (charted.deduced e a member).sound

/-- An arc that waits has not the key of an earlier one. -/
theorem Problem.Charted.waiting_distinct {p : Problem} {chart : Chart} (charted : p.Charted chart)
    (e : Nat) : (chart.arcsIn e).Pairwise fun a b => b.isComplete = false → b.key ≠ a.key := by
  refine (List.Pairwise.and_mem.mp (charted.tidy.distinct e)).imp ?_
  rintro a b ⟨member, member', apart⟩ waits keys
  have unbuilt := (charted.sound member').built_eq_none waits
  have unbuilt' := (charted.sound member).built_eq_none
    ((Arc.isComplete_eq_of_key keys).symm.trans waits)
  rw [Policy.merges_of_unbuilt keys unbuilt unbuilt'] at apart
  cases apart

/-- Arcs over one span stand in one cell. -/
theorem Problem.Charted.cell_eq {p : Problem} {chart : Chart} (charted : p.Charted chart)
    {a b : Arc} {e e' : Nat} (inCell : a ∈ chart.arcsIn e) (inCell' : b ∈ chart.arcsIn e')
    (spans : a.span = b.span) : e = e' := by
  apply Int.natCast_inj.mp
  rw [← charted.tidy.located e a inCell, ← charted.tidy.located e' b inCell', spans]

/-- Of the arcs with one key at most one is not complete. -/
theorem Problem.Charted.eq_of_key {p : Problem} {chart : Chart} (charted : p.Charted chart)
    {a b : Arc} {e e' : Nat} (inCell : a ∈ chart.arcsIn e) (inCell' : b ∈ chart.arcsIn e')
    (keys : a.key = b.key) (waits : a.isComplete = false) (waits' : b.isComplete = false) :
    a = b := by
  have same := charted.cell_eq inCell inCell' (congrArg ArcKey.span keys)
  subst same
  have distinct := List.pairwise_iff_getElem.mp (charted.waiting_distinct e)
  rcases List.mem_iff_getElem.mp inCell with ⟨i, inside, rfl⟩
  rcases List.mem_iff_getElem.mp inCell' with ⟨j, inside', rfl⟩
  rcases Nat.lt_trichotomy i j with before | same | behind
  · exact absurd keys.symm (distinct i j inside inside' before waits')
  · subst same
    rfl
  · exact absurd keys (distinct j i inside' inside behind waits)

theorem Problem.Charted.append {p : Problem} {chart : Chart} {e : Nat} {a : Arc}
    (charted : p.Charted chart) (deduced : p.Deduced a) (traced : chart.Traces a)
    (inside : e < chart.length) (stop : a.span.stop = e)
    (new : (chart.arcsIn e).any (chart.policy.merges a) = false) :
    p.Charted (chart.append e a) where
  tidy := charted.tidy.append inside stop new
  length_eq := Chart.append_length.trans charted.length_eq
  deduced i b member := by
    rcases (Chart.mem_arcsIn_append inside).mp member with old | ⟨_, rfl⟩
    · exact charted.deduced i b old
    · exact deduced
  traced i b member := by
    refine Chart.Traces.mono ?_ (Chart.grows_append inside (Nat.zero_le e))
    rcases (Chart.mem_arcsIn_append inside).mp member with old | ⟨_, rfl⟩
    · exact charted.traced i b old
    · exact traced

namespace Worklist

/-- The chart is as it should be, and the numbers in it are used up. -/
structure Coherent (p : Problem) (work : Worklist) : Prop where
  charted : p.Charted work.chart
  numbered : work.chart.Numbered work.serial

variable {p : Problem} {work : Worklist} {m : Move}

/-- Where the cursor stands does not matter. -/
theorem Coherent.moved (coherent : work.Coherent p) (cell index : Nat) :
    Coherent p { work with cell := cell, index := index } :=
  ⟨coherent.charted, coherent.numbered⟩

/-- A grounded proposal is either merged with an arc of its cell, and then only
the numbers advance, or its arc goes to the end of the cell. -/
theorem Coherent.propose_cases (coherent : work.Coherent p)
    (grounded : m.Grounded p work.chart) :
    ∃ e, (m.arc work.serial).span.stop = (e : Nat) ∧ e < work.chart.length ∧
      (((work.chart.arcsIn e).any (work.chart.policy.merges (m.arc work.serial)) = true ∧
        work.propose m = .ok { work with serial := work.serial + 2 }) ∨
      ((work.chart.arcsIn e).any (work.chart.policy.merges (m.arc work.serial)) = false ∧
        work.propose m = .ok { work with
          chart := work.chart.append e (m.arc work.serial), serial := work.serial + 2 })) := by
  have sound := (grounded.deduced work.serial).sound
  have lower := Int.le_trans sound.start_nonneg sound.start_le
  have upper := sound.stop_le
  have stop : (m.arc work.serial).span.stop = ((m.arc work.serial).span.stop.toNat : Nat) :=
    (Int.toNat_of_nonneg lower).symm
  have inside : (m.arc work.serial).span.stop.toNat < work.chart.length := by
    rw [coherent.charted.length_eq]
    omega
  refine ⟨_, stop, inside, ?_⟩
  have inserted := coherent.charted.tidy.insert_eq inside stop
  cases merged : (work.chart.arcsIn (m.arc work.serial).span.stop.toNat).any
      (work.chart.policy.merges (m.arc work.serial)) with
  | true =>
      rw [merged, if_pos rfl] at inserted
      exact Or.inl ⟨rfl, by simp only [propose, inserted]⟩
  | false =>
      rw [merged, if_neg Bool.false_ne_true] at inserted
      exact Or.inr ⟨rfl, by simp only [propose, inserted]⟩

/-- A grounded proposal succeeds, keeps the machine coherent and is settled. -/
theorem Coherent.propose (coherent : work.Coherent p) (grounded : m.Grounded p work.chart)
    {k : Nat} (behind : (k : Int) ≤ (m.arc 0).span.stop) :
    ∃ work', work.propose m = .ok work' ∧ work'.Coherent p ∧ work.chart.Grows k work'.chart ∧
      work'.chart.Settles m ∧ work'.cell = work.cell ∧ work'.index = work.index := by
  have same := m.arc_repeats work.chart.policy 0 work.serial
  rcases coherent.propose_cases grounded with ⟨e, stop, inside, ⟨merged, run⟩ | ⟨new, run⟩⟩
  · rcases List.any_eq_true.mp merged with ⟨b, member, merged⟩
    have settled := same.trans (Policy.repeats_of_merges merged fun t u built built' =>
      coherent.numbered.agree grounded built member built')
    exact ⟨_, run, ⟨coherent.charted, coherent.numbered.mono (Nat.le_add_right _ 2)⟩,
      .refl k work.chart, ⟨e, b, member, settled⟩, rfl, rfl⟩
  · have spans : (m.arc 0).span = (m.arc work.serial).span := congrArg ArcKey.span same.1
    rw [spans, stop] at behind
    refine ⟨_, run, ⟨?_, coherent.numbered.append grounded inside⟩,
      Chart.grows_append inside (by omega), ⟨e, m.arc work.serial, ?_, same⟩, rfl, rfl⟩
    · exact coherent.charted.append (grounded.deduced work.serial) (grounded.traced work.serial)
        inside stop new
    · exact (Chart.mem_arcsIn_append inside).mpr (Or.inr ⟨rfl, rfl⟩)

/-- The first of several proposals leaves a machine for which the others are
still grounded. -/
theorem Coherent.proposeAll_cons (coherent : work.Coherent p) {moves : List Move}
    (grounded : ∀ m' ∈ m :: moves, m'.Grounded p work.chart) {last : Worklist}
    (run : work.proposeAll (m :: moves) = .ok last) :
    ∃ next, work.propose m = .ok next ∧ next.proposeAll moves = .ok last ∧ next.Coherent p ∧
      (∀ m' ∈ moves, m'.Grounded p next.chart) ∧ work.chart.Grows 0 next.chart ∧
      next.cell = work.cell ∧ next.index = work.index := by
  have first := grounded m (List.mem_cons_self ..)
  have sound := (first.deduced 0).sound
  rcases coherent.propose first (k := 0) (Int.le_trans sound.start_nonneg sound.start_le) with
    ⟨next, proposed, coherent', grows, _, cellEq, indexEq⟩
  refine ⟨next, proposed, ?_, coherent', ?_, grows, cellEq, indexEq⟩
  · rwa [Worklist.proposeAll, proposed] at run
  · intro m' member
    exact (grounded m' (List.mem_cons_of_mem m member)).mono grows

/-- What holds of one proposal holds of several in a row. -/
theorem Coherent.proposeAll (coherent : work.Coherent p) (moves : List Move)
    (grounded : ∀ m ∈ moves, m.Grounded p work.chart) {k : Nat}
    (behind : ∀ m ∈ moves, (k : Int) ≤ (m.arc 0).span.stop) :
    ∃ work', work.proposeAll moves = .ok work' ∧ work'.Coherent p ∧
      work.chart.Grows k work'.chart ∧ (∀ m ∈ moves, work'.chart.Settles m) ∧
      work'.cell = work.cell ∧ work'.index = work.index := by
  induction moves generalizing work with
  | nil =>
      refine ⟨work, rfl, coherent, .refl k work.chart, ?_, rfl, rfl⟩
      intro m member
      cases member
  | cons m moves ih =>
      rcases coherent.propose (grounded m (List.mem_cons_self ..)) (behind m (List.mem_cons_self
          ..)) with ⟨next, run, coherentNext, grows, settled, cellEq, indexEq⟩
      rcases ih coherentNext (fun m' member => (grounded m' (List.mem_cons_of_mem m member)).mono
          grows) (fun m' member => behind m' (List.mem_cons_of_mem m member)) with
          ⟨last, rest, coherentLast, growsRest, settledRest, cellRest, indexRest⟩
      refine ⟨last, ?_, coherentLast, grows.trans growsRest, ?_, cellRest.trans cellEq,
        indexRest.trans indexEq⟩
      · rw [Worklist.proposeAll, run]
        exact rest
      · intro m' member
        rcases List.mem_cons.mp member with first | later
        · rw [first]
          exact settled.mono growsRest
        · exact settledRest m' later

end Worklist
end ParseForest
