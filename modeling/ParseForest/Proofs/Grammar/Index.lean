import Mathlib.Data.List.FinRange
import Mathlib.Data.List.Induction
import ParseForest.Grammar

namespace ParseForest

/-!
# The head index of a grammar

A grammar finds the rules for a head through its index.  The index is built by
adding the places of the list one after the other, and looking a head up in it
leads to the same rules in the same order as searching the list from its
beginning.  The heads in it are those of the rules, each at its first appearance,
so the rules head by head are all the rules, if in another order.
-/

section Lists

variable {α β : Type} [DecidableEq β]

/-- Without repetitions, the entries of a list stand in the order of their first
appearance. -/
theorem eraseDups_pairwise_idxOf (entries : List β) :
    entries.eraseDups.Pairwise fun x y => entries.idxOf x < entries.idxOf y := by
  induction entries using List.reverseRecOn with
  | nil => exact List.Pairwise.nil
  | append_singleton entries x ih =>
      have kept : ∀ y ∈ entries.eraseDups, (entries ++ [x]).idxOf y = entries.idxOf y :=
        fun y member => List.idxOf_append_of_mem (List.mem_eraseDups.mp member)
      rw [List.eraseDups_append, List.pairwise_append]
      refine ⟨(List.Pairwise.and_mem.mp ih).imp ?_, ?_, ?_⟩
      · rintro y z ⟨member, member', before⟩
        rwa [kept y member, kept z member']
      · by_cases old : x ∈ entries <;> simp [List.removeAll, old, List.eraseDups_cons]
      · intro y member z last
        have new : z = x ∧ z ∉ entries := by
          simpa [List.removeAll] using List.mem_eraseDups.mp last
        rcases new with ⟨rfl, absent⟩
        rw [kept y member, List.idxOf_append_of_notMem absent, List.idxOf_cons_self, Nat.add_zero]
        exact List.idxOf_lt_length_of_mem (List.mem_eraseDups.mp member)

/-- Collecting the entries of a list key by key loses none and repeats none. -/
theorem flatMap_filter_perm (keyOf : α → β) {keys : List β} (distinct : keys.Nodup)
    {entries : List α} (covered : ∀ x ∈ entries, keyOf x ∈ keys) :
    (keys.flatMap fun k => entries.filter (keyOf · = k)).Perm entries := by
  induction keys generalizing entries with
  | nil =>
      have empty : entries = [] := by
        apply List.eq_nil_iff_forall_not_mem.mpr
        intro x member
        cases covered x member
      rw [empty]
      exact List.Perm.refl _
  | cons k keys ih =>
      rcases List.nodup_cons.mp distinct with ⟨absent, distinct⟩
      let others := entries.filter fun x => !decide (keyOf x = k)
      -- The other keys are those of the entries that the first one leaves behind.
      have same : keys.flatMap (fun k' => entries.filter (keyOf · = k')) =
          keys.flatMap fun k' => others.filter (keyOf · = k') := by
        rw [List.flatMap_def, List.flatMap_def]
        congr 1
        apply List.map_congr_left
        intro k' member
        have different : k' ≠ k := fun equal => absent (equal ▸ member)
        rw [List.filter_filter]
        apply List.filter_congr
        intro x _
        by_cases here : keyOf x = k'
        · simp [here, different]
        · simp [here]
      have rest : (keys.flatMap fun k' => others.filter (keyOf · = k')).Perm others := by
        apply ih distinct
        intro x member
        rcases List.mem_filter.mp member with ⟨inside, different⟩
        rcases List.mem_cons.mp (covered x inside) with equal | found
        · simp [equal] at different
        · exact found
      rw [List.flatMap_cons, same]
      exact (rest.append_left _).trans (List.filter_append_perm _ entries)

end Lists

namespace HeadIndex

variable {rules : List Rule}

theorem getD_add (index : HeadIndex rules) (place : Fin rules.length) (head : Symbol) :
    (index.add place).byHead.getD head [] =
      index.byHead.getD head [] ++ [place].filter fun i => (rules.get i).head = head := by
  by_cases same : (rules.get place).head = head
  · subst same
    simp [add, Std.HashMap.getD_eq_getD_getElem?]
  · rw [add, Std.HashMap.getD_alter, beq_eq_false_iff_ne.mpr same]
    simp only [List.filter_cons, same, decide_false, List.filter_nil, List.append_nil,
      Bool.false_eq_true, if_false]

theorem getD_foldl_add (places : List (Fin rules.length)) (index : HeadIndex rules)
    (head : Symbol) :
    (places.foldl add index).byHead.getD head [] =
      index.byHead.getD head [] ++ places.filter fun i => (rules.get i).head = head := by
  induction places generalizing index with
  | nil => simp
  | cons place places ih =>
      rw [List.foldl_cons, ih, getD_add, List.append_assoc, ← List.filter_append,
        List.singleton_append]

theorem contains_foldl_add (places : List (Fin rules.length)) (head : Symbol) :
    (places.foldl add empty).byHead.contains head = true ↔
      ∃ i ∈ places, (rules.get i).head = head := by
  induction places using List.reverseRecOn with
  | nil => simp [empty]
  | append_singleton places place ih =>
      rw [List.foldl_append, List.foldl_cons, List.foldl_nil]
      by_cases same : (rules.get place).head = head
      · subst same
        simp [add]
      · have known : ((places.foldl add empty).add place).byHead.contains head =
            (places.foldl add empty).byHead.contains head := by
          rw [add, Std.HashMap.contains_alter, beq_eq_false_iff_ne.mpr same]
          rfl
        rw [known, ih]
        constructor
        · rintro ⟨i, member, found⟩
          exact ⟨i, List.mem_append_left _ member, found⟩
        · rintro ⟨i, member, found⟩
          rcases List.mem_append.mp member with old | last
          · exact ⟨i, old, found⟩
          · rw [List.mem_singleton.mp last] at found
            exact absurd found same

theorem heads_foldl_add (places : List (Fin rules.length)) :
    (places.foldl add empty).heads =
      (places.map fun i => (rules.get i).head).eraseDups := by
  induction places using List.reverseRecOn with
  | nil => rfl
  | append_singleton places place ih =>
      have known := contains_foldl_add places (rules.get place).head
      rw [← List.mem_map] at known
      rw [List.foldl_append, List.foldl_cons, List.foldl_nil, List.map_append,
        List.eraseDups_append, ← ih, List.map_singleton, add]
      generalize (places.map fun i => (rules.get i).head) = heads at known
      generalize (rules.get place).head = head at known
      by_cases old : head ∈ heads
      · simp [known.mpr old, List.removeAll, old]
      · simp [Bool.eq_false_iff.mpr (mt known.mp old), List.removeAll, old, List.eraseDups_cons]

/-- Going through the places of a list is going through the list. -/
theorem map_head_finRange (rules : List Rule) :
    ((List.finRange rules.length).map fun i => (rules.get i).head) = rules.map Rule.head := by
  conv => rhs; rw [← List.map_get_finRange rules]
  rw [List.map_map]
  rfl

theorem contains_ofRules (rules : List Rule) (head : Symbol) :
    (ofRules rules).byHead.contains head = true ↔ ∃ r ∈ rules, r.head = head := by
  rw [ofRules, contains_foldl_add, ← List.mem_map, map_head_finRange, List.mem_map]

theorem heads_ofRules (rules : List Rule) :
    (ofRules rules).heads = (rules.map Rule.head).eraseDups := by
  rw [ofRules, heads_foldl_add, map_head_finRange]

end HeadIndex

namespace Grammar

variable (g : Grammar) (head : Symbol)

/-- The places for a head are those at which a search through the list stops. -/
theorem placesOf_eq_filter :
    g.placesOf head =
      (List.finRange g.rules.length).filter fun i => (g.rules.get i).head = head := by
  rw [placesOf, g.index_eq, HeadIndex.ofRules, HeadIndex.getD_foldl_add]
  simp [HeadIndex.empty]

/-- The rules for a head are those that a search through the whole list finds. -/
theorem rulesFor_eq_filter : g.rulesFor head = g.rules.filter (·.head = head) := by
  conv => rhs; rw [← List.map_get_finRange g.rules, List.filter_map]
  rw [rulesFor, placesOf_eq_filter]
  rfl

/-- Going through the rules for a head is going through what is found for it. -/
theorem each_eq_foldl {σ : Type} (visit : σ → Rule → σ) (state : σ) :
    g.each head visit state = (g.rulesFor head).foldl visit state := by
  rw [each, rulesFor, List.foldl_map]

variable {g head}

theorem mem_rulesFor {r : Rule} : r ∈ g.rulesFor head ↔ r ∈ g.rules ∧ r.head = head := by
  simp [rulesFor_eq_filter]

theorem has_iff : g.has head = true ↔ ∃ r ∈ g.rules, r.head = head := by
  rw [has, g.index_eq]
  exact HeadIndex.contains_ofRules g.rules head

/-- The heads are those of the rules, each at its first appearance. -/
theorem heads_eq_eraseDups (g : Grammar) : g.heads = (g.rules.map Rule.head).eraseDups := by
  rw [heads, g.index_eq]
  exact HeadIndex.heads_ofRules g.rules

theorem mem_heads : head ∈ g.heads ↔ ∃ r ∈ g.rules, r.head = head := by
  rw [heads_eq_eraseDups, List.mem_eraseDups, List.mem_map]

/-- The heads stand in the order in which a search meets their first rules. -/
theorem heads_pairwise (g : Grammar) :
    g.heads.Pairwise fun h h' =>
      g.rules.findIdx (·.head = h) < g.rules.findIdx (·.head = h') := by
  have first : ∀ h, (g.rules.map Rule.head).idxOf h = g.rules.findIdx (·.head = h) := by
    intro h
    rw [List.idxOf, List.findIdx_map]
    rfl
  rw [heads_eq_eraseDups]
  refine (eraseDups_pairwise_idxOf (g.rules.map Rule.head)).imp ?_
  intro h h' before
  rwa [first, first] at before

theorem heads_nodup (g : Grammar) : g.heads.Nodup := by
  refine g.heads_pairwise.imp ?_
  rintro h h' before rfl
  exact Nat.lt_irrefl _ before

/-- Every lookup in the grammar gives what a search through the list gives. -/
structure Indexes (g : Grammar) (rules : List Rule) : Prop where
  rules_eq : g.rules = rules
  rulesFor_eq : ∀ head, g.rulesFor head = rules.filter (·.head = head)
  /-- A visitor of the rules for a head meets them in this order too. -/
  each_eq : ∀ head {σ : Type} (visit : σ → Rule → σ) (state : σ),
    g.each head visit state = (rules.filter (·.head = head)).foldl visit state
  has_iff : ∀ head, g.has head = true ↔ rules.filter (·.head = head) ≠ []
  heads_nodup : g.heads.Nodup
  mem_heads : ∀ head, head ∈ g.heads ↔ ∃ r ∈ rules, r.head = head
  /-- Heads stand in the order of their first rules. -/
  heads_in_order : g.heads.Pairwise fun h h' =>
    rules.findIdx (·.head = h) < rules.findIdx (·.head = h')
  /-- Head by head, the rules are those of the list with their repetitions. -/
  rules_by_head : (g.heads.flatMap g.rulesFor).Perm rules

/-- The index of a grammar agrees with a search through the rules that it was built
from, whatever heads they have and however these are mixed and repeated. -/
theorem ofRules_indexes (rules : List Rule) : (ofRules rules).Indexes rules where
  rules_eq := rfl
  rulesFor_eq := rulesFor_eq_filter _
  each_eq head σ visit state := by
    rw [each_eq_foldl, rulesFor_eq_filter]
    rfl
  has_iff head := by
    rw [has_iff, Ne, List.filter_eq_nil_iff]
    simp [ofRules]
  heads_nodup := (ofRules rules).heads_nodup
  mem_heads _ := mem_heads
  heads_in_order := (ofRules rules).heads_pairwise
  rules_by_head := by
    have searched : (ofRules rules).rulesFor = fun head => rules.filter (·.head = head) :=
      funext (rulesFor_eq_filter _)
    rw [searched]
    apply flatMap_filter_perm Rule.head (ofRules rules).heads_nodup
    intro r member
    exact mem_heads.mpr ⟨r, member, rfl⟩

end Grammar
end ParseForest
