import Mathlib.Data.List.Basic
import ParseForest.Grammar.English
import ParseForest.Proofs.Worklist.Proposal

namespace ParseForest

/-!
# When arcs are merged

A policy looks at the key of an arc and, if the arc has built a tree, at one trait of
the tree: that it is there, its shape, or its number.  Arcs are merged exactly if the
policy sees the same in both, so merging is an equivalence.  A number determines the
shape, and both determine that there is a tree, so what a finer policy merges is
merged by a coarser one.

This needs numbers that belong to one tree, since equal numbers end a comparison of
trees before it has begun.  It does not need arcs that make sense.  Whoever has arcs
can put any tree into any of them, beyond the end of a rule too, and can tag a token
with a rule that is not lexical.  To have built a tree and to be complete are then
different things, and arcs with one key need not agree in the former.
-/

/-! ## What a policy sees -/

/-- What can be seen of a tree. -/
inductive Trait where
  /-- That it is there. -/
  | presence
  /-- Its labels and spans all the way down. -/
  | shape (t : Tree)
  /-- Which tree it is. -/
  | number (serial : Nat)

namespace Policy

/-- What the policy sees of a tree. -/
def trait : Policy → Tree → Trait
  | .span, _ => .presence
  | .shape, t => .shape t.shape
  | .identity, t => .number t.serial
  | .unnamed _, t => .number t.serial

variable {policy : Policy} {a b : Arc}

/-- Every policy but two sees which tree it is. -/
theorem trait_of_finer (first : policy ≠ .span) (second : policy ≠ .shape) (t : Tree) :
    policy.trait t = .number t.serial := by
  cases policy with
  | span => exact absurd rfl first
  | shape => exact absurd rfl second
  | identity => rfl
  | unnamed code => rfl

/-- Where comparing trees is reliable, arcs are merged if the policy sees the same in
both. -/
theorem merges_iff_trait (agree : ∀ t u, a.built = some t → b.built = some u → t.Agree u) :
    policy.merges a b = true ↔
      a.key = b.key ∧ a.built.map policy.trait = b.built.map policy.trait := by
  rw [merges, Bool.and_eq_true, decide_eq_true_eq]
  refine and_congr_right fun _ => ?_
  cases first : a.built with
  | none => cases b.built <;> simp
  | some t =>
      cases second : b.built with
      | none => simp
      | some u =>
          have shapes := Tree.same_iff_shape t u (agree t u first second)
          rw [Option.map_some, Option.map_some, Option.some.injEq]
          cases policy with
          | span => simp [trait]
          | shape => simpa [trait] using shapes
          | identity => simp [trait]
          | unnamed code => simp [trait]

end Policy

/-! ## Arcs made by hand -/

namespace Arc

/-- The arcs that someone has made so far, the latest one first.  The numbers below the
bound have been given out, and whoever makes an arc takes others.  An arc is
extended by a tree that some arc has built or by a part of one. -/
inductive Made : Nat → List Arc → Prop
  | nothing (bound : Nat) : Made bound []
  | predict {bound : Nat} {arcs : List Arc} (made : Made bound arcs) (r : Rule) (pos : Int) :
      Made bound (.predict r pos :: arcs)
  | scan {bound : Nat} {arcs : List Arc} (made : Made bound arcs) (serial : Nat)
      (fresh : bound ≤ serial) (r : Rule) (span : Span) (token : Text) :
      Made (serial + 2) (.scan serial r span token :: arcs)
  | extend {bound : Nat} {arcs : List Arc} (made : Made bound arcs) (serial : Nat)
      (fresh : bound ≤ serial) {a b : Arc} {t child : Tree} (extended : a ∈ arcs)
      (source : b ∈ arcs) (built : b.built = some t) (part : child.Within t) :
      Made (serial + 1) (.extend serial a child :: arcs)

/-- The tree occurs in one of the arcs. -/
def Known (arcs : List Arc) (x : Tree) : Prop :=
  ∃ a ∈ arcs, a.Contains x

variable {bound : Nat} {arcs : List Arc}

theorem known_cons {a : Arc} {x : Tree} : Known (a :: arcs) x ↔ a.Contains x ∨ Known arcs x := by
  simp [Known]

/-- However arcs are made, a number belongs to one tree. -/
theorem Made.numbered (made : Made bound arcs) : Tree.Numbered (Known arcs) bound := by
  induction made with
  | nothing bound =>
      constructor
      · rintro x ⟨a, member, _⟩
        cases member
      · rintro x y ⟨a, member, _⟩
        cases member
  | @predict bound arcs made r pos ih =>
      refine ih.grow [] ?_ (Nat.le_refl _) (by simp) (by simp)
      intro x known
      rcases known_cons.mp known with here | old
      · exact absurd here contains_predict
      · exact Or.inl old
  | @scan bound arcs made serial fresh r span token ih =>
      let leaf := Tree.leaf serial span token
      refine ih.grow [leaf, .node (serial + 1) span r.head [leaf]] ?_ (by omega) ?_ ?_
      · intro x known
        rcases known_cons.mp known with here | old
        · exact Or.inr (by simpa using contains_scan here)
        · exact Or.inl old
      · intro x new
        rcases List.mem_pair.mp new with rfl | rfl
        · exact ⟨fresh, Nat.lt_add_of_pos_right (by decide)⟩
        · exact ⟨Nat.le_succ_of_le fresh, Nat.lt_succ_self _⟩
      · intro x first y second equal
        rcases List.mem_pair.mp first with rfl | rfl <;>
          rcases List.mem_pair.mp second with rfl | rfl
        · rfl
        · exact absurd equal (Nat.ne_of_lt (Nat.lt_succ_self serial))
        · exact absurd equal (Nat.ne_of_gt (Nat.lt_succ_self serial))
        · rfl
  | @extend bound arcs made serial fresh a b t child extended source built part ih =>
      refine ih.grow (a.extend serial child).built.toList ?_ (by omega) ?_ ?_
      · intro x known
        rcases known_cons.mp known with here | old
        · rcases contains_extend here with old | inner | new
          · exact Or.inl ⟨a, extended, old⟩
          · exact Or.inl ⟨b, source, Or.inr ⟨t, built, inner.trans part⟩⟩
          · exact Or.inr (Option.mem_toList.mpr new)
        · exact Or.inl old
      · intro x new
        rw [Option.mem_toList, extend_built] at new
        split at new
        · cases new
          exact ⟨fresh, Nat.lt_succ_self serial⟩
        · cases new
      · intro x first y second _
        rw [Option.mem_toList] at first second
        exact Option.some.inj (first.symm.trans second)

theorem Made.agree_of_known (made : Made bound arcs) {t u : Tree} (first : Known arcs t)
    (second : Known arcs u) : t.Agree u := by
  have closed : ∀ {t : Tree}, Known arcs t → ∀ v : Tree, v.Within t → Known arcs v := by
    rintro t ⟨a, member, ⟨c, inMatched, inner⟩ | ⟨c, built, inner⟩⟩ v part
    · exact ⟨a, member, Or.inl ⟨c, inMatched, part.trans inner⟩⟩
    · exact ⟨a, member, Or.inr ⟨c, built, part.trans inner⟩⟩
  exact made.numbered.agree (closed first) (closed second)

theorem known_of_built {a : Arc} (member : a ∈ arcs) {t : Tree} (built : a.built = some t) :
    Known arcs t :=
  ⟨a, member, Or.inr ⟨t, built, .self t⟩⟩

/-- Among arcs made by hand a policy merges those in which it sees the same. -/
theorem Made.merges_iff (made : Made bound arcs) (policy : Policy) {a b : Arc} (first : a ∈ arcs)
    (second : b ∈ arcs) : policy.merges a b = true ↔
      a.key = b.key ∧ a.built.map policy.trait = b.built.map policy.trait :=
  Policy.merges_iff_trait fun _ _ built built' =>
    made.agree_of_known (known_of_built first built) (known_of_built second built')

/-- What one policy merges is merged by another one that sees no more. -/
theorem Made.merges_of_coarser (made : Made bound arcs) {policy coarse : Policy}
    (coarser : ∀ t u, Known arcs t → Known arcs u → policy.trait t = policy.trait u →
      coarse.trait t = coarse.trait u)
    {a b : Arc} (first : a ∈ arcs) (second : b ∈ arcs) (merged : policy.merges a b = true) :
    coarse.merges a b = true := by
  rcases (made.merges_iff policy first second).mp merged with ⟨keys, traits⟩
  refine (made.merges_iff coarse first second).mpr ⟨keys, ?_⟩
  cases built : a.built with
  | none =>
      rw [built, Option.map_none, eq_comm, Option.map_eq_none_iff] at traits
      rw [traits]
  | some t =>
      rw [built, Option.map_some, eq_comm, Option.map_eq_some_iff] at traits
      rcases traits with ⟨u, built', equal⟩
      rw [built', Option.map_some, Option.map_some, coarser t u (known_of_built first built)
        (known_of_built second built') equal.symm]

/-- Every policy sorts the arcs into classes, a finer policy into smaller ones, and
comparing their trees tells whether they have the same shape. -/
structure Classified (arcs : List Arc) : Prop where
  equivalence : ∀ policy : Policy,
    Equivalence fun a b : { a : Arc // a ∈ arcs } => policy.merges a b = true
  /-- What is merged by number is merged by shape. -/
  shape_of_number : ∀ policy : Policy, policy ≠ .span → policy ≠ .shape →
    ∀ a ∈ arcs, ∀ b ∈ arcs, policy.merges a b = true → Policy.shape.merges a b = true
  /-- What is merged by shape is merged by span. -/
  span_of_shape : ∀ a ∈ arcs, ∀ b ∈ arcs,
    Policy.shape.merges a b = true → Policy.span.merges a b = true
  /-- Trees are the same if they have the same labels and spans all the way down, and
  a missing tree is the same as a missing tree only. -/
  same_iff : ∀ t u : Option Tree, (∀ x ∈ t, Known arcs x) → (∀ y ∈ u, Known arcs y) →
    (Tree.sameIfAny t u = true ↔ t.map Tree.shape = u.map Tree.shape)

/-- However arcs are made, merging sorts them into classes. -/
theorem Made.classified (made : Made bound arcs) : Classified arcs where
  equivalence policy := by
    constructor
    · rintro ⟨a, member⟩
      exact (made.merges_iff policy member member).mpr ⟨rfl, rfl⟩
    · rintro ⟨a, first⟩ ⟨b, second⟩ merged
      rcases (made.merges_iff policy first second).mp merged with ⟨keys, traits⟩
      exact (made.merges_iff policy second first).mpr ⟨keys.symm, traits.symm⟩
    · rintro ⟨a, first⟩ ⟨b, second⟩ ⟨c, third⟩ merged merged'
      rcases (made.merges_iff policy first second).mp merged with ⟨keys, traits⟩
      rcases (made.merges_iff policy second third).mp merged' with ⟨keys', traits'⟩
      exact (made.merges_iff policy first third).mpr ⟨keys.trans keys', traits.trans traits'⟩
  shape_of_number policy notSpan notShape a first b second := by
    refine made.merges_of_coarser ?_ first second
    intro t u known known' equal
    rw [Policy.trait_of_finer notSpan notShape, Policy.trait_of_finer notSpan notShape,
      Trait.number.injEq] at equal
    rw [made.numbered.unique t u known known' equal]
  span_of_shape a first b second := made.merges_of_coarser (fun _ _ _ _ _ => rfl) first second
  same_iff t u first second := by
    cases t with
    | none => cases u <;> simp [Tree.sameIfAny]
    | some t =>
        cases u with
        | none => simp [Tree.sameIfAny]
        | some u =>
            have agree := made.agree_of_known (first t rfl) (second u rfl)
            simpa [Tree.sameIfAny] using Tree.same_iff_shape t u agree

open Grammar (phrase word)

/-- An apple is tagged, with numbers from `serial` on. -/
def appleTag (serial : Nat) : Arc :=
  scan serial (word "fruit" "apple") ⟨0, 1⟩ "apple"

/-- What tagging an apple has built. -/
def taggedApple (serial : Nat) : Tree :=
  .node (serial + 1) ⟨0, 1⟩ (.nonterminal "fruit") [.leaf serial ⟨0, 1⟩ "apple"]

/-- The rule for meals of one fruit. -/
def oneFruit : Rule :=
  phrase "meal" ["fruit"] rfl

/-- The rule for meals of two fruits. -/
def twoFruits : Rule :=
  phrase "meal" ["fruit", "fruit"] rfl

/-- The meal of an apple that is tagged with numbers from `tag` on. -/
def appleMeal (serial tag : Nat) : Arc :=
  (predict oneFruit 0).extend serial (taggedApple tag)

/-- A meal for each of two tags of an apple, one of them once more with a tree too
many, and the first half of a larger meal, extended by a tag and scanned as if its
rule were lexical. -/
def handMade : List Arc :=
  [scan 8 twoFruits ⟨0, 1⟩ "apple",
    (predict twoFruits 0).extend 7 (taggedApple 0),
    predict twoFruits 0,
    (appleMeal 4 0).extend 6 (taggedApple 2),
    appleMeal 5 2,
    appleMeal 4 0,
    predict oneFruit 0,
    appleTag 2,
    appleTag 0]

theorem made_handMade : Made 10 handMade := by
  have tags : Made 4 [appleTag 2, appleTag 0] :=
    ((Made.nothing 0).scan 0 (Nat.le_refl 0) _ _ _).scan 2 (Nat.le_refl 2) _ _ _
  have first : Made 5 [appleMeal 4 0, predict oneFruit 0, appleTag 2, appleTag 0] :=
    (tags.predict oneFruit 0).extend 4 (Nat.le_refl 4) (b := appleTag 0)
      (by simp) (by simp) rfl (.self (taggedApple 0))
  have second : Made 6
      [appleMeal 5 2, appleMeal 4 0, predict oneFruit 0, appleTag 2, appleTag 0] :=
    first.extend 5 (Nat.le_refl 5) (b := appleTag 2)
      (by simp) (by simp) rfl (.self (taggedApple 2))
  have larger := second.extend 6 (Nat.le_refl 6) (a := appleMeal 4 0) (b := appleTag 2)
    (by simp) (by simp) rfl (.self (taggedApple 2))
  have half := (larger.predict twoFruits 0).extend 7 (Nat.le_refl 7) (a := predict twoFruits 0)
    (b := appleTag 0) (by simp) (by simp) rfl (.self (taggedApple 0))
  exact half.scan 8 (Nat.le_refl 8) twoFruits ⟨0, 1⟩ "apple"

/-- The two meals have one shape and two numbers.  The two halves are never merged,
because only one of them has a tree. -/
theorem classified_handMade : Made 10 handMade ∧ Classified handMade ∧
    Policy.shape.merges (appleMeal 4 0) (appleMeal 5 2) = true ∧
    Policy.identity.merges (appleMeal 4 0) (appleMeal 5 2) = false ∧
    Policy.span.merges ((predict twoFruits 0).extend 7 (taggedApple 0))
      (scan 8 twoFruits ⟨0, 1⟩ "apple") = false :=
  ⟨made_handMade, made_handMade.classified, by decide, by decide, by decide⟩

end Arc
end ParseForest
