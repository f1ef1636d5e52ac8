import ParseForest.Proofs.Forest.Policies
import ParseForest.Proofs.Worklist.Lockstep

namespace ParseForest

/-!
# Repeated rules

A grammar keeps its rules as often as they are listed, and wherever the head of a
rule is awaited, the rule is predicted once for each time it is listed.  If it tags
the next token, it is scanned as often.  Only the first of these proposals can have
an effect.  Other arcs may have entered the cell when the next one comes, but where
keys or shapes are compared, it is rejected for the sake of the first, or for the
same reason as the first.

So two runs keep step if their grammars list the same rules, each of them any number
of times.  Either of them can take the lead, hence one ends if and only if the other
does.
-/

namespace Policy

variable {policy : Policy} {arcs arcs' seen more : List Arc} {a : Arc} {e : Nat}

/-! ## Proposals that have been made before -/

theorem Rejects.mono (rejects : policy.Rejects arcs a) (kept : arcs ⊆ arcs') :
    policy.Rejects arcs' a := by
  rcases rejects with ⟨looks, b, member, kinds⟩
  exact ⟨looks, b, kept member, kinds⟩

theorem subset_offer (policy : Policy) (e : Nat) (arcs : List Arc) (a : Arc) :
    arcs ⊆ policy.offer e arcs a := by
  rw [offer]
  split
  · exact List.subset_append_left arcs [a]
  · exact List.Subset.refl arcs

theorem subset_foldl_offer (policy : Policy) (e : Nat) (arcs more : List Arc) :
    arcs ⊆ more.foldl (policy.offer e) arcs := by
  induction more generalizing arcs with
  | nil => exact List.Subset.refl arcs
  | cons a more ih => exact List.Subset.trans (policy.subset_offer e arcs a) (ih _)

/-- An arc that has been offered to its cell is rejected from then on. -/
theorem rejects_offer (looks : policy = .span ∨ policy = .shape) (here : a.span.stop = e) :
    policy.Rejects (policy.offer e arcs a) a := by
  by_cases rejects : policy.Rejects arcs a
  · exact rejects.mono (policy.subset_offer e arcs a)
  · rw [offer, if_pos ⟨here, rejects⟩]
    exact ⟨or_assoc.mp (Or.inl looks), a, List.mem_append_right arcs (List.mem_singleton_self a),
      rfl⟩

theorem offer_of_offered (looks : policy = .span ∨ policy = .shape) (offered : a ∈ seen) :
    policy.offer e (seen.foldl (policy.offer e) arcs) a = seen.foldl (policy.offer e) arcs := by
  rw [offer, if_neg]
  rintro ⟨here, kept⟩
  apply kept
  rcases List.append_of_mem offered with ⟨before, after, rfl⟩
  rw [List.foldl_append, List.foldl_cons]
  exact (rejects_offer looks here).mono (policy.subset_foldl_offer e _ after)

theorem foldl_offer_of_offered (looks : policy = .span ∨ policy = .shape) (offered : more ⊆ seen) :
    more.foldl (policy.offer e) (seen.foldl (policy.offer e) arcs) =
      seen.foldl (policy.offer e) arcs := by
  induction more with
  | nil => rfl
  | cons a more ih =>
      rw [List.cons_subset] at offered
      rw [List.foldl_cons, offer_of_offered looks offered.1]
      exact ih offered.2

/-- Wherever some of the rules of a list contribute arcs, they contribute the same as
if each rule was listed once. -/
theorem foldl_offer_eraseDups (looks : policy = .span ∨ policy = .shape) (rules : List Rule)
    (select : Rule → Bool) (arcsOf : Rule → List Arc) :
    ((rules.eraseDups.filter select).flatMap arcsOf).foldl (policy.offer e) arcs =
      ((rules.filter select).flatMap arcsOf).foldl (policy.offer e) arcs := by
  -- The first occurrence of a rule is the one that stays, so the last rule of the
  -- list is compared with those before it.
  induction rules using List.reverseRecOn with
  | nil => rfl
  | append_singleton rules r ih =>
      rw [List.filter_append, List.flatMap_append, List.foldl_append, ← ih, List.eraseDups,
        eraseDupsBy_concat]
      split
      case isTrue repeated =>
        have listed : r ∈ rules.eraseDups := by
          rcases List.any_eq_true.mp repeated with ⟨r', member, equal⟩
          rw [eq_of_beq equal]
          exact member
        refine (foldl_offer_of_offered looks fun a member => ?_).symm
        rcases List.mem_flatMap.mp member with ⟨r', chosen, inside⟩
        rcases List.mem_filter.mp chosen with ⟨only, selected⟩
        rw [List.mem_singleton.mp only] at inside selected
        exact List.mem_flatMap.mpr ⟨r, List.mem_filter.mpr ⟨listed, selected⟩, inside⟩
      case isFalse =>
        rw [List.filter_append, List.flatMap_append, List.foldl_append]
        rfl

end Policy

namespace Problem

/-- The problems are about one sentence, and what the rules for a symbol contribute
to a chart is the same in both. -/
structure SameRules (p p' : Problem) (policy : Policy) : Prop where
  start_eq : p'.start = p.start
  tokens_eq : p'.tokens = p.tokens
  rules : ∀ (head : Symbol) (movesOf : Rule → List Move) (k : Nat), policy.OffersAlike k
    ((p.grammar.rulesFor head).flatMap movesOf) ((p'.grammar.rulesFor head).flatMap movesOf)

variable {p p' : Problem} {policy : Policy}

theorem SameRules.symm (same : p.SameRules p' policy) : p'.SameRules p policy where
  start_eq := same.start_eq.symm
  tokens_eq := same.tokens_eq.symm
  rules head movesOf k e upTo arcs := (same.rules head movesOf k e upTo arcs).symm

theorem sameRules_eraseDups (looks : policy = .span ∨ policy = .shape) (rules : List Rule)
    (start : Symbol) (tokens : List Text) :
    SameRules ⟨.ofRules rules, start, tokens⟩ ⟨.ofRules rules.eraseDups, start, tokens⟩ policy where
  start_eq := rfl
  tokens_eq := rfl
  rules head movesOf k e upTo arcs := by
    rw [Grammar.rulesFor_eq_filter, Grammar.rulesFor_eq_filter, List.map_flatMap, List.map_flatMap]
    exact (Policy.foldl_offer_eraseDups looks rules _ _).symm

theorem SameRules.paces (same : p.SameRules p' policy) : p.Paces p' policy where
  shorter := by rw [same.tokens_eq]
  seeds := by
    rw [seeds, seeds, same.start_eq, List.map_eq_flatMap, List.map_eq_flatMap]
    exact same.rules p.start _ _
  moves := by
    intro work work' a a' e moves moves' both upTo member member' alike movesEq movesEq'
    have charted := both.reached.coherent.charted
    have charted' := both.reached'.coherent.charted
    cases awaits : a.rule.rhs[a.dot]? with
    | some awaited =>
        rcases Arc.key_eq.mp (Arc.key_eq_of_shape alike) with ⟨span, rule, dot⟩
        rw [moves_of_waiting (charted.sound member) awaits, Except.ok.injEq] at movesEq
        rw [rule, dot] at awaits
        rw [moves_of_waiting (charted'.sound member') awaits, Except.ok.injEq] at movesEq'
        have token : p'.tokenAt? a'.span.stop = p.tokenAt? a.span.stop := by
          rw [tokenAt?, tokenAt?, same.tokens_eq, span]
        rw [← movesEq, ← movesEq', predictions, predictions, token, span]
        exact same.rules awaited _ _
    | none =>
        exact policy.offersAlike_of_map_eq
          (both.map_moves_of_complete upTo member member' alike awaits movesEq movesEq')

/-- If the chart of one problem is filled, then so is that of the other, and they are
the same up to the numbering of trees. -/
theorem SameRules.exists_fill (same : p.SameRules p' policy) {chart' : Chart}
    (run' : p'.fill policy = .ok chart') :
    ∃ chart, p.fill policy = .ok chart ∧ chart.length = chart'.length ∧
      ∀ e, (chart.arcsIn e).map Arc.shape = (chart'.arcsIn e).map Arc.shape := by
  rcases same.paces.exists_fill run' with ⟨chart, run, agree⟩
  have length := length_eq_of_fill run
  have length' := length_eq_of_fill run'
  rw [same.tokens_eq] at length'
  refine ⟨chart, run, length.trans length'.symm, fun e => ?_⟩
  rcases Nat.lt_or_ge p.tokens.length e with outside | inside
  · rw [Chart.arcsIn_eq_nil (by omega), Chart.arcsIn_eq_nil (by omega)]
  · exact agree e inside

theorem SameRules.roots_eq (same : p.SameRules p' policy) {chart chart' : Chart}
    (cells : ∀ e, (chart.arcsIn e).map Arc.shape = (chart'.arcsIn e).map Arc.shape) :
    (p.roots chart).map Tree.shape = (p'.roots chart').map Tree.shape := by
  rw [roots, roots, Chart.map_filterMap_rootOf, Chart.map_filterMap_rootOf, cells, same.start_eq,
    same.tokens_eq]

end Problem

namespace Parser

open Problem in
/-- It makes no difference for the policies that compare keys or shapes how often a
rule is listed.  If the chart is filled for the list or for the list without later
repetitions, then it is filled for both, and the two charts have the same arcs in the
same order, up to the numbering of trees.  So have the forests. -/
theorem fill_eraseDups (rules : List Rule) (policy : Policy) (start : Symbol) (tokens : List Text)
    (ends : policy = .span ∨ policy = .shape ∧
      ((Parser.mk (.ofRules rules) policy).Ends start tokens ∨
        (Parser.mk (.ofRules rules.eraseDups) policy).Ends start tokens)) :
    (Chart.maxLength ≤ tokens.length ∧
      (Parser.mk (.ofRules rules) policy).fill start tokens = .error .badLength ∧
      (Parser.mk (.ofRules rules.eraseDups) policy).fill start tokens = .error .badLength) ∨
    ∃ chart chart' trees trees',
      (Parser.mk (.ofRules rules) policy).fill start tokens = .ok chart ∧
      (Parser.mk (.ofRules rules.eraseDups) policy).fill start tokens = .ok chart' ∧
      (∀ i, (chart.arcsAt i).map (·.map Arc.shape) = (chart'.arcsAt i).map (·.map Arc.shape)) ∧
      (Parser.mk (.ofRules rules) policy).parse start tokens = .ok trees ∧
      (Parser.mk (.ofRules rules.eraseDups) policy).parse start tokens = .ok trees' ∧
      trees.map Tree.shape = trees'.map Tree.shape := by
  have looks : policy = .span ∨ policy = .shape := ends.imp_right And.left
  have same := sameRules_eraseDups looks rules start tokens
  rcases Nat.lt_or_ge tokens.length Chart.maxLength with fits | long
  · have found : (Parser.mk (.ofRules rules.eraseDups) policy).Ends start tokens := by
      rcases ends with rfl | ⟨_, ⟨chart, run⟩ | found⟩
      · exact exists_fill_span fits
      · rcases same.symm.exists_fill run with ⟨chart', run', _⟩
        exact ⟨chart', run'⟩
      · exact found
    rcases found with ⟨chart', run'⟩
    rcases same.exists_fill run' with ⟨chart, run, lengths, cells⟩
    exact Or.inr ⟨chart, chart', _, _, run, run', Chart.arcsAt_map lengths cells,
      parse_eq_roots run, parse_eq_roots run', same.roots_eq cells⟩
  · exact Or.inl ⟨long, fill_eq_badLength policy long, fill_eq_badLength policy long⟩

/-- The rules for rows of nouns, listed twice in different orders. -/
theorem fill_eraseDups_rows :
    ∃ chart chart' trees trees',
      (Parser.mk (.ofRules (nounRows.rules ++ nounRows.rules.reverse)) .shape).fill
        (.nonterminal "np") ["fish", "fish", "fish"] = .ok chart ∧
      (Parser.mk (.ofRules (nounRows.rules ++ nounRows.rules.reverse).eraseDups) .shape).fill
        (.nonterminal "np") ["fish", "fish", "fish"] = .ok chart' ∧
      (∀ i, (chart.arcsAt i).map (·.map Arc.shape) = (chart'.arcsAt i).map (·.map Arc.shape)) ∧
      (Parser.mk (.ofRules (nounRows.rules ++ nounRows.rules.reverse)) .shape).parse
        (.nonterminal "np") ["fish", "fish", "fish"] = .ok trees ∧
      (Parser.mk (.ofRules (nounRows.rules ++ nounRows.rules.reverse).eraseDups) .shape).parse
        (.nonterminal "np") ["fish", "fish", "fish"] = .ok trees' ∧
      trees ≠ [] ∧ trees.map Tree.shape = trees'.map Tree.shape := by
  have acyclic : (Grammar.ofRules (nounRows.rules ++ nounRows.rules.reverse)).UnaryAcyclic :=
    Grammar.unaryAcyclic_of_rank (fun s => if s = .nonterminal "np" then 1 else 0) (by decide)
  rcases fill_eraseDups (nounRows.rules ++ nounRows.rules.reverse) .shape (.nonterminal "np")
    ["fish", "fish", "fish"] (Or.inr ⟨rfl, Or.inl (ends_of_acyclic acyclic _ (by decide))⟩) with
    ⟨long, _⟩ | found
  · exact absurd long (by decide)
  · rcases found with ⟨chart, chart', trees, trees', run, run', cells, parsed, parsed', forests⟩
    have some := ne_nil_of_nounRow (by decide) 1 parsed
    exact ⟨chart, chart', trees, trees', run, run', cells, parsed, parsed', some, forests⟩

end Parser
end ParseForest
