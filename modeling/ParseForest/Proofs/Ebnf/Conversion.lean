import Mathlib.Data.List.Forall2
import Mathlib.Data.List.Sort
import ParseForest.Proofs.Ebnf.Reading
import ParseForest.Proofs.Rule

namespace ParseForest

/-!
# Grammars from productions

An alternative gives a rule if it is a single token or one to three names of productions.
If every production has alternatives and all of them are like this, the productions are a
grammar with one rule for each alternative, in the order of the file.  Otherwise the
first production or alternative in that order that is not like this is what is reported.
Neither depends on the order in which the productions are handed over, because no two of
them stand at the same place.
-/

namespace Ebnf

/-! ## What alternatives stand for -/

/-- The symbol of a term: a token stands for itself, and the name of a production for its
nonterminal. -/
inductive Expression.Denotes (all : List Production) : Expression → Symbol → Prop
  | name (pos : Position) {called : Text} (declared : ∃ p ∈ all, p.name = called) :
      Denotes all (.name pos called) (.nonterminal called)
  | token (pos : Position) (value : Text) : Denotes all (.token pos value) (.terminal value)

/-- What is wrong with a term that stands for no symbol. -/
inductive Expression.Offends (all : List Production) : Expression → ConversionError → Prop
  | undefined (pos : Position) {called : Text} (undeclared : ∀ p ∈ all, p.name ≠ called) :
      Offends all (.name pos called) (.undefinedName pos called)
  | unsupported {e : Expression} (noName : ∀ pos called, e ≠ .name pos called)
      (noToken : ∀ pos value, e ≠ .token pos value) : Offends all e (.unsupported e)

/-- The terms of an alternative that is a single token or one to three names of productions,
and the right-hand side that it stands for. -/
inductive IsRightSide (all : List Production) : List Expression → List Symbol → Prop
  | token (pos : Position) (value : Text) :
      IsRightSide all [.token pos value] [.terminal value]
  | names (names : List (Position × Text)) (some : 0 < names.length) (few : names.length ≤ 3)
      (declared : ∀ name ∈ names, ∃ p ∈ all, p.name = name.2) :
      IsRightSide all (names.map fun name => .name name.1 name.2)
        (names.map fun name => .nonterminal name.2)

/-- What is wrong with any other alternative of a production.  The first term without a
symbol comes before everything else; then the number of symbols, and then a
token that is not alone. -/
inductive Production.OffendsIn (all : List Production) (p : Production)
    (alternative : Expression) : ConversionError → Prop
  | term {front : List Expression} {t : Expression} {back : List Expression}
      {e : ConversionError} (terms : alternative.terms = front ++ t :: back)
      (before : ∀ t' ∈ front, ∃ s, t'.Denotes all s) (offends : t.Offends all e) :
      OffendsIn all p alternative e
  | long {pos : Position} {rhs : List Symbol} (place : alternative.pos? = some pos)
      (symbols : List.Forall₂ (Expression.Denotes all) alternative.terms rhs)
      (many : 3 < rhs.length) : OffendsIn all p alternative
        (.malformed pos ⟨.nonterminal p.name, rhs, .longRhs rhs.length⟩)
  | mixed {pos : Position} {names : List Text} {token : Text} {rest : List Symbol}
      (place : alternative.pos? = some pos)
      (symbols : List.Forall₂ (Expression.Denotes all) alternative.terms
        (names.map .nonterminal ++ .terminal token :: rest))
      (several : 1 < alternative.terms.length) (few : alternative.terms.length ≤ 3) :
      OffendsIn all p alternative (.malformed pos
        ⟨.nonterminal p.name, names.map .nonterminal ++ .terminal token :: rest, .mixedRhs token⟩)

/-- The production has alternatives, and each of them gives a rule. -/
def Production.IsConvertible (all : List Production) (p : Production) : Prop :=
  ∃ body, p.body = some body ∧
    ∀ alternative ∈ body.choices, ∃ rhs, IsRightSide all alternative.terms rhs

/-- What is wrong with a production that is not convertible: it has no alternatives at all,
or else the first alternative that gives no rule is wrong. -/
inductive Production.Offends (all : List Production) (p : Production) : ConversionError → Prop
  | empty (none : p.body = none) : Offends all p (.emptyProduction p.pos p.name)
  | alternative {body : Expression} {front : List Expression} {alternative : Expression}
      {back : List Expression} {e : ConversionError} (written : p.body = some body)
      (choices : body.choices = front ++ alternative :: back)
      (before : ∀ other ∈ front, ∃ rhs, IsRightSide all other.terms rhs)
      (offends : p.OffendsIn all alternative e) : Offends all p e

variable {all : List Production} {p : Production}

theorem Expression.Denotes.not_offends {t : Expression} {s : Symbol} {e : ConversionError}
    (denotes : t.Denotes all s) : ¬ t.Offends all e := by
  intro offends
  cases denotes with
  | name pos declared =>
      cases offends with
      | undefined _ undeclared =>
          rcases declared with ⟨q, among, name⟩
          exact undeclared q among name
      | unsupported noName => exact noName _ _ rfl
  | token =>
      cases offends with
      | unsupported _ noToken => exact noToken _ _ rfl

theorem Expression.denotes_rightUnique : Relator.RightUnique (Expression.Denotes all) := by
  intro t s s' denotes denotes'
  cases denotes <;> cases denotes' <;> rfl

/-- An alternative stands where the first of its terms does. -/
theorem Expression.pos?_of_terms {e t : Expression} {ts : List Expression}
    (terms : e.terms = t :: ts) : e.pos? = t.pos? := by
  cases e with
  | sequence parts =>
      cases terms
      rw [pos?]
  | _ =>
      cases terms
      rfl

/-- An alternative whose terms have symbols stands somewhere. -/
theorem exists_pos_of_symbols {alternative : Expression} {rhs : List Symbol}
    (symbols : List.Forall₂ (Expression.Denotes all) alternative.terms rhs)
    (some : alternative.terms ≠ []) : ∃ pos, alternative.pos? = Option.some pos := by
  rcases List.exists_cons_of_ne_nil some with ⟨first, others, terms⟩
  rw [alternative.pos?_of_terms terms]
  rw [terms] at symbols
  cases symbols with
  | cons denotes _ =>
      cases denotes with
      | name pos => exact ⟨pos, rfl⟩
      | token pos => exact ⟨pos, rfl⟩

namespace IsRightSide

variable {alternative : List Expression} {rhs : List Symbol}

theorem denotes (isRightSide : IsRightSide all alternative rhs) :
    List.Forall₂ (Expression.Denotes all) alternative rhs := by
  cases isRightSide with
  | token pos value => exact .cons (.token pos value) .nil
  | names names _ _ declared =>
      rw [List.forall₂_map_left_iff, List.forall₂_map_right_iff, List.forall₂_same]
      exact fun name member => .name name.1 (declared name member)

theorem shape (isRightSide : IsRightSide all alternative rhs) :
    (∃ value, rhs = [.terminal value]) ∨
      rhs.length ≤ 3 ∧ ∀ value, Symbol.terminal value ∉ rhs := by
  cases isRightSide with
  | token _ value => exact Or.inl ⟨value, rfl⟩
  | names names _ few _ => exact Or.inr ⟨by simpa using few, by simp⟩

/-- The nonterminals among the symbols are those of productions. -/
theorem declared (isRightSide : IsRightSide all alternative rhs) {s : Symbol} (member : s ∈ rhs)
    (nonterminal : s.isNonterminal = true) : ∃ p ∈ all, s = .nonterminal p.name := by
  cases isRightSide with
  | token _ value =>
      cases List.mem_singleton.mp member
      cases nonterminal
  | names names _ _ declared =>
      rcases List.mem_map.mp member with ⟨name, among, rfl⟩
      rcases declared name among with ⟨p, inAll, called⟩
      exact ⟨p, inAll, by rw [called]⟩

/-- Every term of an alternative that gives a rule has a symbol. -/
theorem exists_symbol (isRightSide : IsRightSide all alternative rhs) :
    ∀ t ∈ alternative, ∃ s, t.Denotes all s :=
  ((List.forall₂_and_left _ _).mp
    (isRightSide.denotes.imp fun _ s denotes => And.intro (Exists.intro s denotes) denotes)).1

theorem exists_names (symbols : List.Forall₂ (Expression.Denotes all) alternative rhs)
    (nonterminals : ∀ s ∈ rhs, s.isTerminal = false) :
    ∃ names : List (Position × Text),
      alternative = names.map (fun name => .name name.1 name.2) ∧
      rhs = names.map (fun name => .nonterminal name.2) ∧
      ∀ name ∈ names, ∃ p ∈ all, p.name = name.2 := by
  induction symbols with
  | nil => exact ⟨[], rfl, rfl, by simp⟩
  | @cons t s _ _ first _ ih =>
      rcases ih fun s member => nonterminals s (List.mem_cons_of_mem _ member) with
        ⟨names, rfl, rfl, declared⟩
      cases first with
      | @name pos called known =>
          refine ⟨(pos, called) :: names, rfl, rfl, fun name member => ?_⟩
          rcases List.mem_cons.mp member with rfl | later
          · exact known
          · exact declared name later
      | token => cases nonterminals _ List.mem_cons_self

/-- Where the symbols of the terms are the right-hand side of a rule, the alternative gives
a rule. -/
theorem of_rule {r : Rule} (symbols : List.Forall₂ (Expression.Denotes all) alternative r.rhs) :
    IsRightSide all alternative r.rhs := by
  cases lexical : r.isLexical with
  | true =>
      rcases r.isLexical_iff.mp lexical with ⟨token, rhs⟩
      rw [rhs] at symbols ⊢
      cases symbols with
      | cons first others =>
          cases first
          cases others
          exact .token _ token
  | false =>
      rcases exists_names symbols (r.isTerminal_of_mem_rhs lexical) with
        ⟨names, rfl, rhs, declared⟩
      have length : r.rhs.length = names.length := by
        rw [rhs, List.length_map]
      have some := List.length_pos_iff.mpr r.rhs_ne_nil
      have few : r.rhs.length ≤ 3 := r.length_le
      rw [rhs]
      exact .names names (length ▸ some) (length ▸ few) declared

end IsRightSide

/-- No alternative both gives a rule and is wrong. -/
theorem Production.OffendsIn.not_isRightSide {alternative : Expression} {e : ConversionError}
    (offends : p.OffendsIn all alternative e) (rhs : List Symbol) :
    ¬ IsRightSide all alternative.terms rhs := by
  intro isRightSide
  cases offends with
  | term terms before offends =>
      rcases isRightSide.exists_symbol _
        (terms ▸ List.mem_append_right _ List.mem_cons_self) with ⟨s, denotes⟩
      exact denotes.not_offends offends
  | long _ symbols many =>
      cases List.right_unique_forall₂' Expression.denotes_rightUnique symbols isRightSide.denotes
      rcases isRightSide.shape with ⟨value, rfl⟩ | ⟨few, _⟩
      · exact absurd many (by simp)
      · omega
  | mixed _ symbols several few =>
      cases List.right_unique_forall₂' Expression.denotes_rightUnique symbols isRightSide.denotes
      rcases isRightSide.shape with ⟨value, single⟩ | ⟨_, nonterminals⟩
      · have lengths := symbols.length_eq
        rw [single, List.length_singleton] at lengths
        omega
      · exact nonterminals _ (List.mem_append_right _ List.mem_cons_self)

theorem Production.Offends.not_isConvertible {e : ConversionError} (offends : p.Offends all e) :
    ¬ p.IsConvertible all := by
  rintro ⟨body, written, each⟩
  cases offends with
  | empty none => cases none.symm.trans written
  | alternative written' choices _ offends =>
      cases written.symm.trans written'
      rcases each _ (choices ▸ List.mem_append_right _ List.mem_cons_self) with
        ⟨rhs, isRightSide⟩
      exact offends.not_isRightSide rhs isRightSide

/-! ## What conversion does -/

theorem Expression.symbol_outcome (all : List Production) (t : Expression) :
    match t.symbol all with
    | .ok s => t.Denotes all s
    | .error e => t.Offends all e := by
  cases t with
  | name pos called =>
      by_cases declared : ∃ p ∈ all, p.name = called
      · have known : (all.any (·.name = called)) = true := by simpa using declared
        simp only [symbol, known, if_true]
        exact .name pos declared
      · have unknown : (all.any (·.name = called)) = false := by simpa using declared
        simp only [symbol, unknown, Bool.false_eq_true, if_false]
        exact .undefined pos (by simpa using declared)
  | token pos value => exact .token pos value
  | _ => exact .unsupported nofun nofun

theorem symbols_of_mapM {terms : List Expression} {rhs : List Symbol}
    (ran : terms.mapM (Expression.symbol all) = .ok rhs) :
    List.Forall₂ (Expression.Denotes all) terms rhs := by
  have outcome := Except.mapM_outcome (Expression.symbol all) terms
  rw [ran] at outcome
  refine outcome.imp fun t s found => ?_
  have denotes := t.symbol_outcome all
  rwa [found] at denotes

/-- What keeps symbols behind a nonterminal from being a rule. -/
theorem offendsIn_of_defect? {alternative : Expression} {pos : Position} {rhs : List Symbol}
    {defect : RuleDefect} (place : alternative.pos? = some pos)
    (symbols : List.Forall₂ (Expression.Denotes all) alternative.terms rhs)
    (nonempty : alternative.terms ≠ [])
    (found : Rule.defect? (.nonterminal p.name) rhs = some defect) :
    p.OffendsIn all alternative (.malformed pos ⟨.nonterminal p.name, rhs, defect⟩) := by
  have length := symbols.length_eq
  have pos := List.length_pos_iff.mpr nonempty
  unfold Rule.defect? at found
  rw [if_neg (by simp [Symbol.isTerminal]), if_neg (by omega)] at found
  by_cases many : Rule.maxLength < rhs.length
  · rw [if_pos many] at found
    cases found
    exact .long place symbols many
  · rw [if_neg many] at found
    by_cases single : rhs.length = 1
    · rw [if_pos single] at found
      cases found
    · rw [if_neg single, Option.map_eq_some_iff] at found
      rcases found with ⟨token, found, rfl⟩
      rcases Rule.firstToken?_eq_some found with ⟨names, rest, rfl⟩
      unfold Rule.maxLength at many
      exact .mixed place symbols (by omega) (by omega)

theorem Production.rule_outcome (all : List Production) (p : Production)
    {alternative : Expression} (some : alternative.terms ≠ []) :
    match p.rule all alternative with
    | .ok r => r.head = .nonterminal p.name ∧ IsRightSide all alternative.terms r.rhs
    | .error e => p.OffendsIn all alternative e := by
  unfold Production.rule
  cases ran : alternative.terms.mapM (Expression.symbol all) with
  | error e =>
      have outcome := Except.mapM_outcome (Expression.symbol all) alternative.terms
      rw [ran] at outcome
      rcases outcome with ⟨front, t, back, terms, before, failed⟩
      have offends := t.symbol_outcome all
      rw [failed] at offends
      refine .term terms (fun t' member => ?_) offends
      rcases before t' member with ⟨s, found⟩
      have denotes := t'.symbol_outcome all
      rw [found] at denotes
      exact ⟨s, denotes⟩
  | ok rhs =>
      have symbols := symbols_of_mapM ran
      have outcome := Rule.make_outcome (.nonterminal p.name) rhs
      simp only [bind, Except.bind]
      cases made : Rule.make (.nonterminal p.name) rhs with
      | ok r =>
          rw [made] at outcome
          rcases outcome with ⟨head, rfl⟩
          exact ⟨head, .of_rule symbols⟩
      | error e =>
          rw [made] at outcome
          rcases outcome with ⟨defect, found, rfl⟩
          rcases exists_pos_of_symbols symbols some with ⟨pos, place⟩
          simp only [place, Option.getD_some]
          exact offendsIn_of_defect? place symbols some found

/-- The alternatives of a production, each with the production. -/
def Production.alternatives (p : Production) : List (Production × Expression) :=
  (p.body.elim [] Expression.choices).map (p, ·)

/-- The rule is that of an alternative. -/
def IsRuleOf (all : List Production) (entry : Production × Expression) (r : Rule) : Prop :=
  r.head = .nonterminal entry.1.name ∧ IsRightSide all entry.2.terms r.rhs

/-- Each rule is that of one of the alternatives. -/
theorem exists_alternative {entries : List (Production × Expression)} {rules : List Rule}
    (each : List.Forall₂ (IsRuleOf all) entries rules) {r : Rule} (member : r ∈ rules) :
    ∃ entry ∈ entries, IsRuleOf all entry r := by
  induction each with
  | nil => cases member
  | cons first _ ih =>
      rcases List.mem_cons.mp member with rfl | later
      · exact ⟨_, List.mem_cons_self, first⟩
      · rcases ih later with ⟨entry, among, rule⟩
        exact ⟨entry, List.mem_cons_of_mem _ among, rule⟩

theorem Production.rules_outcome (all : List Production) (p : Production)
    (filled : ∀ body, p.body = some body → body.IsFilled) :
    match p.rules all with
    | .ok rules => p.IsConvertible all ∧ List.Forall₂ (IsRuleOf all) p.alternatives rules
    | .error e => p.Offends all e := by
  unfold Production.rules
  cases written : p.body with
  | none => exact .empty written
  | some body =>
      have outcome := Except.mapM_outcome (p.rule all) body.choices
      have convert {alternative : Expression} (member : alternative ∈ body.choices) :=
        p.rule_outcome all ((filled body written).2 alternative member)
      have isRuleOf {alternative : Expression} {r : Rule} (member : alternative ∈ body.choices)
          (made : p.rule all alternative = .ok r) : IsRuleOf all (p, alternative) r := by
        have outcome := convert member
        rwa [made] at outcome
      simp only
      cases ran : body.choices.mapM (p.rule all) with
      | ok rules =>
          rw [ran] at outcome
          have each : List.Forall₂ (fun alternative r => IsRuleOf all (p, alternative) r)
              body.choices rules :=
            ((List.forall₂_and_left _ _).mpr ⟨fun _ member => member, outcome⟩).imp
              fun _ _ entry => isRuleOf entry.1 entry.2
          have convertible := each.imp fun alternative r rule =>
            And.intro (Exists.intro (p := IsRightSide all alternative.terms) r.rhs rule.2) rule
          refine ⟨⟨body, written, ((List.forall₂_and_left _ _).mp convertible).1⟩, ?_⟩
          rw [alternatives, written, Option.elim_some, List.forall₂_map_left_iff]
          exact each
      | error e =>
          rw [ran] at outcome
          rcases outcome with ⟨front, alternative, back, choices, before, failed⟩
          have offends := convert (choices ▸ List.mem_append_right _ List.mem_cons_self)
          rw [failed] at offends
          refine .alternative written choices (fun other member => ?_) offends
          rcases before other member with ⟨r, made⟩
          exact ⟨r.rhs, (isRuleOf (choices ▸ List.mem_append_left _ member) made).2⟩

/-- The first thing that is wrong with productions in their order. -/
def FirstOffence (all ordered : List Production) (e : ConversionError) : Prop :=
  ∃ front p back, ordered = front ++ p :: back ∧ (∀ q ∈ front, q.IsConvertible all) ∧
    p.Offends all e

theorem inFileOrder_perm (all : List Production) : (inFileOrder all).Perm all :=
  List.mergeSort_perm all _

namespace AreParsed

variable (parsed : AreParsed all)
include parsed

theorem perm {handed : List Production} (same : handed.Perm all) : AreParsed handed where
  names := (same.map _).nodup_iff.mpr parsed.names
  offsets := (same.map _).nodup_iff.mpr parsed.offsets
  filled p member := parsed.filled p (same.mem_iff.mp member)

/-- In file order the places ascend. -/
theorem ascending : (inFileOrder all).Pairwise fun p q => p.pos.offset < q.pos.offset := by
  have sorted : (inFileOrder all).Pairwise fun p q => p.pos.offset ≤ q.pos.offset := by
    refine (List.pairwise_mergeSort (fun p q r => ?_) (fun p q => ?_) all).imp of_decide_eq_true
    · simp only [decide_eq_true_eq]
      exact Nat.le_trans
    · simp only [Bool.or_eq_true, decide_eq_true_eq]
      exact Nat.le_total _ _
  have distinct : (inFileOrder all).Pairwise fun p q => p.pos.offset ≠ q.pos.offset :=
    List.pairwise_map.mp (parsed.perm (inFileOrder_perm all)).offsets
  exact sorted.imp₂ (fun _ _ le ne => Nat.lt_of_le_of_ne le ne) distinct

/-- Conversion does not depend on the order in which productions are handed over. -/
theorem convert_eq {handed : List Production} (same : handed.Perm all) :
    convert handed = convert all := by
  have ordered : inFileOrder handed = inFileOrder all :=
    List.Perm.eq_of_pairwise (fun p q _ _ (before : p.pos.offset < q.pos.offset) after =>
      absurd before (Nat.lt_asymm after)) (parsed.perm same).ascending parsed.ascending
      (((inFileOrder_perm handed).trans same).trans (inFileOrder_perm all).symm)
  have symbols : Expression.symbol handed = Expression.symbol all := by
    funext t
    cases t with
    | name pos called =>
        have known : handed.any (·.name = called) = all.any (·.name = called) :=
          Bool.eq_iff_iff.mpr (by simp [same.mem_iff])
        simp only [Expression.symbol, known]
    | _ => rfl
  have rule (p : Production) : p.rule handed = p.rule all := by
    funext alternative
    unfold Production.rule
    rw [symbols]
  have rules : Production.rules handed = Production.rules all := by
    funext p
    simp only [Production.rules, rule]
  unfold convert
  rw [ordered, rules]

end AreParsed

theorem convert_outcome (parsed : AreParsed all) (some : all ≠ []) :
    match convert all with
    | .ok d => (∀ p ∈ all, p.IsConvertible all) ∧
        List.Forall₂ (IsRuleOf all) ((inFileOrder all).flatMap Production.alternatives)
          d.grammar.rules ∧
        (inFileOrder all).head?.map (fun p => .nonterminal p.name) = Option.some d.start
    | .error e => FirstOffence all (inFileOrder all) e := by
  have same := inFileOrder_perm all
  have outcomes {p : Production} (member : p ∈ inFileOrder all) :=
    p.rules_outcome all (parsed.filled p (same.mem_iff.mp member))
  have outcome := Except.mapM_outcome (Production.rules all) (inFileOrder all)
  unfold convert
  generalize inFileOrder all = ordered at *
  cases ordered with
  | nil => exact absurd same.nil_eq.symm some
  | cons first others =>
      simp only
      cases ran : (first :: others).mapM (Production.rules all) with
      | ok parts =>
          rw [ran] at outcome
          have each : List.Forall₂ (fun p rules => p.IsConvertible all ∧
              List.Forall₂ (IsRuleOf all) p.alternatives rules) (first :: others) parts := by
            refine ((List.forall₂_and_left _ _).mpr ⟨fun _ member => member, outcome⟩).imp ?_
            rintro p rules ⟨member, made⟩
            have outcome := outcomes member
            rwa [made] at outcome
          rcases (List.forall₂_and_left _ _).mp each with ⟨convertible, rules⟩
          refine ⟨fun p member => convertible p (same.mem_iff.mpr member), ?_, rfl⟩
          exact List.rel_flatten (List.forall₂_map_left_iff.mpr rules)
      | error e =>
          rw [ran] at outcome
          rcases outcome with ⟨front, p, back, split, before, failed⟩
          have offends := outcomes (split.symm ▸ List.mem_append_right front List.mem_cons_self)
          rw [failed] at offends
          refine ⟨front, p, back, split, fun q member => ?_, offends⟩
          rcases before q member with ⟨rules, made⟩
          have convertible := outcomes (split.symm ▸ List.mem_append_left (p :: back) member)
          rw [made] at convertible
          exact convertible.1

/-! ## Heads -/

/-- Names that come in a row each count once. -/
theorem eraseDups_flatMap_replicate {α β : Type} [DecidableEq β] (f : α → β) (count : α → Nat)
    {xs : List α} (some : ∀ x ∈ xs, 0 < count x) (distinct : (xs.map f).Nodup) :
    (xs.flatMap fun x => List.replicate (count x) (f x)).eraseDups = xs.map f := by
  induction xs with
  | nil => rfl
  | cons x xs ih =>
      rw [List.map_cons, List.nodup_cons] at distinct
      rcases Nat.exists_eq_succ_of_ne_zero (some x List.mem_cons_self).ne' with ⟨more, count_eq⟩
      have others : (xs.flatMap fun x => List.replicate (count x) (f x)).filter (fun b => !b == f x) =
          xs.flatMap fun x => List.replicate (count x) (f x) := by
        refine List.filter_eq_self.mpr fun b member => ?_
        rcases List.mem_flatMap.mp member with ⟨y, among, inRow⟩
        have other : f y ≠ f x := fun same => distinct.1 (same ▸ List.mem_map_of_mem among)
        simp [List.eq_of_mem_replicate inRow, other]
      rw [List.flatMap_cons, count_eq, List.replicate_succ, List.cons_append, List.eraseDups_cons,
        List.filter_append, others, List.map_cons,
        ← ih (fun y member => some y (List.mem_cons_of_mem x member)) distinct.2]
      simp

theorem heads_eq {ordered : List Production} {rules : List Rule} (parsed : AreParsed ordered)
    (convertible : ∀ p ∈ ordered, p.IsConvertible all)
    (each : List.Forall₂ (IsRuleOf all) (ordered.flatMap Production.alternatives) rules) :
    (rules.map Rule.head).eraseDups = ordered.map fun p => .nonterminal p.name := by
  have heads : rules.map Rule.head =
      (ordered.flatMap Production.alternatives).map fun entry => .nonterminal entry.1.name := by
    have same : List.Forall₂ (· = ·) ((ordered.flatMap Production.alternatives).map
        fun entry => Symbol.nonterminal entry.1.name) (rules.map Rule.head) := by
      rw [List.forall₂_map_left_iff, List.forall₂_map_right_iff]
      exact each.imp fun _ _ rule => rule.1.symm
    exact (List.forall₂_eq_eq_eq ▸ same).symm
  have rows : (ordered.flatMap Production.alternatives).map
      (fun entry => Symbol.nonterminal entry.1.name) =
      ordered.flatMap fun p => List.replicate p.alternatives.length (.nonterminal p.name) := by
    rw [List.map_flatMap]
    congr 1
    funext p
    simp only [Production.alternatives, List.map_map, List.length_map]
    change List.map (fun _ => Symbol.nonterminal p.name) (p.body.elim [] Expression.choices) = _
    exact List.map_const'
  rw [heads, rows]
  refine eraseDups_flatMap_replicate (fun p : Production => Symbol.nonterminal p.name) _
    (fun p member => ?_) ?_
  · rcases convertible p member with ⟨body, written, _⟩
    have some := (parsed.filled p member body written).1
    simpa [Production.alternatives, written] using List.length_pos_iff.mpr some
  · have names := parsed.names
    have injective : Function.Injective Symbol.nonterminal := fun _ _ => Symbol.nonterminal.inj
    rw [← List.nodup_map_iff injective, List.map_map] at names
    exact names

/-- The heads of the rules are the productions in file order. -/
theorem heads_of_convert (parsed : AreParsed all) (some : all ≠ []) {d : Definition}
    (converted : convert all = .ok d) :
    d.grammar.heads = (inFileOrder all).map fun p => .nonterminal p.name := by
  have same := inFileOrder_perm all
  have outcome := convert_outcome parsed some
  rw [converted] at outcome
  rcases outcome with ⟨convertible, rules, _⟩
  rw [Grammar.heads_eq_eraseDups]
  exact heads_eq (parsed.perm same) (fun p member => convertible p (same.mem_iff.mp member)) rules

/-- What becomes of a grammar file: the grammar of its productions, or what keeps them from
being read, or the first of them in the file that is not convertible. -/
theorem load_outcome (file source : Text) :
    match load file source with
    | .ok d => ∃ all, read file source = .ok all ∧ (∀ p ∈ all, p.IsConvertible all) ∧
        List.Forall₂ (IsRuleOf all) ((inFileOrder all).flatMap Production.alternatives)
          d.grammar.rules ∧
        d.grammar.heads = (inFileOrder all).map (fun p => .nonterminal p.name) ∧
        d.grammar.heads.head? = some d.start
    | .error (.unreadable complaints) => read file source = .error complaints
    | .error (.unverified _) => False
    | .error (.unconvertible e) => ∃ all, read file source = .ok all ∧
        (all = [] ∧ e = .noProductions ∨ all ≠ [] ∧ FirstOffence all (inFileOrder all) e) := by
  unfold load
  cases readable : read file source with
  | error complaints => rfl
  | ok all =>
      simp only
      by_cases nothing : all = []
      · subst nothing
        have refused : convert [] = .error .noProductions := by simp [convert, inFileOrder]
        rw [refused]
        exact ⟨[], rfl, Or.inl ⟨rfl, rfl⟩⟩
      · have parsed := areParsed_of_read readable
        have outcome := convert_outcome parsed nothing
        cases converted : convert all with
        | error e =>
            rw [converted] at outcome
            exact ⟨all, rfl, Or.inr ⟨nothing, outcome⟩⟩
        | ok d =>
            rw [converted] at outcome
            rcases outcome with ⟨convertible, rules, start⟩
            have heads := heads_of_convert parsed nothing converted
            refine ⟨all, rfl, convertible, rules, heads, ?_⟩
            rw [heads, List.head?_map]
            exact start

/-- Whether productions become a grammar, and which one, does not depend on the order in
which they are handed over.  They become one exactly if each of them has alternatives and each
alternative is a single token or one to three names of productions.  Then there is
one rule for each alternative, in the order of the file, the heads are the productions in this
order, the first of them is the start symbol, and every nonterminal has rules.
Otherwise the first offending production or alternative in this order is reported. -/
theorem convert_in_file_order (parsed : AreParsed all) (some : all ≠ []) :
    ∃ ordered : List Production, ordered.Perm all ∧
      ordered.Pairwise (fun p q => p.pos.offset < q.pos.offset) ∧
      (∀ handed : List Production, handed.Perm all → convert handed = convert all) ∧
      ((∃ d, convert all = .ok d) ↔ ∀ p ∈ all, p.IsConvertible all) ∧
      (∀ d, convert all = .ok d →
        List.Forall₂ (IsRuleOf all) (ordered.flatMap Production.alternatives) d.grammar.rules ∧
        d.grammar.heads = ordered.map (fun p => .nonterminal p.name) ∧
        ordered.head?.map (fun p => .nonterminal p.name) = Option.some d.start ∧
        ∀ r ∈ d.grammar.rules, ∀ s ∈ r.rhs, s.isNonterminal = true → d.grammar.has s = true) ∧
      ∀ e, convert all = .error e → FirstOffence all ordered e := by
  have same := inFileOrder_perm all
  have outcome := convert_outcome parsed some
  refine ⟨inFileOrder all, same, parsed.ascending, fun _ => parsed.convert_eq, ?_, ?_, ?_⟩
  · constructor
    · rintro ⟨d, converted⟩
      rw [converted] at outcome
      exact outcome.1
    · intro convertible
      cases converted : convert all with
      | ok d => exact ⟨d, rfl⟩
      | error e =>
          rw [converted] at outcome
          rcases outcome with ⟨front, p, back, split, _, offends⟩
          have member : p ∈ all :=
            same.mem_iff.mp (split.symm ▸ List.mem_append_right front List.mem_cons_self)
          exact absurd (convertible p member) offends.not_isConvertible
  · intro d converted
    rw [converted] at outcome
    rcases outcome with ⟨convertible, rules, start⟩
    have heads := heads_of_convert parsed some converted
    refine ⟨rules, heads, start, fun r member s inRhs nonterminal => ?_⟩
    rcases exists_alternative rules member with ⟨entry, _, rule⟩
    rcases rule.2.declared inRhs nonterminal with ⟨q, among, rfl⟩
    rw [Grammar.has_iff, ← Grammar.mem_heads, heads]
    exact List.mem_map_of_mem (same.mem_iff.mpr among)
  · intro e converted
    rw [converted] at outcome
    exact outcome

/-- Three productions, of which the last in the file is handed over first. -/
def scattered : List Production :=
  [⟨⟨[], 30, 3, 1⟩, "x", some (.token ⟨[], 34, 3, 5⟩ "c")⟩,
    ⟨⟨[], 0, 1, 1⟩, "z",
      some (.sequence [.name ⟨[], 4, 1, 5⟩ "y", .name ⟨[], 6, 1, 7⟩ "x"])⟩,
    ⟨⟨[], 10, 2, 1⟩, "y",
      some (.alternatives [.token ⟨[], 14, 2, 5⟩ "b", .token ⟨[], 20, 2, 11⟩ "a"])⟩]

theorem areParsed_scattered : AreParsed scattered where
  names := by decide
  offsets := by decide
  filled := by
    unfold scattered
    simp [Expression.IsFilled, Expression.choices, Expression.terms]

theorem isConvertible_scattered : ∀ p ∈ scattered, p.IsConvertible scattered := by
  have single (pos : Position) (value : Text) :
      ∃ rhs, IsRightSide scattered [.token pos value] rhs := ⟨_, .token pos value⟩
  have pair : ∃ rhs, IsRightSide scattered
      [.name ⟨[], 4, 1, 5⟩ "y", .name ⟨[], 6, 1, 7⟩ "x"] rhs :=
    ⟨_, .names [(⟨[], 4, 1, 5⟩, "y"), (⟨[], 6, 1, 7⟩, "x")] (by decide) (by decide) (by decide)⟩
  unfold scattered at *
  simp only [List.forall_mem_cons, List.not_mem_nil, false_implies, implies_true, and_true]
  refine ⟨⟨_, rfl, ?_⟩, ⟨_, rfl, ?_⟩, ⟨_, rfl, ?_⟩⟩
  · exact List.forall_mem_singleton.mpr (single _ _)
  · exact List.forall_mem_singleton.mpr pair
  · exact List.forall_mem_cons.mpr ⟨single _ _, List.forall_mem_singleton.mpr (single _ _)⟩

theorem convert_in_file_order_scattered :
    AreParsed scattered ∧ scattered ≠ [] ∧ ∃ d, convert scattered = .ok d ∧
      d.start = .nonterminal "z" ∧
      d.grammar.heads = [.nonterminal "z", .nonterminal "y", .nonterminal "x"] ∧
      convert scattered.reverse = .ok d := by
  have some : scattered ≠ [] := List.cons_ne_nil _ _
  rcases convert_in_file_order areParsed_scattered some with
    ⟨ordered, same, ascending, anyOrder, succeeds, converted, _⟩
  have rotated : ordered = scattered.drop 1 ++ scattered.take 1 := by
    refine List.Perm.eq_of_pairwise (fun p q _ _ (before : p.pos.offset < q.pos.offset) after =>
      absurd before (Nat.lt_asymm after)) ascending (by decide) (same.trans ?_)
    exact @List.perm_append_comm _ (scattered.take 1) (scattered.drop 1)
  rcases succeeds.mpr isConvertible_scattered with ⟨d, found⟩
  rcases converted d found with ⟨_, heads, start, _⟩
  rw [rotated] at heads start
  exact ⟨areParsed_scattered, some, d, found, (Option.some.inj start).symm, heads,
    (anyOrder _ (List.reverse_perm scattered)).trans found⟩

end Ebnf
end ParseForest
