import Mathlib.Data.List.Basic
import ParseForest.Proofs.Ebnf.Names

namespace ParseForest

/-!
# What reading makes sure of

Every token takes something from the file, so tokens stand at ascending places, and so do
the productions that begin with them.  A reader that has nothing to complain about has
found every name once and something in every alternative.
-/

theorem Glyph.bytes_length_pos (g : Glyph) : 0 < g.bytes.length := by
  cases g with
  | char c =>
      change 0 < (String.utf8EncodeChar c).length
      rw [String.length_utf8EncodeChar]
      exact c.utf8Size_pos
  | stray b => exact Nat.zero_lt_one

namespace Ebnf

/-! ## Places of tokens -/

namespace Position

theorem offset_lt_next (p : Position) (g : Glyph) : p.offset < (p.next g).offset := by
  have := Glyph.bytes_length_pos g
  unfold next
  split
  · exact Nat.lt_succ_self _
  · exact Nat.lt_add_of_pos_right this

theorem offset_le_foldl (gs : List Glyph) (p : Position) :
    p.offset ≤ (gs.foldl next p).offset := by
  induction gs generalizing p with
  | nil => exact Nat.le_refl _
  | cons g gs ih => exact Nat.le_trans (Nat.le_of_lt (p.offset_lt_next g)) (ih _)

theorem offset_lt_foldl {gs : List Glyph} (some : gs ≠ []) (p : Position) :
    p.offset < (gs.foldl next p).offset := by
  cases gs with
  | nil => exact absurd rfl some
  | cons g gs => exact Nat.lt_of_lt_of_le (p.offset_lt_next g) (offset_le_foldl gs _)

end Position

namespace Token

theorem digitCount_pos {isDigit : Char → Bool} {c : Char} (digit : isDigit c = true)
    (cs : List Char) : 0 < digitCount isDigit (c :: cs) := by
  unfold digitCount
  rw [List.takeWhile_cons_of_pos (by simp [digit])]
  exact Nat.zero_lt_succ _

/-- Only a mark in front of a number makes it hexadecimal. -/
theorem radix_eq_false {cs : List Char} {hex : Bool} (lead : radix cs = (0, hex)) :
    hex = false := by
  unfold radix at lead
  split at lead
  · split at lead
    · cases lead
    · split at lead <;> cases lead
  · cases lead
    rfl

theorem number_pos_of_isDigit {c : Char} (digit : c.isDigit = true) (cs : List Char) :
    0 < (number (c :: cs)).1 := by
  unfold number
  rcases lead : radix (c :: cs) with ⟨length, hex⟩
  have some := digitCount_pos digit cs
  cases length with
  | zero =>
      simp only [radix_eq_false lead, List.drop_zero, Bool.false_eq_true, if_false]
      omega
  | succ length =>
      simp only
      omega

theorem number_pos_of_point (cs : List Char) : 0 < (number ('.' :: cs)).1 := by
  have whole : digitCount Char.isDigit ('.' :: cs) = 0 := rfl
  have lead : radix ('.' :: cs) = (0, false) := rfl
  simp only [number, lead, List.drop_zero, Bool.false_eq_true, if_false, whole, Nat.add_zero,
    fractionLength]
  omega

theorem lexeme_pos (c : Char) (cs : List Char) : 0 < (lexeme c cs).2 := by
  unfold lexeme
  split
  case isTrue => exact Nat.add_pos_left Nat.zero_lt_one _
  split
  case isTrue digit => exact number_pos_of_isDigit digit cs
  split
  case isTrue => exact Nat.add_pos_left Nat.zero_lt_one _
  split
  case isTrue => exact Nat.add_pos_left Nat.zero_lt_one _
  split
  case isTrue => exact Nat.add_pos_left Nat.zero_lt_one _
  split
  case isTrue point =>
    rw [Bool.and_eq_true, decide_eq_true_eq] at point
    rw [point.1]
    exact number_pos_of_point cs
  case isFalse => exact Nat.zero_lt_one

/-- Tokens stand at ascending places from `least` on, and the last of them is the end of
the file. -/
structure AreInOrder (least : Nat) (tokens : List Token) : Prop where
  ascending : tokens.Pairwise fun t u => t.pos.offset < u.pos.offset
  least_le : ∀ t ∈ tokens, least ≤ t.pos.offset
  ends : tokens.getLast?.map Token.kind = some .eof

namespace AreInOrder

variable {least : Nat} {tokens : List Token}

theorem eof (pos : Position) : AreInOrder pos.offset [⟨.eof, [], pos⟩] where
  ascending := List.pairwise_singleton _ _
  least_le _ member := Nat.le_of_eq (congrArg (·.pos.offset) (List.mem_singleton.mp member).symm)
  ends := rfl

theorem mono {least' : Nat} (inOrder : AreInOrder least tokens) (le : least' ≤ least) :
    AreInOrder least' tokens :=
  { inOrder with least_le := fun t member => Nat.le_trans le (inOrder.least_le t member) }

theorem cons {t : Token} (inOrder : AreInOrder least tokens) (before : t.pos.offset < least) :
    AreInOrder t.pos.offset (t :: tokens) where
  ascending := List.pairwise_cons.mpr
    ⟨fun u member => Nat.lt_of_lt_of_le before (inOrder.least_le u member), inOrder.ascending⟩
  least_le u member := by
    rcases List.mem_cons.mp member with rfl | later
    · exact Nat.le_refl _
    · exact Nat.le_trans (Nat.le_of_lt before) (inOrder.least_le u later)
  ends := by
    rcases Option.map_eq_some_iff.mp inOrder.ends with ⟨last, found, eof⟩
    rw [List.getLast?_cons, found]
    exact congrArg some eof

theorem suffix {tokens' : List Token} (inOrder : AreInOrder least tokens)
    (behind : tokens' <:+ tokens) (some : tokens' ≠ []) : AreInOrder least tokens' where
  ascending := inOrder.ascending.sublist behind.sublist
  least_le t member := inOrder.least_le t (behind.subset member)
  ends := by
    rcases behind with ⟨front, rfl⟩
    rw [← List.getLast?_append_of_ne_nil front some]
    exact inOrder.ends

end AreInOrder

theorem areInOrder_scanWithin (limit : Nat) (pos : Position) (gs : List Glyph) :
    AreInOrder pos.offset (scanWithin limit pos gs) := by
  induction limit generalizing pos gs with
  | zero =>
      rw [scanWithin]
      exact .eof _
  | succ limit ih =>
      cases gs with
      | nil =>
          rw [scanWithin]
          · exact .eof _
          · exact Nat.succ_ne_zero limit
      | cons g gs =>
          simp only [scanWithin]
          split
          · exact (ih _ _).mono (Nat.le_of_lt (pos.offset_lt_next g))
          split
          · exact (ih _ _).mono (Position.offset_le_foldl _ pos)
          refine AreInOrder.cons (t := ⟨_, _, pos⟩) (ih _ _) (Position.offset_lt_foldl ?_ pos)
          have some := lexeme_pos g.toChar (gs.map Glyph.toChar)
          simpa using Nat.ne_of_gt some

theorem exists_areInOrder_scan (file source : Text) :
    ∃ least, AreInOrder least (scan file source) := by
  unfold scan
  simp only
  split
  · exact ⟨_, .eof _⟩
  · split
    · exact ⟨_, areInOrder_scanWithin _ _ _⟩
    · exact ⟨_, areInOrder_scanWithin _ _ _⟩

end Token

/-! ## Productions -/

/-- There is something to choose from in the expression, and something in every choice. -/
def Expression.IsFilled (e : Expression) : Prop :=
  e.choices ≠ [] ∧ ∀ alternative ∈ e.choices, alternative.terms ≠ []

/-- What reading makes sure of.  No two productions have the same name or stand at the same
place, and there are neither empty alternatives nor bodies without any. -/
structure AreParsed (all : List Production) : Prop where
  names : (all.map Production.name).Nodup
  offsets : (all.map (·.pos.offset)).Nodup
  filled : ∀ p ∈ all, ∀ body, p.body = some body → body.IsFilled

/-! ## Terms and alternatives -/

namespace Expression

/-- The expression is one of those that are neither sequences nor consist of alternatives. -/
def IsTerm (e : Expression) : Prop :=
  e.choices = [e] ∧ e.terms = [e]

/-- The expression is a choice on its own, with something in it. -/
def IsAlternative (e : Expression) : Prop :=
  e.choices = [e] ∧ e.terms ≠ []

theorem isAlternative_ofTerms (pos : Position) {ts : List Expression} (some : ts ≠ [])
    (each : ∀ t ∈ ts, t.IsTerm) : (ofTerms pos ts).IsAlternative := by
  match ts with
  | [] => exact absurd rfl some
  | [t] =>
      rcases each t List.mem_cons_self with ⟨choices, terms⟩
      refine ⟨choices, ?_⟩
      rw [ofTerms, terms]
      exact List.cons_ne_nil _ _
  | t :: u :: ts => exact ⟨rfl, List.cons_ne_nil _ _⟩

theorem isFilled_ofAlternatives {es : List Expression} (some : es ≠ [])
    (each : ∀ e ∈ es, e.IsAlternative) : (ofAlternatives es).IsFilled := by
  have choices : (ofAlternatives es).choices = es := by
    match es with
    | [] => exact absurd rfl some
    | [e] => exact (each e List.mem_cons_self).1
    | e :: e' :: es => rfl
  rw [IsFilled, choices]
  exact ⟨some, fun e member => (each e member).2⟩

end Expression

namespace Reader

variable {r : Reader}

theorem isTerm_readTokenOrRange (r : Reader) : r.readTokenOrRange.1.IsTerm := by
  unfold readTokenOrRange
  simp only
  split <;> exact ⟨rfl, rfl⟩

theorem isTerm_of_readTerm {fuel : Nat} {t : Expression}
    (found : (readTerm fuel r).1 = some t) : t.IsTerm := by
  cases fuel with
  | zero => cases found
  | succ fuel =>
      unfold readTerm at found
      split at found
      · cases found
        exact ⟨rfl, rfl⟩
      · cases found
        exact r.isTerm_readTokenOrRange
      · cases found
        exact r.isTerm_readTokenOrRange
      · split at found
        · cases found
        · cases found
          exact ⟨rfl, rfl⟩
      · cases found

theorem isTerm_of_mem_readTerms {fuel : Nat} {t : Expression}
    (member : t ∈ (readTerms fuel r).1) : t.IsTerm := by
  induction fuel generalizing r with
  | zero => cases member
  | succ fuel ih =>
      unfold readTerms at member
      split at member
      · cases member
      · rename_i first _ found
        rcases List.mem_cons.mp member with rfl | later
        · exact isTerm_of_readTerm (congrArg Prod.fst found)
        · exact ih later

/-- There is something in every alternative, or there is a complaint. -/
theorem isAlternative_of_readAlternatives {fuel : Nat}
    (none : (readAlternatives fuel r).2.complaints = []) :
    ∀ e ∈ (readAlternatives fuel r).1, e.IsAlternative := by
  induction fuel generalizing r with
  | zero => exact fun _ nothing => absurd nothing List.not_mem_nil
  | succ fuel ih =>
      have first : (if (readTerms fuel r).1.isEmpty then
          (readTerms fuel r).2.complain (.expected .term (readTerms fuel r).2.current)
          else (readTerms fuel r).2).complaints = [] →
          (Expression.ofTerms (readTerms fuel r).2.current.pos
            (readTerms fuel r).1).IsAlternative := by
        intro clean
        refine Expression.isAlternative_ofTerms _ (fun empty => ?_)
          fun t member => isTerm_of_mem_readTerms member
        rw [empty] at clean
        cases clean
      unfold readAlternatives at none ⊢
      simp only at none ⊢
      generalize (if (readTerms fuel r).1.isEmpty then _ else _) = r' at first none ⊢
      split at none
      case isTrue more =>
        rw [if_pos more]
        have clean := ((reaches_advance _).trans
          ((reaches_readAlternatives fuel).2.2 _)).no_complaints none
        exact List.forall_mem_cons.mpr ⟨first clean, ih none⟩
      case isFalse last =>
        rw [if_neg last]
        exact List.forall_mem_singleton.mpr (first none)

theorem readAlternatives_ne_nil (fuel : Nat) (r : Reader) :
    (readAlternatives (fuel + 1) r).1 ≠ [] := by
  unfold readAlternatives
  simp only
  generalize (if (readTerms fuel r).1.isEmpty then _ else _) = r'
  split <;> exact List.cons_ne_nil _ _

theorem filled_of_readProduction (none : r.readProduction.2.complaints = []) {body : Expression}
    (written : r.readProduction.1.body = some body) : body.IsFilled := by
  unfold readProduction at none written
  simp only at none written
  split at written
  case isTrue => cases written
  case isFalse more =>
    rw [if_neg more] at none
    cases written
    exact Expression.isFilled_ofAlternatives (readAlternatives_ne_nil _ _)
      (isAlternative_of_readAlternatives ((reaches_expect _ _).no_complaints none))

theorem readProduction_pos (r : Reader) : r.readProduction.1.pos = r.current.pos := by
  unfold readProduction
  simp only
  split <;> rfl

/-- The productions found so far stand before the tokens that are still to be read. -/
structure HasFound (r : Reader) (found : List Production) : Prop where
  parsed : AreParsed found
  inOrder : ∃ least, Token.AreInOrder least (r.current :: r.rest)
  before : ∀ p ∈ found, ∀ t ∈ r.current :: r.rest, p.pos.offset < t.pos.offset

/-- Behind a name there is at least the end of the file, and reading goes on there. -/
theorem suffix_of_readProduction {least : Nat}
    (inOrder : Token.AreInOrder least (r.current :: r.rest)) (named : r.current.kind = .ident) :
    r.readProduction.2.current :: r.readProduction.2.rest <:+ r.rest := by
  have reaches := r.reaches_readProduction.tokens
  unfold expect at reaches
  rw [if_pos named] at reaches
  unfold advance at reaches
  split at reaches
  case h_1 last =>
    have ends := inOrder.ends
    rw [last] at ends
    cases named.symm.trans (Option.some.inj ends)
  case h_2 next rest more =>
    rw [more]
    exact reaches

/-- Another production with a new name is found behind those that there are. -/
theorem HasFound.step {found : List Production} (hasFound : r.HasFound found)
    (none : r.readProduction.2.complaints = [])
    (new : ∀ p ∈ found, p.name ≠ r.readProduction.1.name) :
    r.readProduction.2.HasFound (found ++ [r.readProduction.1]) := by
  rcases hasFound.inOrder with ⟨least, inOrder⟩
  have behind := suffix_of_readProduction inOrder (kind_of_readProduction none)
  have later : r.readProduction.2.current :: r.readProduction.2.rest <:+ r.current :: r.rest :=
    behind.trans (List.suffix_cons _ _)
  have offset : r.readProduction.1.pos.offset = r.current.pos.offset :=
    congrArg Position.offset r.readProduction_pos
  have before : ∀ p ∈ found, p.pos.offset < r.readProduction.1.pos.offset :=
    fun p member => offset ▸ hasFound.before p member r.current List.mem_cons_self
  refine ⟨⟨?_, ?_, fun p member => ?_⟩, ⟨least, inOrder.suffix later (List.cons_ne_nil _ _)⟩,
    fun p member t among => ?_⟩
  · rw [List.map_append, List.nodup_append]
    refine ⟨hasFound.parsed.names, List.pairwise_singleton _ _, fun name old name' last => ?_⟩
    rcases List.mem_map.mp old with ⟨p, member, rfl⟩
    rw [List.mem_singleton.mp last]
    exact new p member
  · rw [List.map_append, List.nodup_append]
    refine ⟨hasFound.parsed.offsets, List.pairwise_singleton _ _, fun place old place' last => ?_⟩
    rcases List.mem_map.mp old with ⟨p, member, rfl⟩
    rw [List.mem_singleton.mp last]
    exact Nat.ne_of_lt (before p member)
  · rcases List.mem_append.mp member with old | last
    · exact hasFound.parsed.filled p old
    · rw [List.mem_singleton.mp last]
      exact fun body => filled_of_readProduction none
  · rcases List.mem_append.mp member with old | last
    · exact hasFound.before p old t (later.subset among)
    · rw [List.mem_singleton.mp last, offset]
      exact (List.pairwise_cons.mp inOrder.ascending).1 t (behind.subset among)

theorem areParsed_of_readAll {fuel : Nat} {found : List Production} (hasFound : r.HasFound found)
    (none : (readAll fuel found r).2.complaints = []) : AreParsed (readAll fuel found r).1 := by
  induction fuel generalizing found r with
  | zero => exact hasFound.parsed
  | succ fuel ih =>
      unfold readAll at none ⊢
      split at none
      case isTrue done =>
        rw [if_pos done]
        exact hasFound.parsed
      case isFalse more =>
        rw [if_neg more]
        simp only at none ⊢
        split at none
        case isTrue again =>
          have complaints := (reaches_readAll ..).no_complaints none
          cases complaints
        case isFalse new =>
          rw [if_neg new]
          have clean := (reaches_readAll ..).no_complaints none
          exact ih (hasFound.step clean (by simpa using new)) none

end Reader

/-- The productions of a file that is read without complaint. -/
theorem areParsed_of_read {file source : Text} {all : List Production}
    (run : read file source = .ok all) : AreParsed all := by
  rcases Token.exists_areInOrder_scan file source with ⟨least, inOrder⟩
  have nothing : AreParsed [] := ⟨.nil, .nil, fun _ member => absurd member List.not_mem_nil⟩
  unfold read at run
  split at run
  · cases run
    exact nothing
  · rename_i current rest tokens
    simp only at run
    split at run
    case isFalse => cases run
    case isTrue none =>
      cases run
      refine Reader.areParsed_of_readAll ⟨nothing, ⟨least, tokens ▸ inOrder⟩, ?_⟩
        (List.isEmpty_iff.mp none)
      exact fun _ member => absurd member List.not_mem_nil

end Ebnf
end ParseForest
