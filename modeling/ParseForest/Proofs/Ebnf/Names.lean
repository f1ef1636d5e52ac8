import ParseForest.Ebnf.Rules
import ParseForest.Proofs.Grammar.Index
import ParseForest.Proofs.Splitter.Sentences
import ParseForest.Proofs.Text.Utf8

namespace ParseForest

/-!
# The names of productions

A name in a grammar file consists of letters, digits and underscores.  The reader
takes any token for the name of a production, but complains if it is not a name, and
complaints are never withdrawn.  So where reading succeeds every production has
a name, and where its productions are a grammar the heads of the rules are these names.
-/

/-- The text has neither spaces nor line feeds. -/
def Text.IsPlain (text : Text) : Prop :=
  byte ' ' ∉ text ∧ byte '\n' ∉ text

instance (text : Text) : Decidable text.IsPlain :=
  inferInstanceAs (Decidable (_ ∧ _))

/-! ## Bytes of a unit -/

/-- A byte that spells no character is not in ASCII. -/
theorem Text.le_of_stray {text : Text} {b : UInt8} (stray : Glyph.stray b ∈ text.glyphs) :
    128 ≤ b.toNat := by
  induction text using glyphs.induct with
  | case1 => simp [glyphs] at stray
  | case2 x rest c found ih =>
      rw [glyphs, found] at stray
      exact ih (by simpa using stray)
  | case3 x rest nothing ih =>
      rw [glyphs, nothing] at stray
      rcases List.mem_cons.mp stray with same | later
      · cases same
        by_contra small
        have code : b.toNat.isValidChar := Or.inl (by omega)
        have leads : leading? b rest = scalar? 0 b.toNat := if_pos (Nat.lt_of_not_le small)
        have spelled : scalar? 0 b.toNat = some (Char.ofNatAux b.toNat code) :=
          dif_pos ⟨code, Nat.zero_le _⟩
        cases nothing.symm.trans (leads.trans spelled)
      · exact ih later

/-- The only unit with an ASCII byte is the character of that code. -/
theorem Glyph.toChar_of_mem {text : Text} {g : Glyph} (among : g ∈ text.glyphs) {b : UInt8}
    (ascii : b.toNat < 128) (member : b ∈ g.bytes) : g.toChar.toNat = b.toNat := by
  cases g with
  | stray x =>
      have large := Text.le_of_stray among
      rw [List.mem_singleton.mp member] at ascii
      exact absurd ascii (Nat.not_lt_of_le large)
  | char c =>
      by_cases small : c.toNat < 128
      · have spelled : b ∈ String.utf8EncodeChar c := member
        rw [Text.encode_ascii small, List.mem_singleton] at spelled
        rw [spelled, Text.toNat_ofNat_lt (by omega)]
        rfl
      · exact absurd ascii (Nat.not_lt_of_le (Text.le_of_mem_encode (Nat.le_of_not_lt small) member))

namespace Ebnf

namespace Token

/-- If the token is a name, its text is plain. -/
def IsPlain (t : Token) : Prop :=
  t.kind = .ident → t.text.IsPlain

theorem startsName_of_lexeme {c : Char} {cs : List Char} {length : Nat}
    (found : lexeme c cs = (.ident, length)) :
    startsName c = true ∧ length = 1 + (cs.takeWhile continuesName).length := by
  unfold lexeme at found
  split at found
  case isTrue starts =>
    cases found
    exact ⟨starts, rfl⟩
  case isFalse =>
    repeat' split at found
    all_goals cases found

/-- The characters of a name go on with names. -/
theorem continuesName_of_lexeme {g : Glyph} {gs : List Glyph} {length : Nat}
    (found : lexeme g.toChar (gs.map Glyph.toChar) = (.ident, length)) {x : Glyph}
    (member : x ∈ (g :: gs).take length) : continuesName x.toChar = true := by
  rcases startsName_of_lexeme found with ⟨starts, rfl⟩
  rw [Nat.add_comm, List.take_succ_cons] at member
  rcases List.mem_cons.mp member with rfl | later
  · rw [continuesName, starts, Bool.true_or]
  · rw [List.takeWhile_map, List.length_map,
      ← List.prefix_iff_eq_take.mp (List.takeWhile_prefix _)] at later
    exact List.all_eq_true.mp List.all_takeWhile x later

theorem not_continuesName {c : Char} {n : Nat} (code : c.toNat = n)
    (blank : n = 32 ∨ n = 10) : continuesName c = false := by
  have same : c = ' ' ∨ c = '\n' := by
    rcases blank with rfl | rfl
    · exact Or.inl (Char.toNat_inj.mp code)
    · exact Or.inr (Char.toNat_inj.mp code)
  rcases same with rfl | rfl <;> rfl

/-- The token at the beginning of some units of a text is plain. -/
theorem isPlain_lexeme {text : Text} {g : Glyph} {gs : List Glyph} (units : g :: gs ⊆ text.glyphs)
    {kind : TokenKind} {length : Nat}
    (found : lexeme g.toChar (gs.map Glyph.toChar) = (kind, length)) (pos : Position) :
    IsPlain ⟨kind, (g :: gs).take length, pos⟩ := by
  rintro rfl
  have clear : ∀ b : UInt8, b.toNat = 32 ∨ b.toNat = 10 →
      b ∉ ((g :: gs).take length).flatMap Glyph.bytes := by
    intro b blank inText
    rcases List.mem_flatMap.mp inText with ⟨x, inSource, inUnit⟩
    have code := Glyph.toChar_of_mem (units (List.mem_of_mem_take inSource)) (by omega) inUnit
    have continues := continuesName_of_lexeme found inSource
    rw [not_continuesName code blank] at continues
    cases continues
  exact ⟨clear _ (Or.inl rfl), clear _ (Or.inr rfl)⟩

theorem isPlain_eof (pos : Position) : IsPlain ⟨.eof, [], pos⟩ := by
  intro named
  cases named

/-- The tokens of the units of a text are plain. -/
theorem isPlain_of_mem_scanWithin {text : Text} {limit : Nat} {pos : Position} {gs : List Glyph}
    (units : gs ⊆ text.glyphs) {t : Token} (member : t ∈ scanWithin limit pos gs) : t.IsPlain := by
  induction limit generalizing pos gs with
  | zero =>
      rw [scanWithin, List.mem_singleton] at member
      exact member ▸ isPlain_eof pos
  | succ limit ih =>
      cases gs with
      | nil =>
          rw [scanWithin, List.mem_singleton] at member
          · exact member ▸ isPlain_eof pos
          · exact Nat.succ_ne_zero limit
      | cons g gs =>
          simp only [scanWithin] at member
          split at member
          · exact ih (fun x later => units (List.mem_cons_of_mem g later)) member
          split at member
          · exact ih (fun x later => units (List.mem_of_mem_drop later)) member
          rcases List.mem_cons.mp member with rfl | later
          · exact isPlain_lexeme units rfl pos
          · exact ih (fun x more => units (List.mem_of_mem_drop more)) later

theorem isPlain_of_mem_scan {file source : Text} {t : Token} (member : t ∈ scan file source) :
    t.IsPlain := by
  unfold scan at member
  split at member
  · exact List.mem_singleton.mp member ▸ isPlain_eof _
  · rename_i g gs units
    split at member
    · exact isPlain_of_mem_scanWithin (fun x later => units ▸ List.mem_cons_of_mem g later) member
    · exact isPlain_of_mem_scanWithin (fun x later => units ▸ later) member

end Token

/-! ## Reading -/

namespace Reader

/-- What a reader comes to: it has passed over tokens and added complaints. -/
structure Reaches (r r' : Reader) : Prop where
  tokens : r'.current :: r'.rest <:+ r.current :: r.rest
  complaints : r.complaints <:+ r'.complaints

variable {r r' r'' : Reader}

theorem Reaches.refl (r : Reader) : r.Reaches r :=
  ⟨List.suffix_refl _, List.suffix_refl _⟩

theorem Reaches.trans (first : r.Reaches r') (second : r'.Reaches r'') : r.Reaches r'' :=
  ⟨second.tokens.trans first.tokens, first.complaints.trans second.complaints⟩

/-- Complaints are never withdrawn. -/
theorem Reaches.no_complaints (reaches : r.Reaches r') (none : r'.complaints = []) :
    r.complaints = [] :=
  List.suffix_nil.mp (none ▸ reaches.complaints)

theorem Reaches.isPlain (reaches : r.Reaches r')
    (plain : ∀ t ∈ r.current :: r.rest, t.IsPlain) : ∀ t ∈ r'.current :: r'.rest, t.IsPlain :=
  fun t member => plain t (reaches.tokens.subset member)

theorem reaches_advance (r : Reader) : r.Reaches r.advance := by
  rcases r with ⟨current, _ | ⟨next, rest⟩, complaints⟩
  · exact .refl _
  · exact ⟨List.suffix_cons _ _, List.suffix_refl _⟩

theorem reaches_complain (r : Reader) (c : Complaint) : r.Reaches (r.complain c) :=
  ⟨List.suffix_refl _, List.suffix_cons _ _⟩

theorem reaches_expect (r : Reader) (kind : TokenKind) : r.Reaches (r.expect kind) := by
  unfold expect
  split
  · exact r.reaches_advance
  · exact (r.reaches_complain _).trans (reaches_advance _)

/-- What is expected is there, or there is a complaint. -/
theorem kind_of_expect {kind : TokenKind} (none : (r.expect kind).complaints = []) :
    r.current.kind = kind := by
  unfold expect at none
  split at none
  case isTrue found => exact found
  case isFalse =>
    have some := (reaches_advance _).no_complaints none
    cases some

theorem reaches_readLiteral (r : Reader) : r.Reaches r.readLiteral.2 := by
  unfold readLiteral
  split
  · exact r.reaches_advance
  · exact r.reaches_advance
  · exact r.reaches_expect _

theorem reaches_readTokenOrRange (r : Reader) : r.Reaches r.readTokenOrRange.2 := by
  unfold readTokenOrRange
  simp only
  split
  · exact (r.reaches_readLiteral.trans (reaches_advance _)).trans (reaches_readLiteral _)
  · exact r.reaches_readLiteral

/-- Terms, sequences of them and alternatives are read by one recursion. -/
theorem reaches_readAlternatives (fuel : Nat) :
    (∀ r, Reaches r (readTerm fuel r).2) ∧ (∀ r, Reaches r (readTerms fuel r).2) ∧
      ∀ r, Reaches r (readAlternatives fuel r).2 := by
  induction fuel with
  | zero => exact ⟨.refl, .refl, .refl⟩
  | succ fuel ih =>
      rcases ih with ⟨term, terms, alternatives⟩
      refine ⟨fun r => ?_, fun r => ?_, fun r => ?_⟩
      · unfold readTerm
        split
        · exact r.reaches_advance
        · exact r.reaches_readTokenOrRange
        · exact r.reaches_readTokenOrRange
        · split
          · exact .refl r
          · exact (r.reaches_advance.trans (alternatives _)).trans (reaches_expect _ _)
        · exact .refl r
      · have first := term r
        unfold readTerms
        split
        · rename_i found
          rwa [found] at first
        · rename_i found
          rw [found] at first
          exact first.trans (terms _)
      · have first := terms r
        have checked : r.Reaches (if (readTerms fuel r).1.isEmpty then
            (readTerms fuel r).2.complain (.expected .term (readTerms fuel r).2.current)
            else (readTerms fuel r).2) := by
          split
          · exact first.trans (reaches_complain _ _)
          · exact first
        unfold readAlternatives
        simp only
        generalize (if (readTerms fuel r).1.isEmpty then _ else _) = r' at checked ⊢
        split
        · exact (checked.trans (reaches_advance _)).trans (alternatives _)
        · exact checked

theorem reaches_readProduction (r : Reader) :
    (r.expect .ident).Reaches r.readProduction.2 := by
  unfold readProduction
  simp only
  split
  · exact (reaches_expect _ _).trans (reaches_expect _ _)
  · exact ((reaches_expect _ _).trans ((reaches_readAlternatives _).2.2 _)).trans (reaches_expect _ _)

theorem readProduction_name (r : Reader) : r.readProduction.1.name = r.current.text := by
  unfold readProduction
  simp only
  split <;> rfl

/-- A production that is read without complaint has a name. -/
theorem kind_of_readProduction (none : r.readProduction.2.complaints = []) :
    r.current.kind = .ident :=
  kind_of_expect (r.reaches_readProduction.no_complaints none)

theorem reaches_readAll (fuel : Nat) (found : List Production) (r : Reader) :
    r.Reaches (readAll fuel found r).2 := by
  induction fuel generalizing found r with
  | zero => exact .refl r
  | succ fuel ih =>
      have first := (r.reaches_expect .ident).trans r.reaches_readProduction
      unfold readAll
      split
      · exact .refl r
      simp only
      split
      · exact (first.trans (reaches_complain _ _)).trans (ih _ _)
      · exact first.trans (ih _ _)

/-- The productions of a file that is read without complaint have plain names. -/
theorem plain_of_readAll {fuel : Nat} {found : List Production}
    (plain : ∀ t ∈ r.current :: r.rest, t.IsPlain)
    (names : ∀ p ∈ found, p.name.IsPlain)
    (none : (readAll fuel found r).2.complaints = []) {p : Production}
    (member : p ∈ (readAll fuel found r).1) : p.name.IsPlain := by
  induction fuel generalizing found r with
  | zero => exact names p member
  | succ fuel ih =>
      unfold readAll at none member
      split at none
      case isTrue done =>
        rw [if_pos done] at member
        exact names p member
      case isFalse more =>
        rw [if_neg more] at member
        have first := (r.reaches_expect .ident).trans r.reaches_readProduction
        have plain' := first.isPlain plain
        simp only at none member
        split at none
        case isTrue again =>
          rw [if_pos again] at member
          exact ih (r := r.readProduction.2.complain _) plain' names none member
        case isFalse new =>
          rw [if_neg new] at member
          refine ih plain' (fun q among => ?_) none member
          rcases List.mem_append.mp among with old | last
          · exact names q old
          · rw [List.mem_singleton.mp last, readProduction_name]
            exact plain r.current (List.mem_cons_self ..)
              (kind_of_readProduction ((reaches_readAll ..).no_complaints none))

end Reader

theorem plain_of_read {file source : Text} {found : List Production}
    (run : read file source = .ok found) {p : Production} (member : p ∈ found) :
    p.name.IsPlain := by
  unfold read at run
  split at run
  · cases run
    cases member
  · rename_i current rest tokens
    simp only at run
    split at run
    case isFalse => cases run
    case isTrue none =>
      cases run
      refine Reader.plain_of_readAll ?_ (fun _ nothing => absurd nothing List.not_mem_nil)
        (List.isEmpty_iff.mp none) member
      intro t among
      exact Token.isPlain_of_mem_scan (tokens ▸ among)

/-! ## Heads of rules -/

theorem exists_of_mapM {ε α β : Type} {f : α → Except ε β} {entries : List α} {results : List β}
    (ran : entries.mapM f = .ok results) {b : β} (member : b ∈ results) :
    ∃ a ∈ entries, f a = .ok b := by
  rcases Except.mapM_cases f entries with ⟨_, _, _, _, failed⟩ | ⟨results', ran', each⟩
  · cases failed.symm.trans ran
  · cases ran'.symm.trans ran
    rcases (List.forall₂_iff_get.mp each) with ⟨lengths, same⟩
    rcases List.mem_iff_get.mp member with ⟨⟨i, inside⟩, rfl⟩
    exact ⟨_, List.get_mem .., same i (lengths ▸ inside) inside⟩

theorem head_of_make {head : Symbol} {rhs : List Symbol} {r : Rule}
    (made : Rule.make head rhs = .ok r) : r.head = head := by
  unfold Rule.make at made
  split at made <;> cases made
  rfl

theorem head_of_rule {all : List Production} {p : Production} {alternative : Expression}
    {r : Rule} (made : p.rule all alternative = .ok r) : r.head = .nonterminal p.name := by
  unfold Production.rule at made
  cases symbols : alternative.terms.mapM (Expression.symbol all) with
  | error e =>
      rw [symbols] at made
      cases made
  | ok rhs =>
      simp only [symbols, bind, Except.bind] at made
      cases rule : Rule.make (.nonterminal p.name) rhs with
      | error e =>
          rw [rule] at made
          cases made
      | ok r' =>
          rw [rule] at made
          cases made
          exact head_of_make rule

/-- The head of a rule is the name of a production. -/
theorem exists_production {all : List Production} {d : Definition}
    (converted : convert all = .ok d) {r : Rule} (member : r ∈ d.grammar.rules) :
    ∃ p ∈ all, r.head = .nonterminal p.name := by
  unfold convert at converted
  split at converted
  · cases converted
  · rename_i first rest ordered
    cases ran : (first :: rest).mapM (Production.rules all) with
    | error e =>
        rw [ran] at converted
        cases converted
    | ok parts =>
        rw [ran] at converted
        cases converted
        rcases List.mem_flatten.mp member with ⟨part, among, inPart⟩
        rcases exists_of_mapM ran among with ⟨p, inOrder, rules⟩
        refine ⟨p, List.mem_mergeSort.mp (ordered ▸ inOrder), ?_⟩
        unfold Production.rules at rules
        split at rules
        · cases rules
        · rcases exists_of_mapM rules inPart with ⟨_, _, made⟩
          exact head_of_rule made

end Ebnf

/-- The labels of the grammar are plain. -/
def Grammar.HasPlainNames (g : Grammar) : Prop :=
  ∀ r ∈ g.rules, r.head.name.IsPlain

instance (g : Grammar) : Decidable g.HasPlainNames :=
  inferInstanceAs (Decidable (∀ r ∈ g.rules, _))

/-- The grammar is read from a file. -/
def Grammar.IsLoaded (g : Grammar) : Prop :=
  ∃ file source d, Ebnf.load file source = .ok d ∧ d.grammar = g

/-- The labels of a grammar file are plain. -/
theorem Grammar.IsLoaded.hasPlainNames {g : Grammar} (isLoaded : g.IsLoaded) :
    g.HasPlainNames := by
  rcases isLoaded with ⟨file, source, d, loaded, rfl⟩
  unfold Ebnf.load at loaded
  split at loaded
  · cases loaded
  · rename_i productions run
    split at loaded
    · cases loaded
    · rename_i definition converted
      cases loaded
      intro r member
      rcases Ebnf.exists_production converted member with ⟨p, among, head⟩
      rw [head]
      exact Ebnf.plain_of_read run among

end ParseForest
