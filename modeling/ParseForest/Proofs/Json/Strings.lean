import ParseForest.Proofs.Json.Basic
import ParseForest.Proofs.Text.Utf8

namespace ParseForest

/-!
# Strings read back

A string is written character by character, some of them as they are and some
escaped, and none of the ways to write a character runs into the next one.  So
what is read is the text character by character.
-/

namespace Text

/-- The characters of a text as a string, with U+FFFD for every stray byte. -/
def asString (text : Text) : String :=
  String.ofList text.chars

theorem chars_ofString (s : String) : (ofString s).chars = s.toList := by
  rw [ofString_eq_ofChars, chars_ofChars]

theorem json_ofString (s : String) :
    (ofString s).json = byte '"' :: (s.toList.flatMap jsonChar ++ [byte '"']) := by
  rw [json, chars_ofString]

theorem isUtf8_ofString (s : String) : (ofString s).isUtf8 = true := by
  rw [ofString_eq_ofChars]
  exact isUtf8_ofChars _

theorem chars_asString (text : Text) : (ofString text.asString).chars = text.chars := by
  rw [chars_ofString, asString, String.toList_ofList]

theorem json_asString (text : Text) : (ofString text.asString).json = text.json := by
  rw [json, chars_asString, json]

theorem ofString_asString {text : Text} (valid : text.isUtf8 = true) :
    ofString text.asString = text := by
  rw [ofString_eq_ofChars, asString, String.toList_ofList, ofChars_chars valid]

theorem isUtf8_ofHex (width n : Nat) : (ofHex width n).isUtf8 = true := by
  have ascii : ∀ n < 16, (hexDigit n).toNat < 128 := by decide
  induction width generalizing n with
  | zero => exact isUtf8_ofChars []
  | succ width ih =>
      have low : n % 16 < 16 := Nat.mod_lt n (by decide)
      exact isUtf8_append (ih _) (isUtf8_cons (ascii _ low) (isUtf8_ofChars []))

theorem isUtf8_jsonChar (c : Char) : (jsonChar c).isUtf8 = true := by
  unfold jsonChar
  split
  case h_8 =>
    split
    · exact isUtf8_append (isUtf8_ofString _) (isUtf8_ofHex 4 _)
    · exact isUtf8_encode c
  all_goals exact isUtf8_ofString _

theorem isUtf8_json (text : Text) : text.json.isUtf8 = true :=
  isUtf8_cons (by decide) (isUtf8_append (isUtf8_flatMap fun c _ => isUtf8_jsonChar c)
    (isUtf8_cons (by decide) (isUtf8_ofChars [])))

theorem length_ofHex (width n : Nat) : (ofHex width n).length = width := by
  induction width generalizing n with
  | zero => rfl
  | succ width ih => rw [ofHex, List.length_append, ih, List.length_singleton]

end Text

namespace Json

open Text (byte)

/-! ## Hexadecimal digits -/

theorem hexDigit?_hexDigit {n : Nat} (small : n < 16) : hexDigit? (Text.hexDigit n) = some n := by
  have all : ∀ n < 16, hexDigit? (Text.hexDigit n) = some n := by decide
  exact all n small

theorem hex?_append_hexDigit (digits : Text) (n : Nat) :
    hex? (digits ++ [Text.hexDigit (n % 16)]) =
      (hex? digits).map fun high => 16 * high + n % 16 := by
  have last := hexDigit?_hexDigit (Nat.mod_lt n (by decide : 0 < 16))
  rw [hex?, List.foldlM_append]
  simp only [List.foldlM_cons, List.foldlM_nil, last, Option.map_some]
  change ((hex? digits).bind fun high => some (16 * high + n % 16)) = _
  cases hex? digits <;> rfl

/-- Four digits are enough for a unit. -/
theorem hex?_ofHex {n : Nat} (small : n < 0x10000) : hex? (Text.ofHex 4 n) = some n := by
  simp only [Text.ofHex, hex?_append_hexDigit]
  refine congrArg some ?_
  dsimp only
  omega

/-! ## Units -/

theorem single_toNat (c : Char) : single c.toNat = String.utf8EncodeChar c := by
  rw [single, Text.scalar?_toNat c (Nat.zero_le _), Option.getD_some]

/-- The code of a character is no surrogate. -/
theorem paired?_toNat (c : Char) (low : Nat) : paired? c.toNat low = none := by
  have valid := c.valid
  change c.toNat < 0xD800 ∨ 0xDFFF < c.toNat ∧ c.toNat < 0x110000 at valid
  unfold paired?
  rw [if_neg (by omega)]

theorem assembled_unit (c : Char) (pieces : List Piece) :
    assembled (.unit c.toNat :: pieces) = String.utf8EncodeChar c ++ assembled pieces := by
  rcases pieces with _ | ⟨_ | low, pieces⟩
  · exact congrArg (· ++ _) (single_toNat c)
  · exact congrArg (· ++ _) (single_toNat c)
  · rw [assembled, paired?_toNat]
    exact congrArg (· ++ _) (single_toNat c)

/-! ## What a piece of text spells -/

theorem pieces?_quote (rest : Text) : pieces? (byte '"' :: rest) = some ([], rest) := by
  rw [pieces?.eq_def]
  exact if_pos rfl

/-- Inside a string the text is read as the bytes, whatever follows. -/
def Spells (text bytes : Text) : Prop :=
  ∃ pieces : List Piece,
    (∀ rest, pieces? (text ++ rest) = (pieces? rest).map (Prod.map (pieces ++ ·) id)) ∧
    ∀ more, assembled (pieces ++ more) = bytes ++ assembled more

theorem spells_nil : Spells [] [] := by
  refine ⟨[], fun rest => ?_, fun _ => rfl⟩
  rw [List.nil_append]
  cases pieces? rest <;> rfl

theorem Spells.append {text text' bytes bytes' : Text} (first : Spells text bytes)
    (second : Spells text' bytes') : Spells (text ++ text') (bytes ++ bytes') := by
  rcases first with ⟨pieces, read, spelled⟩
  rcases second with ⟨pieces', read', spelled'⟩
  refine ⟨pieces ++ pieces', fun rest => ?_, fun more => ?_⟩
  · rw [List.append_assoc, read, read', Option.map_map]
    congr 1
    funext result
    simp [Prod.map, List.append_assoc]
  · rw [List.append_assoc, spelled, spelled', List.append_assoc]

/-- The byte stands for itself inside a string. -/
def IsPlain (b : UInt8) : Prop :=
  b ≠ byte '"' ∧ b ≠ byte '\\' ∧ 0x20 ≤ b.toNat

theorem spells_byte {b : UInt8} (plain : IsPlain b) : Spells [b] [b] := by
  rcases plain with ⟨notQuote, notEscape, notControl⟩
  refine ⟨[.byte b], fun rest => ?_, fun more => rfl⟩
  rw [List.singleton_append, pieces?.eq_def]
  simp only [if_neg notQuote, if_neg notEscape, if_neg (Nat.not_lt.mpr notControl)]
  cases pieces? rest <;> rfl

theorem spells_bytes {bytes : Text} (plain : ∀ b ∈ bytes, IsPlain b) : Spells bytes bytes := by
  induction bytes with
  | nil => exact spells_nil
  | cons b bytes ih =>
      exact (spells_byte (plain b (List.mem_cons_self ..))).append
        (ih fun x member => plain x (List.mem_cons_of_mem b member))

theorem spells_letter {letter b : UInt8} (escaped : escapes.lookup letter = some b)
    (notUnit : letter ≠ byte 'u') : Spells [byte '\\', letter] [b] := by
  refine ⟨[.byte b], fun rest => ?_, fun more => rfl⟩
  have notQuote : byte '\\' ≠ byte '"' := by decide
  change pieces? (byte '\\' :: letter :: rest) = _
  rw [pieces?.eq_def]
  simp only [if_neg notQuote, if_true, if_neg notUnit, escaped]
  cases pieces? rest <;> rfl

theorem spells_unit {c : Char} (small : c.toNat < 0x10000) :
    Spells ("\\u" ++ Text.ofHex 4 c.toNat) (String.utf8EncodeChar c) := by
  refine ⟨[.unit c.toNat], fun rest => ?_, assembled_unit c⟩
  have value := hex?_ofHex small
  have size := Text.length_ofHex 4 c.toNat
  have notQuote : byte '\\' ≠ byte '"' := by decide
  match Text.ofHex 4 c.toNat, size, value with
  | [w, x, y, z], _, value =>
    change pieces? (byte '\\' :: byte 'u' :: w :: x :: y :: z :: rest) = _
    rw [pieces?.eq_def]
    simp only [if_neg notQuote, if_true, value]
    cases pieces? rest <;> rfl

/-- Every character is read where it is written. -/
theorem spells_jsonChar (c : Char) : Spells (Text.jsonChar c) (String.utf8EncodeChar c) := by
  unfold Text.jsonChar
  split
  case h_8 notQuote notEscape _ _ _ _ _ =>
    split
    case isTrue escaped =>
      refine spells_unit ?_
      simp only [Bool.or_eq_true, decide_eq_true_eq] at escaped
      have marks : '<'.toNat < 0x10000 ∧ '>'.toNat < 0x10000 ∧ '&'.toNat < 0x10000 := by decide
      rcases escaped with ((((low | rfl) | rfl) | rfl) | line) | paragraph
      all_goals omega
    case isFalse raw =>
      refine spells_bytes fun b member => ?_
      simp only [Bool.or_eq_true, decide_eq_true_eq, not_or] at raw
      by_cases ascii : c.toNat < 128
      · rw [Text.encode_ascii ascii, List.mem_singleton] at member
        have code : b.toNat = c.toNat := by
          rw [member]
          exact Text.toNat_ofNat_lt (by omega)
        have apart {d : Char} (other : c ≠ d) (small : (byte d).toNat = d.toNat) : b ≠ byte d :=
          fun same => other (Char.toNat_inj.mp (code.symm.trans (same ▸ small)))
        exact ⟨apart notQuote rfl, apart notEscape rfl, by omega⟩
      · have large := Text.le_of_mem_encode (Nat.le_of_not_lt ascii) member
        refine ⟨?_, ?_, by omega⟩
        all_goals
          rintro rfl
          exact absurd large (by decide)
  all_goals exact spells_letter (by decide) (by decide)

theorem spells_chars (cs : List Char) :
    Spells (cs.flatMap Text.jsonChar) (Text.ofChars cs) := by
  induction cs with
  | nil => exact spells_nil
  | cons c cs ih => exact (spells_jsonChar c).append ih

/-- A string is read back behind its opening quote. -/
theorem string?_json (s : String) (rest : Text) :
    ∃ body, (Text.ofString s).json = byte '"' :: body ∧
      string? (body ++ rest) = some (s, rest) := by
  refine ⟨_, rfl, ?_⟩
  rcases spells_chars (Text.ofString s).chars with ⟨pieces, read, spelled⟩
  have done := spelled []
  rw [List.append_nil, assembled, List.append_nil, Text.chars_ofString] at done
  rw [string?, List.append_assoc, read, List.singleton_append, pieces?_quote]
  change some (String.ofList (assembled (pieces ++ [])).chars, rest) = _
  rw [List.append_nil, done, Text.chars_ofChars, String.ofList_toList]

end Json
end ParseForest
