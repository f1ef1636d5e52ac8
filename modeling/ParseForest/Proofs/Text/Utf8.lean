import Mathlib.Data.List.Basic
import ParseForest.Text.Utf8

namespace ParseForest
namespace Text

/-!
# Well-formed UTF-8

The texts in which every byte belongs to a character are exactly those that spell some
characters, and they spell no others.  Everything else about well-formed texts follows
from this.
-/

theorem scalar?_toNat {least : Nat} (c : Char) (large : least ≤ c.toNat) :
    scalar? least c.toNat = some c := by
  have valid : c.toNat.isValidChar ∧ least ≤ c.toNat := ⟨c.valid, large⟩
  unfold scalar?
  rw [dif_pos valid]
  rfl

theorem toNat_of_scalar? {least n : Nat} {c : Char} (found : scalar? least n = some c) :
    c.toNat = n ∧ least ≤ n := by
  unfold scalar? at found
  by_cases valid : n.isValidChar ∧ least ≤ n
  · rw [dif_pos valid] at found
    rw [← Option.some.inj found]
    exact ⟨rfl, valid.2⟩
  · rw [dif_neg valid] at found
    cases found

theorem continuation?_eq_some {b : UInt8} {n : Nat} :
    continuation? b = some n ↔ b.toNat = n + 0x80 ∧ n < 0x40 := by
  unfold continuation?
  split
  case isTrue => simp; omega
  case isFalse => simp; omega

theorem char_toNat_lt (c : Char) : c.toNat < 0x110000 := by
  have valid := c.valid
  change c.val.toNat < 0x110000
  unfold UInt32.isValidChar Nat.isValidChar at valid
  omega

theorem toNat_ofNat_lt {n : Nat} (small : n < 256) : (UInt8.ofNat n).toNat = n :=
  Nat.mod_eq_of_lt small

theorem continuation?_ofNat {n : Nat} (small : n < 0x40) :
    continuation? (UInt8.ofNat (n + 128)) = some n :=
  continuation?_eq_some.mpr ⟨toNat_ofNat_lt (by omega), small⟩

theorem encode_eq (c : Char) :
    String.utf8EncodeChar c =
      if c.toNat ≤ 127 then [UInt8.ofNat c.toNat]
      else if c.toNat ≤ 2047 then
        [UInt8.ofNat (c.toNat / 64 % 32 + 192), UInt8.ofNat (c.toNat % 64 + 128)]
      else if c.toNat ≤ 65535 then
        [UInt8.ofNat (c.toNat / 4096 % 16 + 224), UInt8.ofNat (c.toNat / 64 % 64 + 128),
          UInt8.ofNat (c.toNat % 64 + 128)]
      else
        [UInt8.ofNat (c.toNat / 262144 % 8 + 240), UInt8.ofNat (c.toNat / 4096 % 64 + 128),
          UInt8.ofNat (c.toNat / 64 % 64 + 128), UInt8.ofNat (c.toNat % 64 + 128)] :=
  rfl

/-- A character is read where it has been spelled. -/
theorem leading?_encode (c : Char) (rest : Text) :
    ∃ b others, String.utf8EncodeChar c = b :: others ∧ leading? b (others ++ rest) = some c := by
  have limit := char_toNat_lt c
  have found {least n : Nat} (large : least ≤ c.toNat) (same : n = c.toNat) :
      scalar? least n = some c := same ▸ scalar?_toNat c large
  rw [encode_eq]
  split
  case isTrue one =>
    refine ⟨_, _, rfl, ?_⟩
    have first : (UInt8.ofNat c.toNat).toNat = c.toNat := toNat_ofNat_lt (by omega)
    simp only [leading?, first]
    rw [if_pos (by omega)]
    exact found (Nat.zero_le _) rfl
  case isFalse one =>
  split
  case isTrue two =>
    refine ⟨_, _, rfl, ?_⟩
    have first : (UInt8.ofNat (c.toNat / 64 % 32 + 192)).toNat = c.toNat / 64 % 32 + 192 :=
      toNat_ofNat_lt (by omega)
    change leading? (UInt8.ofNat (c.toNat / 64 % 32 + 192))
      (UInt8.ofNat (c.toNat % 64 + 128) :: _) = _
    simp only [leading?, first, continuation?_ofNat (Nat.mod_lt c.toNat (by decide : 0 < 64))]
    rw [if_neg (by omega), if_neg (by omega), if_pos (by omega)]
    exact found (by omega) (by omega)
  case isFalse two =>
  split
  case isTrue three =>
    refine ⟨_, _, rfl, ?_⟩
    have first : (UInt8.ofNat (c.toNat / 4096 % 16 + 224)).toNat = c.toNat / 4096 % 16 + 224 :=
      toNat_ofNat_lt (by omega)
    change leading? (UInt8.ofNat (c.toNat / 4096 % 16 + 224))
      (UInt8.ofNat (c.toNat / 64 % 64 + 128) :: UInt8.ofNat (c.toNat % 64 + 128) :: _) = _
    simp only [leading?, first, continuation?_ofNat (Nat.mod_lt _ (by decide : 0 < 64))]
    rw [if_neg (by omega), if_neg (by omega), if_neg (by omega), if_pos (by omega)]
    exact found (by omega) (by omega)
  case isFalse three =>
    refine ⟨_, _, rfl, ?_⟩
    have first : (UInt8.ofNat (c.toNat / 262144 % 8 + 240)).toNat = c.toNat / 262144 % 8 + 240 :=
      toNat_ofNat_lt (by omega)
    change leading? (UInt8.ofNat (c.toNat / 262144 % 8 + 240))
      (UInt8.ofNat (c.toNat / 4096 % 64 + 128) :: UInt8.ofNat (c.toNat / 64 % 64 + 128) ::
        UInt8.ofNat (c.toNat % 64 + 128) :: _) = _
    simp only [leading?, first, continuation?_ofNat (Nat.mod_lt _ (by decide : 0 < 64))]
    rw [if_neg (by omega), if_neg (by omega), if_neg (by omega), if_neg (by omega),
      if_pos (by omega)]
    exact found (by omega) (by omega)

/-- What is read as a character spells it. -/
theorem encode_of_leading? {b : UInt8} {rest : Text} {c : Char}
    (found : leading? b rest = some c) :
    ∃ others after, rest = others ++ after ∧ String.utf8EncodeChar c = b :: others := by
  have byte_eq {x : UInt8} {n : Nat} (same : n = x.toNat) : UInt8.ofNat n = x := by
    rw [same]
    exact UInt8.ofNat_toNat
  have limit := char_toNat_lt c
  unfold leading? at found
  dsimp only at found
  split at found
  case isTrue one =>
    rcases toNat_of_scalar? found with ⟨code, _⟩
    refine ⟨[], rest, rfl, ?_⟩
    rw [encode_eq, if_pos (by omega), byte_eq code]
  case isFalse one =>
  split at found
  case isTrue => cases found
  case isFalse notTail =>
  split at found
  case isTrue two =>
    split at found
    case h_2 => cases found
    case h_1 x after =>
    rcases Option.bind_eq_some_iff.mp found with ⟨m, tail, found⟩
    rcases continuation?_eq_some.mp tail with ⟨x_eq, m_lt⟩
    rcases toNat_of_scalar? found with ⟨code, least⟩
    refine ⟨[x], after, rfl, ?_⟩
    rw [encode_eq, if_neg (by omega), if_pos (by omega), byte_eq (x := b) (by omega),
      byte_eq (x := x) (by omega)]
  case isFalse two =>
  split at found
  case isTrue three =>
    split at found
    case h_2 => cases found
    case h_1 x y after =>
    rcases Option.bind_eq_some_iff.mp found with ⟨m, tail, found⟩
    rcases Option.bind_eq_some_iff.mp found with ⟨n, tail', found⟩
    rcases continuation?_eq_some.mp tail with ⟨x_eq, m_lt⟩
    rcases continuation?_eq_some.mp tail' with ⟨y_eq, n_lt⟩
    rcases toNat_of_scalar? found with ⟨code, least⟩
    refine ⟨[x, y], after, rfl, ?_⟩
    rw [encode_eq, if_neg (by omega), if_neg (by omega), if_pos (by omega),
      byte_eq (x := b) (by omega), byte_eq (x := x) (by omega), byte_eq (x := y) (by omega)]
  case isFalse three =>
  split at found
  case isFalse => cases found
  case isTrue four =>
    split at found
    case h_2 => cases found
    case h_1 x y z after =>
    rcases Option.bind_eq_some_iff.mp found with ⟨m, tail, found⟩
    rcases Option.bind_eq_some_iff.mp found with ⟨n, tail', found⟩
    rcases Option.bind_eq_some_iff.mp found with ⟨k, tail'', found⟩
    rcases continuation?_eq_some.mp tail with ⟨x_eq, m_lt⟩
    rcases continuation?_eq_some.mp tail' with ⟨y_eq, n_lt⟩
    rcases continuation?_eq_some.mp tail'' with ⟨z_eq, k_lt⟩
    rcases toNat_of_scalar? found with ⟨code, least⟩
    refine ⟨[x, y, z], after, rfl, ?_⟩
    rw [encode_eq, if_neg (by omega), if_neg (by omega), if_neg (by omega),
      byte_eq (x := b) (by omega), byte_eq (x := x) (by omega), byte_eq (x := y) (by omega),
      byte_eq (x := z) (by omega)]

/-! ## Texts that spell characters -/

theorem glyphs_encode (c : Char) (rest : Text) :
    glyphs (String.utf8EncodeChar c ++ rest) = .char c :: glyphs rest := by
  rcases leading?_encode c rest with ⟨b, others, encode, found⟩
  have size := String.length_utf8EncodeChar c
  rw [encode, List.length_cons] at size
  rw [encode, List.cons_append, glyphs, found]
  change Glyph.char c :: glyphs _ = _
  rw [← size, Nat.add_sub_cancel, List.drop_left]

theorem glyphs_ofChars (cs : List Char) : glyphs (ofChars cs) = cs.map .char := by
  induction cs with
  | nil => rw [ofChars, List.flatMap_nil, glyphs, List.map_nil]
  | cons c cs ih =>
      rw [ofChars, List.flatMap_cons, glyphs_encode, List.map_cons]
      exact congrArg _ ih

/-- The characters of a text that spells some are those. -/
theorem chars_ofChars (cs : List Char) : chars (ofChars cs) = cs := by
  unfold chars
  rw [glyphs_ofChars, List.map_map]
  exact List.map_id cs

theorem isUtf8_ofChars (cs : List Char) : isUtf8 (ofChars cs) = true := by
  unfold isUtf8
  rw [glyphs_ofChars, List.all_map]
  exact List.all_eq_true.mpr fun _ _ => rfl

/-- A well-formed text spells its characters. -/
theorem ofChars_chars {text : Text} (valid : text.isUtf8 = true) : ofChars text.chars = text := by
  unfold isUtf8 at valid
  unfold chars ofChars
  induction text using glyphs.induct with
  | case1 => rw [glyphs, List.map_nil, List.flatMap_nil]
  | case2 b rest c found ih =>
      rcases encode_of_leading? found with ⟨others, after, split, encode⟩
      have size := String.length_utf8EncodeChar c
      rw [encode, List.length_cons] at size
      have after_eq : rest.drop (c.utf8Size - 1) = after := by
        rw [split, ← size, Nat.add_sub_cancel, List.drop_left]
      rw [after_eq] at ih
      rw [glyphs, found] at valid ⊢
      dsimp only at valid ⊢
      rw [after_eq] at valid ⊢
      rw [List.all_cons, Bool.and_eq_true] at valid
      rw [List.map_cons, List.flatMap_cons, ih valid.2, split]
      exact congrArg (· ++ after) encode
  | case3 b rest stray ih =>
      rw [glyphs, stray] at valid
      cases valid

theorem isUtf8_iff {text : Text} : text.isUtf8 = true ↔ ∃ cs, text = ofChars cs := by
  constructor
  · intro valid
    exact ⟨_, (ofChars_chars valid).symm⟩
  · rintro ⟨cs, rfl⟩
    exact isUtf8_ofChars cs

theorem isUtf8_append {a b : Text} (first : a.isUtf8 = true) (second : b.isUtf8 = true) :
    (a ++ b).isUtf8 = true := by
  rcases isUtf8_iff.mp first with ⟨cs, rfl⟩
  rcases isUtf8_iff.mp second with ⟨ds, rfl⟩
  exact isUtf8_iff.mpr ⟨cs ++ ds, List.flatMap_append.symm⟩

theorem isUtf8_encode (c : Char) : isUtf8 (String.utf8EncodeChar c) = true :=
  isUtf8_iff.mpr ⟨[c], (List.flatMap_singleton ..).symm⟩

/-! ## Bytes -/

theorem encode_ascii {c : Char} (ascii : c.toNat < 128) :
    String.utf8EncodeChar c = [UInt8.ofNat c.toNat] := by
  rw [encode_eq]
  exact if_pos (Nat.le_of_lt_succ ascii)

theorem toNat_ofNat_of_ascii {n : Nat} (ascii : n < 128) : (Char.ofNat n).toNat = n := by
  have valid : n.isValidChar := Or.inl (Nat.lt_trans ascii (by decide))
  unfold Char.ofNat
  rw [dif_pos valid]
  rfl

theorem isUtf8_flatMap {α : Type} {f : α → Text} {xs : List α}
    (valid : ∀ x ∈ xs, (f x).isUtf8 = true) : isUtf8 (xs.flatMap f) = true := by
  induction xs with
  | nil => exact isUtf8_ofChars []
  | cons x xs ih =>
      rw [List.flatMap_cons]
      exact isUtf8_append (valid x (List.mem_cons_self ..))
        (ih fun y member => valid y (List.mem_cons_of_mem x member))

theorem isUtf8_of_ascii {text : Text} (ascii : ∀ b ∈ text, b.toNat < 128) :
    text.isUtf8 = true := by
  refine isUtf8_iff.mpr ⟨text.map fun b => Char.ofNat b.toNat, ?_⟩
  induction text with
  | nil => rfl
  | cons b rest ih =>
      have small : b.toNat < 128 := ascii b (List.mem_cons_self ..)
      have code := toNat_ofNat_of_ascii small
      have spelled := encode_ascii (code.symm ▸ small)
      rw [code, UInt8.ofNat_toNat] at spelled
      rw [List.map_cons, ofChars, List.flatMap_cons, spelled]
      exact congrArg (b :: ·) (ih fun x member => ascii x (List.mem_cons_of_mem b member))

theorem isUtf8_cons {b : UInt8} (ascii : b.toNat < 128) {text : Text}
    (valid : text.isUtf8 = true) : isUtf8 (b :: text) = true :=
  isUtf8_append (a := [b])
    (isUtf8_of_ascii fun _ member => (List.mem_singleton.mp member).symm ▸ ascii) valid

/-- The bytes of a character that is not in ASCII are not either. -/
theorem le_of_mem_encode {c : Char} (other : 128 ≤ c.toNat) {b : UInt8}
    (member : b ∈ String.utf8EncodeChar c) : 128 ≤ b.toNat := by
  have limit := char_toNat_lt c
  have large {n : Nat} (low : 128 ≤ n) (high : n < 256) (same : b = UInt8.ofNat n) :
      128 ≤ b.toNat := by
    rw [same, toNat_ofNat_lt high]
    exact low
  rw [encode_eq, if_neg (by omega)] at member
  split at member
  case isTrue =>
    simp only [List.mem_cons, List.not_mem_nil, or_false] at member
    rcases member with same | same
    all_goals exact large (by omega) (by omega) same
  case isFalse =>
    split at member
    case isTrue =>
      simp only [List.mem_cons, List.not_mem_nil, or_false] at member
      rcases member with same | same | same
      all_goals exact large (by omega) (by omega) same
    case isFalse =>
      simp only [List.mem_cons, List.not_mem_nil, or_false] at member
      rcases member with same | same | same | same
      all_goals exact large (by omega) (by omega) same

/-- The bytes of a character string spell its characters. -/
theorem ofString_eq_ofChars (s : String) : ofString s = ofChars s.toList := by
  change s.toByteArray.data.toList = _
  rw [← String.utf8Encode_toList]
  exact List.toList_data_toByteArray

end Text
end ParseForest
