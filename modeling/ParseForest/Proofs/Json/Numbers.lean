import ParseForest.Proofs.Json.Basic
import ParseForest.Proofs.Text.Utf8

namespace ParseForest

/-!
# Numbers read back

A number in decimal is a row of digits without leading zeros, whose value is the
number.  What is written behind it starts with no digit, so the row ends where
it should.
-/

namespace Json

open Text (byte)

/-! ## Rows of digits -/

theorem isDigit_digit {n : Nat} (small : n < 10) : isDigit (Text.digit n) = true := by
  have all : ∀ n < 10, isDigit (Text.digit n) = true := by decide
  exact all n small

theorem toNat_digit {n : Nat} (small : n < 10) : (Text.digit n).toNat - 48 = n := by
  have all : ∀ n < 10, (Text.digit n).toNat - 48 = n := by decide
  exact all n small

theorem natural_append_singleton (digits : Text) (b : UInt8) :
    natural (digits ++ [b]) = 10 * natural digits + (b.toNat - 48) := by
  rw [natural, List.foldl_append]
  rfl

theorem natural_ofNat (n : Nat) : natural (Text.ofNat n) = n := by
  induction n using Text.ofNat.induct with
  | case1 n small =>
      rw [Text.ofNat, if_pos small]
      exact (Nat.zero_add _).trans (toNat_digit small)
  | case2 n large ih =>
      have low : n % 10 < 10 := Nat.mod_lt n (by decide)
      rw [Text.ofNat, if_neg large, natural_append_singleton, ih, toNat_digit low]
      omega

theorem isDigit_of_mem_ofNat {n : Nat} {b : UInt8} (member : b ∈ Text.ofNat n) :
    isDigit b = true := by
  induction n using Text.ofNat.induct with
  | case1 n small =>
      rw [Text.ofNat, if_pos small, List.mem_singleton] at member
      exact member ▸ isDigit_digit small
  | case2 n large ih =>
      rw [Text.ofNat, if_neg large, List.mem_append, List.mem_singleton] at member
      rcases member with front | last
      · exact ih front
      · exact last ▸ isDigit_digit (Nat.mod_lt n (by decide))

theorem ofNat_ne_nil (n : Nat) : Text.ofNat n ≠ [] := by
  rw [Text.ofNat]
  split
  · exact List.cons_ne_nil _ _
  · exact List.append_ne_nil_of_right_ne_nil _ (List.cons_ne_nil _ _)

/-- Only zero starts with the digit zero. -/
theorem eq_zero_of_head?_ofNat {n : Nat} (zero : (Text.ofNat n).head? = some (byte '0')) :
    n = 0 := by
  induction n using Text.ofNat.induct with
  | case1 n small =>
      rw [Text.ofNat, if_pos small, List.head?_cons, Option.some.injEq] at zero
      have value := toNat_digit small
      rw [zero] at value
      exact value.symm
  | case2 n large ih =>
      rw [Text.ofNat, if_neg large, List.head?_append] at zero
      have nonempty := ofNat_ne_nil (n / 10)
      cases front : Text.ofNat (n / 10) with
      | nil => exact absurd front nonempty
      | cons d digits =>
          rw [front] at zero ih
          have tens := ih zero
          omega

/-! ## Reading rows of digits -/

/-- The text does not go on with a digit. -/
def NoDigit (text : Text) : Prop :=
  ∀ b rest, text = b :: rest → isDigit b = false

theorem digits?_append {digits rest : Text} (nonempty : digits ≠ [])
    (valid : ∀ b ∈ digits, isDigit b = true) (ended : NoDigit rest) :
    digits? (digits ++ rest) = some (digits, rest) := by
  have front : rest.takeWhile isDigit = [] := by
    cases rest with
    | nil => rfl
    | cons b rest => rw [List.takeWhile_cons_of_neg (by simp [ended b rest rfl])]
  have back : rest.dropWhile isDigit = rest := by
    cases rest with
    | nil => rfl
    | cons b rest => rw [List.dropWhile_cons_of_neg (by simp [ended b rest rfl])]
  rw [digits?, List.takeWhile_append_of_pos valid, List.dropWhile_append_of_pos valid, front,
    List.append_nil, back]
  cases digits with
  | nil => exact absurd rfl nonempty
  | cons d digits => rfl

theorem digits?_ofNat (n : Nat) {rest : Text} (ended : NoDigit rest) :
    digits? (Text.ofNat n ++ rest) = some (Text.ofNat n, rest) :=
  digits?_append (ofNat_ne_nil n) (fun _ => isDigit_of_mem_ofNat) ended

theorem whole?_ofNat (n : Nat) {rest : Text} (ended : NoDigit rest) :
    whole? (Text.ofNat n ++ rest) = some (Text.ofNat n, rest) := by
  rw [whole?, digits?_ofNat n ended]
  refine if_neg ?_
  rintro ⟨zero, long⟩
  rw [eq_zero_of_head?_ofNat zero, Text.ofNat, if_pos (by decide)] at long
  exact absurd long (by decide)

/-! ## Signs -/

theorem exists_ofNat (n : Nat) :
    ∃ d digits, Text.ofNat n = d :: digits ∧ isDigit d = true := by
  have valid (b : UInt8) (member : b ∈ Text.ofNat n) := isDigit_of_mem_ofNat member
  cases front : Text.ofNat n with
  | nil => exact absurd front (ofNat_ne_nil n)
  | cons d digits => exact ⟨d, digits, rfl, valid d (front ▸ List.mem_cons_self ..)⟩

/-- An integer starts with a digit or with its sign. -/
theorem exists_ofInt (i : Int) :
    ∃ b others, Text.ofInt i = b :: others ∧ (b = byte '-' ∨ isDigit b = true) := by
  cases i with
  | ofNat n =>
      rcases exists_ofNat n with ⟨d, digits, front, valid⟩
      exact ⟨d, digits, front, Or.inr valid⟩
  | negSucc n => exact ⟨_, _, rfl, Or.inl rfl⟩

theorem isUtf8_ofInt (i : Int) : (Text.ofInt i).isUtf8 = true := by
  have digits (n : Nat) : (Text.ofNat n).isUtf8 = true := by
    refine Text.isUtf8_of_ascii fun b member => ?_
    have valid := isDigit_of_mem_ofNat member
    simp only [isDigit, Bool.and_eq_true, decide_eq_true_eq] at valid
    omega
  cases i with
  | ofNat n => exact digits n
  | negSucc n => exact Text.isUtf8_cons (by decide) (digits (n + 1))

/-- Behind its sign an integer is a natural number. -/
theorem minus_ofInt (i : Int) (rest : Text) :
    ∃ negative, minus (Text.ofInt i ++ rest) = (negative, Text.ofNat i.natAbs ++ rest) ∧
      signed negative i.natAbs = i := by
  cases i with
  | ofNat n =>
      rcases exists_ofNat n with ⟨d, digits, front, valid⟩
      have unsigned : byte '-' ≠ d := by
        rintro rfl
        exact absurd valid (by decide)
      refine ⟨false, ?_, rfl⟩
      change minus (Text.ofNat n ++ rest) = (false, Text.ofNat n ++ rest)
      rw [front, List.cons_append, minus, Text.dropLead?, if_neg unsigned]
  | negSucc n =>
      refine ⟨true, ?_, rfl⟩
      rw [Text.ofInt, List.cons_append, minus, Text.dropLead?, if_pos rfl]
      rfl

/-! ## Numbers -/

/-- What may follow a value: nothing, or the rest of what encloses it. -/
def Stops (text : Text) : Prop :=
  text = [] ∨ ∃ b rest, text = b :: rest ∧ (b = byte ',' ∨ b = byte '\n')

theorem Stops.noDigit {text : Text} (stops : Stops text) : NoDigit text := by
  rcases stops with rfl | ⟨b, rest, rfl, rfl | rfl⟩
  · rintro b rest ⟨⟩
  · rintro b rest ⟨⟩
    decide
  · rintro b rest ⟨⟩
    decide

theorem Stops.noDigit_scale {rest : Text} (stops : Stops rest) (exponent : Int) :
    NoDigit (scale exponent ++ rest) := by
  unfold scale
  split
  · exact stops.noDigit
  · rintro b rest ⟨⟩
    decide

theorem Stops.fraction?_scale {rest : Text} (stops : Stops rest) (exponent : Int) :
    fraction? (scale exponent ++ rest) = some ([], scale exponent ++ rest) := by
  unfold scale
  split
  · rcases stops with rfl | ⟨b, rest, rfl, rfl | rfl⟩ <;> rfl
  · rfl

theorem Stops.exponent?_scale {rest : Text} (stops : Stops rest) (exponent : Int) :
    exponent? (scale exponent ++ rest) = some (exponent, rest) := by
  unfold scale
  split
  case isTrue zero =>
    rw [zero]
    rcases stops with rfl | ⟨b, rest, rfl, rfl | rfl⟩ <;> rfl
  case isFalse =>
    rcases minus_ofInt exponent rest with ⟨negative, sign, value⟩
    have unsigned : Text.dropLead? [byte '+'] (Text.ofInt exponent ++ rest) = none := by
      rcases exists_ofInt exponent with ⟨b, others, front, first⟩
      rw [front, List.cons_append, Text.dropLead?, if_neg]
      rintro rfl
      exact absurd first (by decide)
    rw [List.cons_append, exponent?, if_pos (Or.inl rfl), unsigned]
    simp only [sign, digits?_ofNat _ stops.noDigit]
    change some (signed negative (natural (Text.ofNat exponent.natAbs)), rest) = _
    rw [natural_ofNat, value]

/-- A number is read back, whatever may follow it. -/
theorem number?_append (mantissa exponent : Int) {rest : Text} (stops : Stops rest) :
    number? (Text.ofInt mantissa ++ (scale exponent ++ rest)) =
      some (.number mantissa exponent, rest) := by
  rcases minus_ofInt mantissa (scale exponent ++ rest) with ⟨negative, sign, value⟩
  rw [number?, sign]
  change ((whole? _).bind fun _ => _) = _
  rw [whole?_ofNat _ (stops.noDigit_scale exponent), Option.bind_some]
  change ((fraction? _).bind fun _ => _) = _
  rw [stops.fraction?_scale, Option.bind_some]
  change ((exponent? _).bind fun _ => _) = _
  rw [stops.exponent?_scale, Option.bind_some]
  change some (Json.number (signed negative (natural (Text.ofNat mantissa.natAbs ++ [])))
    (exponent - 0), rest) = _
  rw [List.append_nil, natural_ofNat, value, Int.sub_zero]

end Json
end ParseForest
