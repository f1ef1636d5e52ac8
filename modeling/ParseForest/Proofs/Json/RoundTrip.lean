import ParseForest.Proofs.Json.Numbers
import ParseForest.Proofs.Json.Strings

namespace ParseForest
namespace Json

open ParseForest.Tree (jsonLine)
open Text (byte)

/-!
# Values read back

Every value is read back from what is written for it, whatever stands behind:
a bracket closes what it opened, and behind any other value comes a comma or
the end of a line.  So the written form determines the value.
-/

/-! ## White space -/

theorem skip_line (level : Nat) (text : Text) : skip (jsonLine level ++ text) = skip text := by
  refine List.dropWhile_append_of_pos fun b member => ?_
  rcases List.mem_cons.mp member with rfl | blank
  · decide
  · rw [List.eq_of_mem_replicate blank]
    decide

theorem skip_cons {b : UInt8} (solid : isSpace b = false) (rest : Text) :
    skip (b :: rest) = b :: rest :=
  List.dropWhile_cons_of_neg (by simp [solid])

theorem value?_congr {text text' : Text} (same : skip text = skip text') (limit : Nat) :
    value? limit text = value? limit text' := by
  cases limit with
  | zero => rfl
  | succ limit => simp only [value?, same]

theorem member?_line (read : Text → Option (Json × Text)) (level : Nat) (text : Text) :
    member? read (jsonLine level ++ text) = member? read text := by
  unfold member?
  rw [skip_line]

theorem stops_line (level : Nat) (text : Text) : Stops (jsonLine level ++ text) :=
  Or.inr ⟨_, _, rfl, Or.inr rfl⟩

/-! ## What stands between brackets -/

theorem following_cons (level : Nat) (x : Text) (xs : List Text) :
    following level (x :: xs) = byte ',' :: (jsonLine level ++ (x ++ following level xs)) := by
  rw [following, List.flatMap_cons, List.cons_append, List.append_assoc]
  rfl

theorem enclosed_cons (opening closing : UInt8) (level : Nat) (x : Text) (xs : List Text) :
    enclosed opening closing level (x :: xs) = opening :: (jsonLine (level + 1) ++
      (x ++ (following (level + 1) xs ++ (jsonLine level ++ [closing])))) := by
  simp only [enclosed, List.append_assoc]

section

variable {α : Type} {item? : Text → Option (α × Text)} {print : α → Text} {level : Nat}
  {closing : UInt8}

theorem items?_last {x : α} {text after rest : Text} (found : item? text = some (x, after))
    (closed : skip after = closing :: rest) (limit : Nat) :
    items? item? closing (limit + 1) text = some ([x], rest) := by
  simp [items?, found, closed]

theorem items?_more {x : α} {xs : List α} {text after rest rest' : Text} {limit : Nat}
    (found : item? text = some (x, after)) (comma : skip after = byte ',' :: rest)
    (notComma : closing ≠ byte ',') (more : items? item? closing limit rest = some (xs, rest')) :
    items? item? closing (limit + 1) text = some (x :: xs, rest') := by
  simp [items?, found, comma, notComma.symm, more]

variable (item? print level) in
/-- Each of the items is read back behind the start of its line. -/
def ReadsEach (xs : List α) : Prop :=
  ∀ x ∈ xs, ∀ after, Stops after →
    item? (jsonLine (level + 1) ++ (print x ++ after)) = some (x, after)

theorem items?_append (solid : isSpace closing = false) (notComma : closing ≠ byte ',')
    (rest : Text) {xs : List α} : ∀ {x : α} {limit : Nat},
    ReadsEach item? print level (x :: xs) → xs.length < limit →
    items? item? closing limit (jsonLine (level + 1) ++ (print x ++
      (following (level + 1) (xs.map print) ++ (jsonLine level ++ closing :: rest)))) =
        some (x :: xs, rest) := by
  induction xs with
  | nil =>
      intro x limit reads enough
      rcases limit with _ | limit
      · cases enough
      · refine items?_last (reads x (List.mem_cons_self ..) _ (stops_line level _)) ?_ limit
        rw [skip_line, skip_cons solid]
  | cons y ys ih =>
      intro x limit reads enough
      rcases limit with _ | limit
      · cases enough
      · have others : ReadsEach item? print level (y :: ys) :=
          fun z member => reads z (List.mem_cons_of_mem x member)
        have next := ih others (Nat.lt_of_succ_lt_succ enough)
        rw [List.map_cons, following_cons, List.cons_append, List.append_assoc, List.append_assoc]
        exact items?_more (reads x (List.mem_cons_self ..) _ (Or.inr ⟨_, _, rfl, Or.inl rfl⟩))
          (skip_cons (by decide) _) notComma next

variable (closing) in
/-- Everything between two brackets is read, however many items there are. -/
theorem between?_enclosed (opening : UInt8) (solid : isSpace closing = false)
    (notComma : closing ≠ byte ',') {xs : List α} (reads : ReadsEach item? print level xs)
    (starts : ∀ x ∈ xs, ∃ b others, print x = b :: others ∧ isSpace b = false ∧ b ≠ closing)
    {limit : Nat} (enough : xs.length ≤ limit) (rest : Text) :
    ∃ body, enclosed opening closing level (xs.map print) = opening :: body ∧
      between? item? closing limit (body ++ rest) = some (xs, rest) := by
  cases xs with
  | nil =>
      refine ⟨[closing], rfl, ?_⟩
      rw [between?, List.singleton_append, skip_cons solid]
      exact if_pos rfl
  | cons x xs =>
      refine ⟨_, enclosed_cons opening closing level (print x) (xs.map print), ?_⟩
      rcases starts x (List.mem_cons_self ..) with ⟨b, others, front, solid', notClosing⟩
      have read := items?_append solid notComma rest reads enough
      simp only [between?, List.append_assoc, skip_line, List.singleton_append]
      rw [front, List.cons_append, skip_cons solid'] at *
      exact (if_neg notClosing).trans read

end

/-! ## Values -/

theorem length_le_following {level : Nat} {x : Text} {xs : List Text} (member : x ∈ xs) :
    x.length ≤ (following level xs).length := by
  induction xs with
  | nil => cases member
  | cons y ys ih =>
      simp only [following_cons, List.length_cons, List.length_append]
      rcases List.mem_cons.mp member with rfl | later
      · omega
      · have inside := ih later
        omega

theorem length_le_length_following (level : Nat) (xs : List Text) :
    xs.length ≤ (following level xs).length := by
  induction xs with
  | nil => exact Nat.le_refl 0
  | cons y ys ih =>
      simp only [following_cons, List.length_cons, List.length_append]
      omega

/-- There is room for the items and for each of them inside what encloses them. -/
theorem length_lt_enclosed (opening closing : UInt8) (level : Nat) (xs : List Text) :
    xs.length < (enclosed opening closing level xs).length ∧
      ∀ x ∈ xs, x.length < (enclosed opening closing level xs).length := by
  cases xs with
  | nil => exact ⟨Nat.zero_lt_succ _, fun x member => by cases member⟩
  | cons x xs =>
      have count := length_le_length_following (level + 1) xs
      simp only [enclosed_cons, List.length_cons, List.length_append]
      refine ⟨by omega, fun y member => ?_⟩
      rcases List.mem_cons.mp member with rfl | later
      · omega
      · have inside : y.length ≤ (following (level + 1) xs).length := length_le_following later
        omega

theorem ne_of_numeric {b c : UInt8} (numeric : b = byte '-' ∨ isDigit b = true)
    (other : ¬ (c = byte '-' ∨ isDigit c = true)) : b ≠ c := by
  rintro rfl
  exact other numeric

theorem isSpace_of_numeric {b : UInt8} (numeric : b = byte '-' ∨ isDigit b = true) :
    isSpace b = false := by
  simp only [isSpace, Bool.or_eq_false_iff, decide_eq_false_iff_not]
  exact ⟨⟨⟨ne_of_numeric numeric (by decide), ne_of_numeric numeric (by decide)⟩,
    ne_of_numeric numeric (by decide)⟩, ne_of_numeric numeric (by decide)⟩

/-- What is written for a value starts neither with white space nor with a
bracket that closes. -/
theorem exists_indentedAt (v : Json) (level : Nat) :
    ∃ b others, v.indentedAt level = b :: others ∧ isSpace b = false ∧ b ≠ byte ']' := by
  have brackets (opening closing : UInt8) (xs : List Text) :
      ∃ others, enclosed opening closing level xs = opening :: others := by
    cases xs <;> exact ⟨_, rfl⟩
  cases v with
  | null => exact ⟨_, _, rfl, by decide, by decide⟩
  | bool b => cases b <;> exact ⟨_, _, rfl, by decide, by decide⟩
  | number m e =>
      rcases exists_ofInt m with ⟨b, others, front, numeric⟩
      exact ⟨b, _, congrArg (· ++ scale e) front, isSpace_of_numeric numeric,
        ne_of_numeric numeric (by decide)⟩
  | string s => exact ⟨_, _, rfl, by decide, by decide⟩
  | array items =>
      rcases brackets (byte '[') (byte ']') (itemsAt (level + 1) items) with ⟨others, front⟩
      exact ⟨_, others, front, by decide, by decide⟩
  | object members =>
      rcases brackets (byte '\x7b') (byte '\x7d') (membersAt (level + 1) members) with
        ⟨others, front⟩
      exact ⟨_, others, front, by decide, by decide⟩

theorem member?_append {read : Text → Option (Json × Text)} {level : Nat} {v : Json}
    {after rest : Text}
    (inner : read (byte ' ' :: (v.indentedAt level ++ after)) = some (v, rest)) (name : String) :
    member? read (memberAt level (name, v) ++ after) = some ((name, v), rest) := by
  rcases string?_json name (byte ':' :: byte ' ' :: (v.indentedAt level ++ after)) with
    ⟨body, quoted, found⟩
  have written : memberAt level (name, v) ++ after =
      byte '"' :: (body ++ byte ':' :: byte ' ' :: (v.indentedAt level ++ after)) := by
    rw [memberAt, quoted]
    simp only [List.append_assoc, List.cons_append]
    rfl
  rw [written, member?, skip_cons (by decide)]
  change ((string? _).bind fun _ => _) = _
  rw [found]
  change ((read _).bind fun _ => _) = _
  rw [inner]
  rfl

theorem word?_numeric {b : UInt8} (numeric : b = byte '-' ∨ isDigit b = true) (rest : Text) :
    word? (b :: rest) = none := by
  have null : byte 'n' ≠ b := (ne_of_numeric numeric (by decide)).symm
  have true : byte 't' ≠ b := (ne_of_numeric numeric (by decide)).symm
  have false : byte 'f' ≠ b := (ne_of_numeric numeric (by decide)).symm
  have missed {c : UInt8} (other : c ≠ b) (word : Text) :
      Text.dropLead? (c :: word) (b :: rest) = none := if_neg other
  unfold word?
  change List.findSome? _ [(byte 'n' :: Text.ofString "ull", _),
    (byte 't' :: Text.ofString "rue", _), (byte 'f' :: Text.ofString "alse", _)] = _
  simp only [List.findSome?, missed null, missed true, missed false, Option.map_none]

theorem value?_number (m e : Int) {rest : Text} (stops : Stops rest) (limit : Nat) :
    value? (limit + 1) (Text.ofInt m ++ (scale e ++ rest)) = some (.number m e, rest) := by
  rcases exists_ofInt m with ⟨b, others, front, numeric⟩
  have read := number?_append m e stops
  rw [front, List.cons_append] at read ⊢
  rw [value?, skip_cons (isSpace_of_numeric numeric)]
  dsimp only
  rw [if_neg (ne_of_numeric numeric (by decide)), if_neg (ne_of_numeric numeric (by decide)),
    if_neg (ne_of_numeric numeric (by decide)), word?_numeric numeric]
  exact read

theorem value?_string (s : String) (rest : Text) (limit : Nat) :
    value? (limit + 1) ((Text.ofString s).json ++ rest) = some (.string s, rest) := by
  rcases string?_json s rest with ⟨body, quoted, found⟩
  rw [quoted, List.cons_append, value?, skip_cons (by decide)]
  change ((string? _).bind fun _ => _) = _
  rw [found]
  rfl

/-- An array is read back if its items are, with the limit for what is inside. -/
theorem value?_array {items : List Json} {level limit : Nat}
    (reads : ∀ v ∈ items, ∀ after, Stops after →
      value? limit (v.indentedAt (level + 1) ++ after) = some (v, after))
    (enough : items.length ≤ limit) (rest : Text) :
    value? (limit + 1) ((array items).indentedAt level ++ rest) = some (.array items, rest) := by
  have reads' : ReadsEach (value? limit) (indentedAt (level + 1)) level items := by
    intro v member after stops
    rw [value?_congr (skip_line _ _), reads v member after stops]
  rcases between?_enclosed (byte ']') (byte '[') (by decide) (by decide) reads'
    (fun v _ => v.exists_indentedAt (level + 1)) enough rest with ⟨body, written, found⟩
  rw [indentedAt, itemsAt_eq_map, written, List.cons_append, value?, skip_cons (by decide)]
  change ((between? _ _ _ _).bind fun _ => _) = _
  rw [found]
  rfl

/-- An object is read back if the values of its members are. -/
theorem value?_object {members : List (String × Json)} {level limit : Nat}
    (reads : ∀ m ∈ members, ∀ after, Stops after →
      value? limit (m.2.indentedAt (level + 1) ++ after) = some (m.2, after))
    (enough : members.length ≤ limit) (rest : Text) :
    value? (limit + 1) ((object members).indentedAt level ++ rest) =
      some (.object members, rest) := by
  have reads' : ReadsEach (member? (value? limit)) (memberAt (level + 1)) level members := by
    intro m member after stops
    rw [member?_line]
    refine member?_append ?_ m.1
    rw [value?_congr (List.dropWhile_cons_of_pos rfl), reads m member after stops]
  rcases between?_enclosed (byte '\x7d') (byte '\x7b') (by decide) (by decide) reads'
    (fun m _ => ⟨_, _, rfl, by decide, by decide⟩) enough rest with ⟨body, written, found⟩
  rw [indentedAt, membersAt_eq_map, written, List.cons_append, value?, skip_cons (by decide)]
  change ((between? _ _ _ _).bind fun _ => _) = _
  rw [found]
  rfl

/-- A value is read back, whatever may follow it. -/
theorem value?_indentedAt (v : Json) : ∀ {level limit : Nat} {rest : Text},
    (v.indentedAt level).length < limit → Stops rest →
    value? limit (v.indentedAt level ++ rest) = some (v, rest) := by
  induction v with
  | null =>
      rintro level (_ | limit) rest enough stops
      · cases enough
      · rfl
  | bool b =>
      rintro level (_ | limit) rest enough stops
      · cases enough
      · cases b <;> rfl
  | number m e =>
      rintro level (_ | limit) rest enough stops
      · cases enough
      · rw [indentedAt, List.append_assoc]
        exact value?_number m e stops limit
  | string s =>
      rintro level (_ | limit) rest enough stops
      · cases enough
      · exact value?_string s rest limit
  | array items ih =>
      rintro level (_ | limit) rest enough stops
      · cases enough
      · rw [indentedAt, itemsAt_eq_map] at enough
        rcases length_lt_enclosed (byte '[') (byte ']') level (items.map (indentedAt (level + 1)))
          with ⟨count, room⟩
        rw [List.length_map] at count
        refine value?_array (fun v member after stops => ih v member ?_ stops) (by omega) rest
        have inside := room _ (List.mem_map_of_mem member)
        omega
  | object members ih =>
      rintro level (_ | limit) rest enough stops
      · cases enough
      · rw [indentedAt, membersAt_eq_map] at enough
        rcases length_lt_enclosed (byte '\x7b') (byte '\x7d') level
          (members.map (memberAt (level + 1))) with ⟨count, room⟩
        rw [List.length_map] at count
        refine value?_object (fun m member after stops => ih m member ?_ stops) (by omega) rest
        have inside := room _ (List.mem_map_of_mem member)
        rw [memberAt, List.length_append] at inside
        omega

/-! ## Whole texts -/

theorem isUtf8_line (level : Nat) : (jsonLine level).isUtf8 = true := by
  refine Text.isUtf8_cons (by decide) (Text.isUtf8_of_ascii fun b member => ?_)
  rw [List.eq_of_mem_replicate member]
  decide

theorem isUtf8_enclosed {opening closing : UInt8} (ascii : opening.toNat < 128)
    (ascii' : closing.toNat < 128) (level : Nat) {xs : List Text}
    (valid : ∀ x ∈ xs, x.isUtf8 = true) : (enclosed opening closing level xs).isUtf8 = true := by
  have last := Text.isUtf8_cons ascii' (Text.isUtf8_ofChars [])
  cases xs with
  | nil => exact Text.isUtf8_cons ascii last
  | cons x xs =>
      have others : (following (level + 1) xs).isUtf8 = true :=
        Text.isUtf8_flatMap fun y member => Text.isUtf8_cons (by decide)
          (Text.isUtf8_append (isUtf8_line _) (valid y (List.mem_cons_of_mem x member)))
      rw [enclosed_cons]
      refine Text.isUtf8_cons ascii (Text.isUtf8_append (isUtf8_line _) ?_)
      refine Text.isUtf8_append (valid x (List.mem_cons_self ..)) (Text.isUtf8_append others ?_)
      exact Text.isUtf8_append (isUtf8_line _) last

theorem isUtf8_indentedAt (v : Json) : ∀ level, (v.indentedAt level).isUtf8 = true := by
  induction v with
  | null => exact fun level => Text.isUtf8_ofString "null"
  | bool b =>
      intro level
      cases b <;> exact Text.isUtf8_ofString _
  | number m e =>
      intro level
      refine Text.isUtf8_append (isUtf8_ofInt m) ?_
      unfold scale
      split
      · exact Text.isUtf8_ofChars []
      · exact Text.isUtf8_cons (by decide) (isUtf8_ofInt e)
  | string s => exact fun level => Text.isUtf8_json _
  | array items ih =>
      intro level
      rw [indentedAt, itemsAt_eq_map]
      refine isUtf8_enclosed (by decide) (by decide) level fun x member => ?_
      rcases List.mem_map.mp member with ⟨v, inside, rfl⟩
      exact ih v inside (level + 1)
  | object members ih =>
      intro level
      rw [indentedAt, membersAt_eq_map]
      refine isUtf8_enclosed (by decide) (by decide) level fun x member => ?_
      rcases List.mem_map.mp member with ⟨m, inside, rfl⟩
      exact Text.isUtf8_append (Text.isUtf8_append (Text.isUtf8_json _) (Text.isUtf8_ofString _))
        (ih m inside (level + 1))

/-- What is written for a value spells it, and so it does on a line of its own. -/
theorem read?_indentedAt (v : Json) {after : Text} (line : after = [] ∨ after = Text.lineEnd) :
    read? (v.indentedAt 0 ++ after) = some v := by
  have room : (v.indentedAt 0).length < (v.indentedAt 0 ++ after).length + 1 := by
    rw [List.length_append]
    omega
  have valid : (v.indentedAt 0 ++ after).isUtf8 = true := by
    refine Text.isUtf8_append (v.isUtf8_indentedAt 0) ?_
    rcases line with rfl | rfl
    · exact Text.isUtf8_ofChars []
    · exact Text.isUtf8_ofString "\n"
  have stops : Stops after := by
    rcases line with rfl | rfl
    · exact Or.inl rfl
    · exact Or.inr ⟨_, _, rfl, Or.inr rfl⟩
  have blank : skip after = [] := by
    rcases line with rfl | rfl <;> rfl
  rw [read?, if_pos valid, v.value?_indentedAt room stops]
  exact if_pos blank

/-- The written form determines the value. -/
theorem indentedAt_injective {v w : Json} (same : v.indentedAt 0 = w.indentedAt 0) : v = w := by
  have found := v.read?_indentedAt (Or.inl rfl)
  rw [same, w.read?_indentedAt (Or.inl rfl)] at found
  exact (Option.some.inj found).symm

example : read? " [true, -1.50e+1,\t\"\\ud83d\\ude00\\/\"]\n" =
    some (.array [.bool true, .number (-150) (-1), .string "😀/"]) := by
  cbv

example : read? "[1 2]" = none := by
  cbv

end Json
end ParseForest
