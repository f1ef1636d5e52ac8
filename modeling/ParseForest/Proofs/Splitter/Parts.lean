import Mathlib.Data.List.Chain
import ParseForest.Proofs.Pattern.Matches
import ParseForest.Proofs.Text.Utf8

namespace ParseForest

/-!
# Parts of a text

Matches cut a text into parts: those of them that are not empty, and the tokens between them.
The parts lie one behind the other from the beginning of the text to its end.  If the matches
are the leftmost ones, then every place where something can be taken is on a part that
separates, so tokens are told from what separates them by looking at their characters.
-/

open Pattern

/-! ## Stretches of a text -/

/-- The characters of a text from one index up to another. -/
structure Stretch where
  first : Nat
  stop : Nat
  deriving DecidableEq

namespace Stretch

/-- The stretch as a text of its own. -/
def text (cs : List Char) (w : Stretch) : Text :=
  Text.ofChars (cs.extract w.first w.stop)

/-- Whether a character is on the stretch. -/
def Covers (w : Stretch) (i : Nat) : Prop :=
  w.first ≤ i ∧ i < w.stop

theorem text_ne_nil {cs : List Char} {w : Stretch} (some : w.first < w.stop)
    (inside : w.stop ≤ cs.length) : w.text cs ≠ [] := by
  intro empty
  have chars : cs.extract w.first w.stop = [] := by
    rw [← Text.chars_ofChars (cs.extract w.first w.stop)]
    exact (congrArg Text.chars empty).trans (Text.chars_ofChars [])
  have length := congrArg List.length chars
  rw [List.length_take, List.length_drop, List.length_nil] at length
  omega

/-- The same stretch of a text that has so many more characters in front. -/
def shift (k : Nat) (w : Stretch) : Stretch :=
  ⟨k + w.first, k + w.stop⟩

@[simp] theorem first_shift (k : Nat) (w : Stretch) : (w.shift k).first = k + w.first :=
  rfl

@[simp] theorem stop_shift (k : Nat) (w : Stretch) : (w.shift k).stop = k + w.stop :=
  rfl

/-- A stretch of a stretch is a stretch of the text. -/
theorem text_extract (cs : List Char) {b w : Stretch} (inside : w.stop ≤ b.stop - b.first) :
    w.text (cs.extract b.first b.stop) = (w.shift b.first).text cs := by
  unfold text shift
  simp only [List.extract_eq_take_drop]
  rw [List.drop_take, List.take_take, List.drop_drop]
  congr 2
  omega

end Stretch

/-- A part of a text: a token, or something that separates tokens. -/
structure Part extends Stretch where
  isToken : Bool
  deriving DecidableEq

namespace Part

/-- The part as a place where a pattern was found. -/
def place (p : Part) : Match :=
  .ofEnds p.first p.stop

/-- The texts of those parts that are tokens. -/
def tokens (cs : List Char) (ps : List Part) : List Text :=
  (ps.filter Part.isToken).map fun p => p.text cs

theorem tokens_cons_token (cs : List Char) (w : Stretch) (ps : List Part) :
    tokens cs (⟨w, true⟩ :: ps) = w.text cs :: tokens cs ps :=
  rfl

theorem tokens_cons_separator (cs : List Char) (w : Stretch) (ps : List Part) :
    tokens cs (⟨w, false⟩ :: ps) = tokens cs ps :=
  rfl

/-- The parts lie one behind the other from one index up to another, and none is empty. -/
def Tile (stop : Nat) : (start : Nat) → List Part → Prop
  | start, [] => start = stop
  | start, p :: ps => p.first = start ∧ start < p.stop ∧ Tile stop p.stop ps

/-- Between two parts there is one that separates. -/
def Separated (ps : List Part) (p q : Part) : Prop :=
  ∃ m ∈ ps, m.isToken = false ∧ p.stop ≤ m.first ∧ m.stop ≤ q.first

namespace Tile

variable {start stop : Nat} {ps : List Part}

theorem le (tile : Tile stop start ps) : start ≤ stop := by
  induction ps generalizing start with
  | nil => exact Nat.le_of_eq tile
  | cons p ps ih =>
      rcases tile with ⟨_, some, rest⟩
      exact Nat.le_of_lt (Nat.lt_of_lt_of_le some (ih rest))

theorem between (tile : Tile stop start ps) {p : Part} (member : p ∈ ps) :
    start ≤ p.first ∧ p.first < p.stop ∧ p.stop ≤ stop := by
  induction ps generalizing start with
  | nil => cases member
  | cons q ps ih =>
      rcases tile with ⟨first, some, rest⟩
      rcases List.mem_cons.mp member with rfl | later
      · exact ⟨Nat.le_of_eq first.symm, first.symm ▸ some, le rest⟩
      · have := ih rest later
        omega

/-- Every character is on exactly one of the parts. -/
theorem existsUnique (tile : Tile stop start ps) {i : Nat} (low : start ≤ i) (high : i < stop) :
    ∃! k : Nat, ∃ p : Part, ps[k]? = some p ∧ p.Covers i := by
  induction ps generalizing start with
  | nil => exact absurd high (Nat.not_lt.mpr (Nat.le_trans (Nat.le_of_eq tile.symm) low))
  | cons p ps ih =>
      rcases tile with ⟨first, some, rest⟩
      by_cases here : i < p.stop
      case pos =>
        refine ⟨0, ⟨p, rfl, first.symm ▸ low, here⟩, fun k other => ?_⟩
        rcases other with ⟨q, found, covers⟩
        cases k with
        | zero => rfl
        | succ k =>
            rw [List.getElem?_cons_succ] at found
            have := (between rest (List.mem_of_getElem? found)).1
            exact absurd (Nat.lt_of_lt_of_le here this) (Nat.not_lt.mpr covers.1)
      case neg =>
        rcases ih rest (Nat.not_lt.mp here) with ⟨k, ⟨q, found, covers⟩, only⟩
        refine ⟨k + 1, ⟨q, by rw [List.getElem?_cons_succ, found], covers⟩, fun k' other => ?_⟩
        rcases other with ⟨q', found', covers'⟩
        cases k' with
        | zero =>
            cases found'
            exact absurd covers'.2 here
        | succ k' =>
            rw [List.getElem?_cons_succ] at found'
            rw [only k' ⟨q', found', covers'⟩]

/-- If tokens never follow tokens, something separates any two of them. -/
theorem pairwise_tokens (tile : Tile stop start ps)
    (apart : ps.IsChain fun p q => p.isToken = true → q.isToken = false) :
    (ps.filter Part.isToken).Pairwise (Separated ps) := by
  induction ps generalizing start with
  | nil => exact .nil
  | cons p ps ih =>
      rcases tile with ⟨_, _, rest⟩
      have others := (ih rest apart.tail).imp (S := Separated (p :: ps))
        fun {p' q} ⟨m, member, between⟩ => ⟨m, List.mem_cons_of_mem p member, between⟩
      cases token : p.isToken with
      | false =>
          rw [List.filter_cons_of_neg (by simp [token])]
          exact others
      | true =>
          rw [List.filter_cons_of_pos token]
          refine .cons (fun q later => ?_) others
          rcases List.mem_filter.mp later with ⟨later, token'⟩
          -- The part behind the token separates it from all that follow.
          cases ps with
          | nil => cases later
          | cons m ms =>
              have separates := (List.isChain_cons_cons.mp apart).1 token
              rcases rest with ⟨first, _, rest⟩
              refine ⟨m, by simp, separates, Nat.le_of_eq first.symm, ?_⟩
              rcases List.mem_cons.mp later with rfl | later
              · rw [separates] at token'
                cases token'
              · exact (between rest later).1

/-- One behind the other the parts are the text. -/
theorem flatMap_text (tile : Tile stop start ps) (cs : List Char) :
    ps.flatMap (·.text cs) = Text.ofChars (cs.extract start stop) := by
  induction ps generalizing start with
  | nil =>
      cases tile
      simp [Text.ofChars]
  | cons p ps ih =>
      rcases tile with ⟨rfl, some, rest⟩
      have le := le rest
      have split : cs.extract p.first stop = cs.extract p.first p.stop ++ cs.extract p.stop stop := by
        have width : stop - p.first = (p.stop - p.first) + (stop - p.stop) := by omega
        have behind : p.first + (p.stop - p.first) = p.stop := by omega
        simp only [List.extract_eq_take_drop]
        rw [width, List.take_add, List.drop_drop, behind]
      rw [List.flatMap_cons, ih rest, split]
      unfold Text.ofChars Stretch.text Text.ofChars
      rw [List.flatMap_append]

end Tile

/-- The parts of a text between two indices when it is cut at matches: what separates are
the matches that are not empty, and the tokens are as long as they can be. -/
structure AreBetween (ms : List Match) (start stop : Nat) (ps : List Part) : Prop where
  tile : Tile stop start ps
  separators : (ps.filter (!·.isToken)).map place = ms.filter (·.length ≠ 0)
  apart : ps.IsChain fun p q => p.isToken = true → q.isToken = false

namespace AreBetween

variable {ms : List Match} {m : Match} {start stop : Nat} {ps : List Part}

theorem nil (start : Nat) : AreBetween [] start start [] where
  tile := rfl
  separators := rfl
  apart := .nil

theorem last (some : start < stop) : AreBetween [] start stop [⟨⟨start, stop⟩, true⟩] where
  tile := ⟨rfl, some, rfl⟩
  separators := rfl
  apart := .singleton _

theorem skip (empty : m.length = 0) (rest : AreBetween ms start stop ps) :
    AreBetween (m :: ms) start stop ps where
  tile := rest.tile
  separators := by
    rw [List.filter_cons_of_neg (by simp [empty])]
    exact rest.separators
  apart := rest.apart

theorem separator {i j : Nat} (some : i < j) (rest : AreBetween ms j stop ps) :
    AreBetween (.ofEnds i j :: ms) i stop (⟨⟨i, j⟩, false⟩ :: ps) where
  tile := ⟨rfl, some, rest.tile⟩
  separators := by
    rw [List.filter_cons_of_pos rfl,
      List.filter_cons_of_pos (by simpa using Match.length_ofEnds_ne_zero some), List.map_cons,
      rest.separators]
    rfl
  apart := List.IsChain.cons rest.apart nofun

theorem token {i j : Nat} (some : start < i)
    (rest : AreBetween ms i stop (⟨⟨i, j⟩, false⟩ :: ps)) :
    AreBetween ms start stop (⟨⟨start, i⟩, true⟩ :: ⟨⟨i, j⟩, false⟩ :: ps) where
  tile := ⟨rfl, some, rest.tile⟩
  separators := by
    rw [List.filter_cons_of_neg (by simp)]
    exact rest.separators
  apart := rest.apart.cons_cons fun _ => rfl

/-- The parts that separate are matches. -/
theorem ofEnds_mem_iff (parts : AreBetween ms start stop ps) {a b : Nat} (some : a < b) :
    .ofEnds a b ∈ ms ↔ (⟨⟨a, b⟩, false⟩ : Part) ∈ ps := by
  have among : .ofEnds a b ∈ ms ↔ .ofEnds a b ∈ (ps.filter (!·.isToken)).map place := by
    rw [parts.separators, List.mem_filter]
    exact (and_iff_left (by simpa using Match.length_ofEnds_ne_zero some)).symm
  rw [among, List.mem_map]
  constructor
  · rintro ⟨⟨⟨first, stop⟩, isToken⟩, member, same⟩
    rcases List.mem_filter.mp member with ⟨member, separates⟩
    rcases Match.ofEnds_inj.mp same with ⟨rfl, rfl⟩
    have separates : isToken = false := by simpa using separates
    rw [separates] at member
    exact member
  · intro member
    exact ⟨_, List.mem_filter.mpr ⟨member, rfl⟩, rfl⟩

end AreBetween

/-! ## Cutting wherever something can be taken -/

/-- The parts of a text that is cut wherever something can be taken. -/
structure AreCut (takes : Nat → Nat → Prop) (stop : Nat) (ps : List Part) : Prop where
  tile : Tile stop 0 ps
  apart : ps.IsChain fun p q => p.isToken = true → q.isToken = false
  taken : ∀ p ∈ ps, p.isToken = false → takes p.first p.stop
  separated : ∀ i j, takes i j → ∃ p ∈ ps, p.isToken = false ∧ p.Covers i

theorem AreBetween.areCut {takes : Nat → Nat → Prop} {ms : List Match} {stop : Nat}
    {ps : List Part} (parts : AreBetween ms 0 stop ps)
    (leftmost : Match.AreLeftmost takes stop 0 ms) : AreCut takes stop ps where
  tile := parts.tile
  apart := parts.apart
  taken p member separates := by
    have some := (parts.tile.between member).2.1
    rcases p with ⟨⟨a, b⟩, isToken⟩
    cases separates
    exact leftmost.taken_of_mem ((parts.ofEnds_mem_iff some).mpr member)
  separated i j taken := by
    rcases leftmost.exists_of_taken (Nat.zero_le i) taken with ⟨a, b, low, high, member⟩
    exact ⟨_, (parts.ofEnds_mem_iff (by omega)).mp member, rfl, low, high⟩

namespace AreCut

variable {takes : Nat → Nat → Prop} {stop : Nat} {ps : List Part} {p q : Part}

theorem eq_of_covers (cut : AreCut takes stop ps) (inP : p ∈ ps) (inQ : q ∈ ps) {i : Nat}
    (here : p.Covers i) (there : q.Covers i) : p = q := by
  have inside : i < stop := Nat.lt_of_lt_of_le here.2 (cut.tile.between inP).2.2
  rcases List.mem_iff_getElem?.mp inP with ⟨k, found⟩
  rcases List.mem_iff_getElem?.mp inQ with ⟨k', found'⟩
  have same := (cut.tile.existsUnique (Nat.zero_le i) inside).unique ⟨p, found, here⟩
    ⟨q, found', there⟩
  rw [← same, found] at found'
  exact Option.some.inj found'

theorem exists_covers (cut : AreCut takes stop ps) {i : Nat} (inside : i < stop) :
    ∃ p ∈ ps, p.Covers i := by
  rcases (cut.tile.existsUnique (Nat.zero_le i) inside).exists with ⟨k, p, found, covers⟩
  exact ⟨p, List.mem_of_getElem? found, covers⟩

/-- Two tokens one after the other have something between them that separates. -/
theorem pairwise_tokens (cut : AreCut takes stop ps) :
    (ps.filter Part.isToken).Pairwise (Separated ps) :=
  cut.tile.pairwise_tokens cut.apart

theorem lt_of_separated (cut : AreCut takes stop ps) (separated : Separated ps p q) :
    p.stop < q.first := by
  rcases separated with ⟨m, member, _, after, before⟩
  exact Nat.lt_of_le_of_lt after (Nat.lt_of_lt_of_le (cut.tile.between member).2.1 before)

/-- Of two tokens one is before the other. -/
theorem separated_or (cut : AreCut takes stop ps) (inP : p ∈ ps) (inQ : q ∈ ps)
    (tokenP : p.isToken = true) (tokenQ : q.isToken = true) (different : p ≠ q) :
    Separated ps p q ∨ Separated ps q p := by
  have symmetric : Std.Symm fun p q : Part => Separated ps p q ∨ Separated ps q p :=
    ⟨fun _ _ => Or.symm⟩
  exact (cut.pairwise_tokens.imp (S := fun p q => Separated ps p q ∨ Separated ps q p)
    Or.inl).forall (List.mem_filter.mpr ⟨inP, tokenP⟩) (List.mem_filter.mpr ⟨inQ, tokenQ⟩)
    different

/-- The character next to a token is on something that separates. -/
theorem exists_separator (cut : AreCut takes stop ps) (member : p ∈ ps) (token : p.isToken = true)
    {i : Nat} (inside : i < stop) (next : i + 1 = p.first ∨ i = p.stop) :
    ∃ q ∈ ps, q.isToken = false ∧ q.Covers i := by
  have some := (cut.tile.between member).2.1
  rcases cut.exists_covers inside with ⟨q, inQ, after, before⟩
  refine ⟨q, inQ, Bool.eq_false_iff.mpr fun token' => ?_, after, before⟩
  by_cases same : p = q
  · rw [← same] at after before
    omega
  · rcases cut.separated_or member inQ token token' same with separated | separated
    · have := cut.lt_of_separated separated
      omega
    · have := cut.lt_of_separated separated
      omega

end AreCut
end Part

end ParseForest
