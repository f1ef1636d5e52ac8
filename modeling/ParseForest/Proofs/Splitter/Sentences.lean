import Mathlib.Data.List.Forall2
import ParseForest.Splitter

namespace ParseForest

/-!
# Sentences and pieces

The sentences of a text are the tokens of its pieces, as far as there are any.
-/

/-- Where an operation gives results for all entries of a list, they come in the order of
the entries, and otherwise the first entry without a result decides. -/
theorem Except.mapM_outcome {ε α β : Type} (f : α → Except ε β) (entries : List α) :
    match entries.mapM f with
    | .ok results => List.Forall₂ (fun a b => f a = .ok b) entries results
    | .error e => ∃ front a back, entries = front ++ a :: back ∧
        (∀ b ∈ front, ∃ result, f b = .ok result) ∧ f a = .error e := by
  induction entries with
  | nil => exact .nil
  | cons a entries ih =>
      rw [List.mapM_cons]
      cases first : f a with
      | error e =>
          exact ⟨[], a, entries, rfl, fun _ nothing => absurd nothing List.not_mem_nil, first⟩
      | ok b =>
          cases others : entries.mapM f with
          | ok results =>
              rw [others] at ih
              exact .cons first ih
          | error e =>
              rw [others] at ih
              rcases ih with ⟨front, a', back, rfl, before, failed⟩
              refine ⟨a :: front, a', back, rfl, fun x member => ?_, failed⟩
              rcases List.mem_cons.mp member with rfl | later
              · exact ⟨b, first⟩
              · exact before x later

theorem Except.mapM_cases {ε α β : Type} (f : α → Except ε β) (entries : List α) :
    (∃ a ∈ entries, ∃ e, f a = .error e ∧ entries.mapM f = .error e) ∨
      ∃ results, entries.mapM f = .ok results ∧
        List.Forall₂ (fun a b => f a = .ok b) entries results := by
  have outcome := mapM_outcome f entries
  cases ran : entries.mapM f with
  | ok results =>
      rw [ran] at outcome
      exact Or.inr ⟨results, rfl, outcome⟩
  | error e =>
      rw [ran] at outcome
      rcases outcome with ⟨front, a, back, rfl, _, failed⟩
      exact Or.inl ⟨a, List.mem_append_right front List.mem_cons_self, e, failed, rfl⟩

theorem Except.mapM_eq_ok {ε α β : Type} {f : α → Except ε β} {g : α → β} {entries : List α}
    (each : ∀ a ∈ entries, f a = .ok (g a)) : entries.mapM f = .ok (entries.map g) := by
  induction entries with
  | nil => rfl
  | cons a entries ih =>
      rw [List.mapM_cons, each a List.mem_cons_self,
        ih fun x later => each x (List.mem_cons_of_mem a later)]
      rfl

theorem Except.mapM_of_forall₂ {ε α β : Type} {f : α → Except ε β} {entries : List α}
    {results : List β} (each : List.Forall₂ (fun a b => f a = .ok b) entries results) :
    entries.mapM f = .ok results := by
  induction each with
  | nil => rfl
  | cons first _ ih =>
      rw [List.mapM_cons, first, ih]
      rfl

namespace Splitter

variable {s : Splitter} {text : Text} {pieces : List Text}

theorem sentences_of_cut (cuts : cut blankLines text = .ok pieces) :
    s.sentences text = (pieces.mapM s.split).map (·.filter (!·.isEmpty)) := by
  unfold sentences
  rw [cuts]
  change (pieces.mapM s.split >>= fun all => .ok (all.filter (!·.isEmpty))) = _
  cases pieces.mapM s.split <;> rfl

/-- If every piece has a token, the sentences are the tokens of the pieces. -/
theorem sentences_of_forall₂ {sentences : List (List Text)}
    (cuts : cut blankLines text = .ok pieces)
    (each : List.Forall₂ (fun piece tokens => s.split piece = .ok tokens) pieces sentences)
    (some : ∀ tokens ∈ sentences, tokens ≠ []) : s.sentences text = .ok sentences := by
  have kept : sentences.filter (!·.isEmpty) = sentences :=
    List.filter_eq_self.mpr fun tokens member => by simp [some tokens member]
  rw [sentences_of_cut cuts, Except.mapM_of_forall₂ each]
  exact congrArg Except.ok kept

end Splitter
end ParseForest
