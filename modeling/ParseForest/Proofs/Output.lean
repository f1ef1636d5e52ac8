import ParseForest.Output

namespace ParseForest

/-!
# Writing where nothing is refused

Where a sink takes every chunk a writer has one outcome: it comes to its end,
and a text that does not depend on the sink has been put behind what was there
before.  So the text of a writer can be read off its parts.
-/

/-- The sink takes every chunk. -/
def Sink.IsSound (sink : Sink) : Prop :=
  ∀ attempt chunk, sink.refusal attempt chunk = none

theorem Sink.isSound_sound : Sink.sound.IsSound :=
  fun _ _ => rfl

namespace Writing

/-- Where nothing is refused, the writer comes to its end and has written the
text. -/
def Writes (w : Writing Unit) (text : Text) : Prop :=
  ∀ sink : Sink, sink.IsSound →
    ∃ sink', w sink = .ok () sink' ∧ sink'.IsSound ∧ sink'.text = sink.text ++ text

variable {w w' : Writing Unit} {text text' : Text}

theorem writes_pure : Writes (pure ()) [] := by
  intro sink sound
  exact ⟨sink, rfl, sound, (List.append_nil _).symm⟩

theorem writes_put (chunk : Text) : Writes (put chunk) chunk := by
  intro sink sound
  refine ⟨{ sink with attempts := sink.attempts + 1, taken := chunk :: sink.taken }, ?_, sound, ?_⟩
  · unfold put
    rw [sound]
  · simp [Sink.text]

theorem writes_offer (chunk : Text) : Writes (offer chunk) chunk := by
  intro sink sound
  rcases writes_put chunk sink sound with ⟨sink', run, sound', written⟩
  refine ⟨sink', ?_, sound', written⟩
  unfold offer
  rw [run]

/-- The text of two writers in a row is that of the first and then that of the
second. -/
theorem Writes.andThen (first : w.Writes text) (second : w'.Writes text') :
    Writes (w >>= fun _ => w') (text ++ text') := by
  intro sink sound
  rcases first sink sound with ⟨middle, run, soundMiddle, written⟩
  rcases second middle soundMiddle with ⟨last, run', soundLast, written'⟩
  refine ⟨last, ?_, soundLast, ?_⟩
  · change EStateM.bind w (fun _ => w') sink = _
    unfold EStateM.bind
    rw [run]
    exact run'
  · rw [written', written, List.append_assoc]

theorem writes_offerAll (chunks : List Text) : Writes (offerAll chunks) chunks.flatten := by
  induction chunks with
  | nil => exact writes_pure
  | cons chunk chunks ih => exact (writes_offer chunk).andThen ih

theorem Writes.within (writes : w.Writes text) (context : Text) :
    Writes (Writing.within context w) text := by
  intro sink sound
  rcases writes sink sound with ⟨sink', run, sound', written⟩
  refine ⟨sink', ?_, sound', written⟩
  unfold Writing.within
  rw [run]

theorem Writes.finish (writes : w.Writes text) {sink : Sink} (sound : sink.IsSound) :
    ∃ sink', w.finish sink = (none, sink') ∧ sink'.IsSound ∧ sink'.text = sink.text ++ text := by
  rcases writes sink sound with ⟨sink', run, sound', written⟩
  refine ⟨sink', ?_, sound', written⟩
  unfold Writing.finish
  rw [run]

end Writing
end ParseForest
