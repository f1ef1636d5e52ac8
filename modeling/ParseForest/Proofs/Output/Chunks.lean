import ParseForest.Proofs.Output

namespace ParseForest

/-!
# Writers chunk by chunk

A writer that does not look at what becomes of its chunks follows a course.  This is a list
of chunks, each with a note on what its refusal does: it ends the writer, with a context in
front of the reason, or it is passed over.  Behind the chunks there can be a reason for
which the writer ends on its own.  What such a writer does on a sink can be read off the
course.  Where one chunk is refused, the chunks before it are taken, and those behind it
only if the refusal is passed over.  And whatever a sink refuses, a writer that is
refused nothing has all its chunks taken and ends as the course says.
-/

/-- A chunk, and the context in which its refusal is reported.  Without a context the
refusal is passed over. -/
structure Chunk where
  text : Text
  context : Option Text := some []

/-- The chunk in a wider context. -/
def Chunk.inside (context : Text) (chunk : Chunk) : Chunk :=
  { chunk with context := chunk.context.map (context ++ ·) }

/-- Chunks to write, and behind them the reason for which the writer ends on its own, if it
has one. -/
structure Course where
  chunks : List Chunk
  failure : Option Text := none

namespace Course

/-- The course in a wider context. -/
def inside (context : Text) (c : Course) : Course where
  chunks := c.chunks.map (Chunk.inside context)
  failure := c.failure.map (context ++ ·)

/-- One course and then another, unless the first one comes to an end on its own. -/
def andThen (first second : Course) : Course :=
  match first.failure with
  | none => { second with chunks := first.chunks ++ second.chunks }
  | some _ => first

theorem andThen_of_none {first : Course} (goesOn : first.failure = none) (second : Course) :
    first.andThen second = { second with chunks := first.chunks ++ second.chunks } := by
  rw [andThen, goesOn]

theorem andThen_of_some {first : Course} {reason : Text} (ends : first.failure = some reason)
    (second : Course) : first.andThen second = first := by
  rw [andThen, ends]

/-- The texts of a course, one behind the other. -/
def text (c : Course) : Text :=
  (c.chunks.map Chunk.text).flatten

theorem mem_chunks_andThen {first second : Course} {chunk : Chunk}
    (member : chunk ∈ (first.andThen second).chunks) :
    chunk ∈ first.chunks ∨ chunk ∈ second.chunks := by
  cases ends : first.failure with
  | none =>
      rw [andThen_of_none ends] at member
      exact List.mem_append.mp member
  | some reason =>
      rw [andThen_of_some ends] at member
      exact Or.inl member

theorem failure_andThen {first second : Course} {reason : Text}
    (ended : (first.andThen second).failure = some reason) :
    first.failure = some reason ∨ second.failure = some reason := by
  cases ends : first.failure with
  | none =>
      rw [andThen_of_none ends] at ended
      exact Or.inr ended
  | some reason' =>
      rw [andThen_of_some ends, ends] at ended
      exact Or.inl ended

end Course

/-- The sink when it has taken texts. -/
def Sink.accepting (sink : Sink) (texts : List Text) : Sink :=
  { sink with attempts := sink.attempts + texts.length, taken := texts.reverse ++ sink.taken }

/-- The sink when it has refused one text. -/
def Sink.declining (sink : Sink) : Sink :=
  { sink with attempts := sink.attempts + 1 }

/-- The number of attempts that a sink has refused. -/
def Sink.losses (sink : Sink) : Int :=
  sink.attempts - sink.taken.length

namespace Sink

variable {sink : Sink}

@[simp]
theorem text_accepting (texts : List Text) :
    (sink.accepting texts).text = sink.text ++ texts.flatten := by
  simp [text, accepting]

@[simp]
theorem text_declining : sink.declining.text = sink.text :=
  rfl

@[simp]
theorem text_refusing (attempt : Nat) (reason : Text) : (refusing attempt reason).text = [] :=
  rfl

@[simp]
theorem losses_accepting (texts : List Text) : (sink.accepting texts).losses = sink.losses := by
  simp only [losses, accepting, List.length_append, List.length_reverse]
  omega

theorem accepting_accepting (front back : List Text) :
    (sink.accepting front).accepting back = sink.accepting (front ++ back) := by
  simp [accepting, Nat.add_assoc]

end Sink

namespace Writing

/-- Write a chunk. -/
def writeChunk (chunk : Chunk) : Writing Unit :=
  match chunk.context with
  | none => offer chunk.text
  | some context => within context (put chunk.text)

/-- Write chunks in order. -/
def writeAll : List Chunk → Writing Unit
  | [] => return ()
  | chunk :: chunks => do
    writeChunk chunk
    writeAll chunks

/-- Write the chunks of a course, and end as it says. -/
def follow (c : Course) : Writing Unit := do
  writeAll c.chunks
  match c.failure with
  | none => return ()
  | some reason => throw reason

variable {c : Course} {chunk : Chunk} {chunks front back : List Chunk} {sink : Sink}
  {reason context : Text}

/-! ## Writers as courses -/

theorem bind_eq (w w' : Writing Unit) (sink : Sink) :
    (w >>= fun _ => w') sink =
      match w sink with
      | .ok () sink => w' sink
      | .error reason sink => .error reason sink := by
  change EStateM.bind w (fun _ => w') sink = _
  unfold EStateM.bind
  cases w sink <;> rfl

theorem writeAll_append (front back : List Chunk) :
    writeAll (front ++ back) = writeAll front >>= fun _ => writeAll back := by
  induction front with
  | nil => rfl
  | cons chunk front ih =>
      funext sink
      simp only [List.cons_append, writeAll, ih, bind_eq]
      cases writeChunk chunk sink <;> rfl

theorem within_bind (context : Text) (w w' : Writing Unit) :
    within context (w >>= fun _ => w') = within context w >>= fun _ => within context w' := by
  funext sink
  simp only [within, bind_eq]
  cases w sink <;> rfl

/-- A context around a writer is a context around each of its chunks. -/
theorem within_writeAll (context : Text) (chunks : List Chunk) :
    within context (writeAll chunks) = writeAll (chunks.map (Chunk.inside context)) := by
  induction chunks with
  | nil => rfl
  | cons chunk chunks ih =>
      simp only [writeAll, List.map_cons, within_bind, ih]
      congr 1
      funext sink
      rcases chunk with ⟨text, _ | inner⟩
      · simp only [Chunk.inside, writeChunk, Option.map_none, within, offer]
        cases put text sink <;> rfl
      · simp only [Chunk.inside, writeChunk, Option.map_some, within]
        cases put text sink with
        | ok => rfl
        | error => simp only [List.append_assoc]

theorem writeAll_singleton (chunk : Chunk) : writeAll [chunk] = writeChunk chunk := by
  funext sink
  simp only [writeAll, bind_eq]
  cases writeChunk chunk sink <;> rfl

theorem follow_apply (c : Course) (sink : Sink) :
    follow c sink =
      match writeAll c.chunks sink, c.failure with
      | .ok () after, none => .ok () after
      | .ok () after, some reason => .error reason after
      | .error reason after, _ => .error reason after := by
  rw [follow, bind_eq]
  cases writeAll c.chunks sink <;> cases c.failure <;> rfl

theorem follow_chunks (chunks : List Chunk) : follow ⟨chunks, none⟩ = writeAll chunks := by
  funext sink
  rw [follow_apply]
  cases writeAll chunks sink <;> rfl

theorem follow_andThen (first second : Course) :
    follow (first.andThen second) = follow first >>= fun _ => follow second := by
  funext sink
  rw [bind_eq, follow_apply first]
  cases ends : first.failure with
  | none =>
      rw [Course.andThen_of_none ends, follow_apply, writeAll_append, bind_eq]
      cases writeAll first.chunks sink with
      | error => rfl
      | ok => exact (follow_apply second _).symm
  | some reason =>
      rw [Course.andThen_of_some ends, follow_apply, ends]
      cases writeAll first.chunks sink <;> rfl

/-- A context around a course is a context around everything in it. -/
theorem within_follow (context : Text) (c : Course) :
    within context (follow c) = follow (c.inside context) := by
  funext sink
  rw [follow_apply (c.inside context), Course.inside, ← within_writeAll, within, within,
    follow_apply]
  cases writeAll c.chunks sink <;> cases c.failure <;> rfl

theorem put_eq (text : Text) : put text = follow ⟨[⟨text, some []⟩], none⟩ := by
  funext sink
  simp only [follow_chunks, writeAll_singleton, writeChunk, within]
  cases put text sink <;> rfl

theorem offer_eq (text : Text) : offer text = follow ⟨[⟨text, none⟩], none⟩ := by
  rw [follow_chunks, writeAll_singleton]
  rfl

theorem throw_eq (reason : Text) : throw reason = follow ⟨[], some reason⟩ :=
  rfl

/-! ## What a sink makes of chunks -/

theorem writeChunk_of_taken (takes : sink.refusal sink.attempts chunk.text = none) :
    writeChunk chunk sink = .ok () (sink.accepting [chunk.text]) := by
  rcases chunk with ⟨text, _ | context⟩ <;>
    simp only [writeChunk, offer, within, put, takes] <;> rfl

theorem writeChunk_of_refused (refuses : sink.refusal sink.attempts chunk.text = some reason) :
    writeChunk chunk sink =
      match chunk.context with
      | none => .ok () sink.declining
      | some context => .error (context ++ reason) sink.declining := by
  rcases chunk with ⟨text, _ | context⟩ <;>
    simp only [writeChunk, offer, within, put, refuses] <;> rfl

/-- Chunks are taken one after the other as long as none is refused. -/
theorem writeAll_of_taken
    (takes : ∀ i < chunks.length, ∀ text, sink.refusal (sink.attempts + i) text = none) :
    writeAll chunks sink = .ok () (sink.accepting (chunks.map Chunk.text)) := by
  induction chunks generalizing sink with
  | nil => rfl
  | cons chunk chunks ih =>
      have first := takes 0 (Nat.zero_lt_succ _) chunk.text
      have others : ∀ i < chunks.length, ∀ text,
          (sink.accepting [chunk.text]).refusal ((sink.accepting [chunk.text]).attempts + i) text =
            none := by
        intro i inside text
        have later := takes (i + 1) (Nat.succ_lt_succ inside) text
        rwa [Nat.add_comm i 1, ← Nat.add_assoc] at later
      simp only [writeAll, bind_eq, writeChunk_of_taken first, ih others]
      rw [Sink.accepting_accepting]
      rfl

/-- Where the chunk in the middle is refused, those before it are taken, and the others
only if the refusal is passed over. -/
theorem writeAll_refusing (front : List Chunk) (chunk : Chunk) (back : List Chunk)
    (reason : Text) :
    writeAll (front ++ chunk :: back) (.refusing front.length reason) =
      match chunk.context with
      | none => .ok () ((((Sink.refusing front.length reason).accepting
          (front.map Chunk.text)).declining).accepting (back.map Chunk.text))
      | some context => .error (context ++ reason)
          ((Sink.refusing front.length reason).accepting (front.map Chunk.text)).declining := by
  have before : ∀ i < front.length, ∀ text, (Sink.refusing front.length reason).refusal
      ((Sink.refusing front.length reason).attempts + i) text = none := by
    intro i inside text
    simp only [Sink.refusing, Nat.zero_add]
    exact if_neg (Nat.ne_of_lt inside)
  have here : ((Sink.refusing front.length reason).accepting (front.map Chunk.text)).refusal
      ((Sink.refusing front.length reason).accepting (front.map Chunk.text)).attempts chunk.text =
        some reason := by
    simp [Sink.refusing, Sink.accepting]
  rw [writeAll_append, bind_eq, writeAll_of_taken before]
  simp only [writeAll, bind_eq, writeChunk_of_refused here]
  cases chunk.context with
  | some context => rfl
  | none =>
      refine writeAll_of_taken fun i _ text => ?_
      simp only [Sink.declining, Sink.accepting, Sink.refusing, List.length_map]
      exact if_neg (by omega)

theorem finish_follow (c : Course) (sink : Sink) :
    (follow c).finish sink =
      match writeAll c.chunks sink with
      | .ok () after => (c.failure, after)
      | .error reason after => (some reason, after) := by
  rw [finish, follow_apply]
  cases writeAll c.chunks sink <;> cases c.failure <;> rfl

/-- A writer that stops at one refused chunk has written the chunks before it. -/
theorem finish_refusing_eq {k : Nat} (found : c.chunks[k]? = some chunk)
    (stops : chunk.context = some context) (reason : Text) :
    (follow c).finish (.refusing k reason) = (some (context ++ reason),
      ((Sink.refusing k reason).accepting ((c.chunks.map Chunk.text).take k)).declining) := by
  rcases List.getElem?_eq_some_iff.mp found with ⟨inside, rfl⟩
  have run := writeAll_refusing (c.chunks.take k) c.chunks[k] (c.chunks.drop (k + 1)) reason
  rw [← List.drop_eq_getElem_cons inside, List.take_append_drop,
    List.length_take_of_le (Nat.le_of_lt inside), stops] at run
  simp only [finish_follow, run, List.map_take]

theorem finish_refusing_of_context {k : Nat} (found : c.chunks[k]? = some chunk)
    (stops : chunk.context = some context) (reason : Text) :
    ∃ sink, (follow c).finish (.refusing k reason) = (some (context ++ reason), sink) ∧
      sink.text = ((c.chunks.map Chunk.text).take k).flatten := by
  refine ⟨_, finish_refusing_eq found stops reason, ?_⟩
  rw [Sink.text_declining, Sink.text_accepting, Sink.text_refusing, List.nil_append]

/-- A refusal behind the last chunk is none. -/
theorem finish_refusing_of_le {k : Nat} (behind : c.chunks.length ≤ k) (reason : Text) :
    (follow c).finish (.refusing k reason) =
      (c.failure, (Sink.refusing k reason).accepting (c.chunks.map Chunk.text)) := by
  have run : writeAll c.chunks (.refusing k reason) =
      .ok () ((Sink.refusing k reason).accepting (c.chunks.map Chunk.text)) := by
    refine writeAll_of_taken fun i inside _ => ?_
    simp only [Sink.refusing, Nat.zero_add]
    exact if_neg (by omega)
  simp only [finish_follow, run]

/-- A writer that passes over one refused chunk. -/
theorem finish_refusing_of_silent {k : Nat} (found : c.chunks[k]? = some chunk)
    (silent : chunk.context = none) (reason : Text) :
    ∃ sink, (follow c).finish (.refusing k reason) = (c.failure, sink) ∧
      sink.text = ((c.chunks.map Chunk.text).eraseIdx k).flatten := by
  rcases List.getElem?_eq_some_iff.mp found with ⟨inside, rfl⟩
  have run := writeAll_refusing (c.chunks.take k) c.chunks[k] (c.chunks.drop (k + 1)) reason
  rw [← List.drop_eq_getElem_cons inside, List.take_append_drop,
    List.length_take_of_le (Nat.le_of_lt inside), silent] at run
  refine ⟨_, by simp only [finish_follow, run]; rfl, ?_⟩
  rw [Sink.text_accepting, Sink.text_declining, Sink.text_accepting, Sink.text_refusing,
    List.nil_append, ← List.flatten_append, List.eraseIdx_eq_take_drop_succ, List.map_take,
    List.map_drop]

/-- What passes over refusals comes to its end. -/
theorem exists_finish_offer (text : Text) (sink : Sink) :
    ∃ after, (offer text).finish sink = (none, after) := by
  unfold finish offer
  cases put text sink <;> exact ⟨_, rfl⟩

/-! ## Where nothing is refused -/

/-- Where nothing is refused all chunks are taken, in their order. -/
theorem finish_of_isSound (sound : sink.IsSound) (c : Course) :
    (follow c).finish sink = (c.failure, sink.accepting (c.chunks.map Chunk.text)) := by
  have run : writeAll c.chunks sink = .ok () (sink.accepting (c.chunks.map Chunk.text)) :=
    writeAll_of_taken fun _ _ _ => sound _ _
  simp only [finish_follow, run]

/-- A chunk is taken, or something is lost with it. -/
theorem losses_writeChunk (chunk : Chunk) (sink : Sink) :
    match writeChunk chunk sink with
    | .ok () after => after = sink.accepting [chunk.text] ∨ sink.losses < after.losses
    | .error _ after => sink.losses < after.losses := by
  cases refuses : sink.refusal sink.attempts chunk.text with
  | none =>
      rw [writeChunk_of_taken refuses]
      exact Or.inl rfl
  | some reason =>
      have lost : sink.losses < sink.declining.losses := by
        simp only [Sink.losses, Sink.declining]
        omega
      rw [writeChunk_of_refused refuses]
      cases chunk.context with
      | none => exact Or.inr lost
      | some context => exact lost

/-- Either all chunks are taken or something is lost. -/
theorem losses_writeAll (chunks : List Chunk) (sink : Sink) :
    match writeAll chunks sink with
    | .ok () after => after = sink.accepting (chunks.map Chunk.text) ∨ sink.losses < after.losses
    | .error _ after => sink.losses < after.losses := by
  induction chunks generalizing sink with
  | nil => exact Or.inl rfl
  | cons chunk chunks ih =>
      have first := losses_writeChunk chunk sink
      rw [writeAll, bind_eq]
      cases run : writeChunk chunk sink with
      | error reason after =>
          rw [run] at first
          exact first
      | ok done middle =>
          cases done
          rw [run] at first
          have others := ih middle
          simp only
          cases run' : writeAll chunks middle with
          | error reason after =>
              rw [run'] at others
              rcases first with rfl | lost
              · rwa [Sink.losses_accepting] at others
              · exact Int.lt_trans lost others
          | ok done after =>
              cases done
              rw [run'] at others
              rcases first with rfl | lost
              · rwa [Sink.losses_accepting, Sink.accepting_accepting] at others
              · rcases others with rfl | lost'
                · exact Or.inr (by rwa [Sink.losses_accepting])
                · exact Or.inr (Int.lt_trans lost lost')

/-- A writer that loses nothing has all its chunks taken and ends as its course says. -/
theorem finish_of_losses_eq (c : Course)
    (lossless : ((follow c).finish sink).2.losses = sink.losses) :
    (follow c).finish sink = (c.failure, sink.accepting (c.chunks.map Chunk.text)) := by
  have losses := losses_writeAll c.chunks sink
  rw [finish_follow] at lossless ⊢
  cases run : writeAll c.chunks sink with
  | error reason after =>
      rw [run] at losses lossless
      exact absurd lossless (Int.ne_of_gt losses)
  | ok done after =>
      cases done
      rw [run] at losses lossless
      rcases losses with rfl | lost
      · rfl
      · exact absurd lossless (Int.ne_of_gt lost)

end Writing
end ParseForest
