import ParseForest.Command.Run
import ParseForest.Proofs.Forest.Nesting
import ParseForest.Proofs.Output.Chunks

namespace ParseForest

/-!
# The chunks of reports

A report is a list of chunks whose refusals all end it, so that a report that fails has
written the chunks before the refused one and nothing else.  It can also come to an end on
its own, in front of a tree that has no text in the format.  Between the reports of
a batch stand chunks whose refusals do not end it: the empty lines.
-/

/-- The chunks of a tree. -/
def Format.chunks (format : Format) (t : Tree) : List Chunk :=
  { text := format.text t } :: if format = .json then [{ text := Text.lineEnd }] else []

/-- How many chunks a tree takes. -/
def Format.chunkCount (format : Format) : Nat :=
  if format = .json then 2 else 1

theorem Format.length_chunks (format : Format) (t : Tree) :
    (format.chunks t).length = format.chunkCount := by
  cases format <;> rfl

theorem Format.context_of_mem_chunks {format : Format} {t : Tree} {chunk : Chunk}
    (member : chunk ∈ format.chunks t) : chunk.context = some [] := by
  rcases List.mem_cons.mp member with tree | lineEnd
  · rw [tree]
  · split at lineEnd
    · rw [List.mem_singleton.mp lineEnd]
    · cases lineEnd

/-- What is written of a tree: its chunks, or nothing but a reason. -/
def Format.course (format : Format) (t : Tree) : Course :=
  if format.admits t then ⟨format.chunks t, none⟩ else ⟨[], some (Tree.TooDeep.message ⟨⟩)⟩

theorem Format.render_of_admits {format : Format} {t : Tree} (admits : format.admits t = true) :
    format.render t = .ok (format.text t) :=
  if_pos admits

theorem Format.render_of_not_admits {format : Format} {t : Tree}
    (refuses : ¬ format.admits t = true) : format.render t = .error ⟨⟩ :=
  if_neg refuses

theorem Format.write_eq (format : Format) (t : Tree) :
    format.write t = Writing.follow (format.course t) := by
  unfold write course
  by_cases admits : format.admits t
  case neg =>
    rw [if_neg admits, render_of_not_admits admits]
    exact Writing.throw_eq _
  case pos =>
    have last : (if format = .json then Writing.put Text.lineEnd else pure ()) =
        Writing.follow ⟨if format = .json then [{ text := Text.lineEnd }] else [], none⟩ := by
      split
      · exact Writing.put_eq Text.lineEnd
      · rfl
    rw [if_pos admits, render_of_admits admits]
    change (Writing.put (format.text t) >>= fun _ => _) = _
    rw [Writing.put_eq]
    exact (congrArg (_ >>= fun _ => ·) last).trans (Writing.follow_andThen _ _).symm

namespace Report

/-- The chunks of the trees in front of the first that has no text, and what is said of
that one. -/
def courseOfTrees (format : Format) (trees : List Tree) : Course where
  chunks := (trees.takeWhile format.admits).flatMap fun t =>
    (format.chunks t).map (Chunk.inside "encode: ")
  failure :=
    if trees.all format.admits then none else some ("encode: " ++ Tree.TooDeep.message ⟨⟩)

/-- What is written of a report. -/
def course (format : Format) (tokens : List Text) (trees : List Tree) : Course where
  chunks := { text := "Input: " ++ Text.spaced tokens ++ "\n" } ::
    { text := "# parses: " ++ Text.ofNat trees.length ++ "\n" } ::
      (courseOfTrees format trees).chunks
  failure := (courseOfTrees format trees).failure

theorem courseOfTrees_cons (format : Format) (t : Tree) (trees : List Tree) :
    courseOfTrees format (t :: trees) =
      ((format.course t).inside "encode: ").andThen (courseOfTrees format trees) := by
  unfold courseOfTrees Format.course
  by_cases admits : format.admits t
  · rw [if_pos admits, Course.andThen_of_none rfl]
    simp [Course.inside, admits]
  · rw [if_neg admits, Course.andThen_of_some rfl]
    simp [Course.inside, admits]

theorem writeTrees_eq (format : Format) (trees : List Tree) :
    writeTrees format trees = Writing.follow (courseOfTrees format trees) := by
  induction trees with
  | nil => rfl
  | cons t trees ih =>
      rw [writeTrees, ih, format.write_eq, Writing.within_follow, courseOfTrees_cons,
        Writing.follow_andThen]

theorem write_eq (format : Format) (tokens : List Text) (trees : List Tree) :
    write format tokens trees = Writing.follow (course format tokens trees) := by
  rw [write, writeTrees_eq, Writing.put_eq, Writing.put_eq, ← Writing.follow_andThen,
    ← Writing.follow_andThen]
  rfl

/-- The refusal of a line above the parses is reported as it is, and that of a chunk of a
tree as one of encoding. -/
theorem context_eq {format : Format} {tokens : List Text} {trees : List Tree} {k : Nat}
    {chunk : Chunk} (found : (course format tokens trees).chunks[k]? = some chunk) :
    chunk.context = some (if k < 2 then [] else "encode: ") := by
  match k with
  | 0 =>
      cases found
      rfl
  | 1 =>
      cases found
      rfl
  | k + 2 =>
      rcases List.mem_flatMap.mp (List.mem_of_getElem? found) with ⟨t, _, inTree⟩
      rcases List.mem_map.mp inTree with ⟨plain, member, rfl⟩
      rw [Chunk.inside, Format.context_of_mem_chunks member, if_neg (by omega)]
      rfl

/-- Each chunk of a report ends it if it is refused. -/
theorem exists_context {format : Format} {tokens : List Text} {trees : List Tree} {chunk : Chunk}
    (member : chunk ∈ (course format tokens trees).chunks) :
    ∃ context, chunk.context = some context := by
  rcases List.mem_iff_getElem?.mp member with ⟨k, found⟩
  exact ⟨_, context_eq found⟩

/-- A report ends on its own only if it has a tree that is too deep for JSON. -/
theorem failure_eq_some {format : Format} {tokens : List Text} {trees : List Tree} {reason : Text}
    (ended : (course format tokens trees).failure = some reason) :
    format = .json ∧ (∃ t ∈ trees, Tree.jsonDepthLimit < t.jsonDepth) ∧
      reason = "encode: exceeded max depth" := by
  by_cases all : trees.all format.admits
  · rw [course, courseOfTrees, if_pos all] at ended
    cases ended
  · rw [course, courseOfTrees, if_neg all] at ended
    cases ended
    rcases List.all_eq_false.mp (Bool.eq_false_iff.mpr all) with ⟨t, member, refused⟩
    cases format with
    | json =>
        refine ⟨rfl, ⟨t, member, ?_⟩, rfl⟩
        simpa [Format.admits] using refused
    | indented => exact absurd rfl refused
    | bracketed => exact absurd rfl refused

/-- If the first tree has no text, only the lines above it are written. -/
theorem course_of_not_admits {format : Format} (tokens : List Text) {t : Tree}
    (refuses : ¬ format.admits t = true) (trees : List Tree) :
    course format tokens (t :: trees) =
      ⟨[{ text := "Input: " ++ Text.spaced tokens ++ "\n" },
        { text := "# parses: " ++ Text.ofNat (trees.length + 1) ++ "\n" }],
        some "encode: exceeded max depth"⟩ := by
  simp only [course, courseOfTrees, List.takeWhile_cons_of_neg refuses, List.all_cons,
    Bool.eq_false_iff.mpr refuses, Bool.false_and, List.flatMap_nil, List.length_cons]
  rfl

theorem length_chunks (format : Format) (tokens : List Text) (trees : List Tree) :
    (course format tokens trees).chunks.length =
      2 + (trees.takeWhile format.admits).length * format.chunkCount := by
  have each : ((trees.takeWhile format.admits).map fun t =>
      ((format.chunks t).map (Chunk.inside "encode: ")).length) =
      List.replicate (trees.takeWhile format.admits).length format.chunkCount := by
    simp only [List.length_map, format.length_chunks, List.map_const']
  simp only [course, courseOfTrees, List.length_cons, List.length_flatMap, each,
    List.sum_replicate_nat]
  omega

/-- Where nothing is refused, a report ends only in front of a tree that cannot be encoded:
the trees before it are written, and the writer fails.  Where one chunk is refused,
the writer fails with the reason, and what is written is exactly the chunks before it.
Where the refusal lies behind the last chunk, it makes no difference. -/
theorem write_refused (format : Format) (tokens : List Text) (trees : List Tree) (k : Nat)
    (reason : Text) :
    let whole := (write format tokens trees).finish .sound
    let writes := whole.2.taken.reverse
    let outcome := (write format tokens trees).finish (.refusing k reason)
    let encoded := trees.takeWhile format.admits
    let count := 2 + encoded.length * format.chunkCount
    whole.1 = (if trees.all format.admits then none
        else some ("encode: exceeded max depth" : Text)) ∧
      writes.length = count ∧
      outcome.1 = (if k < count then some ((if k < 2 then [] else "encode: ") ++ reason)
        else whole.1) ∧
      outcome.2.text = (writes.take k).flatten ∧ outcome.2.attempts = min (k + 1) count := by
  intro whole writes outcome encoded count
  have sound : whole = ((course format tokens trees).failure,
      Sink.sound.accepting ((course format tokens trees).chunks.map Chunk.text)) := by
    change (write format tokens trees).finish .sound = _
    rw [write_eq]
    exact Writing.finish_of_isSound Sink.isSound_sound _
  have writes_eq : writes = (course format tokens trees).chunks.map Chunk.text := by
    change whole.2.taken.reverse = _
    rw [sound]
    simp [Sink.accepting, Sink.sound]
  have length : (course format tokens trees).chunks.length = count :=
    length_chunks format tokens trees
  refine ⟨by rw [sound]; rfl, by rw [writes_eq, List.length_map, length], ?_⟩
  change ((write format tokens trees).finish _).1 = _ ∧
    ((write format tokens trees).finish _).2.text = _ ∧
    ((write format tokens trees).finish _).2.attempts = _
  rw [write_eq, writes_eq, sound]
  by_cases inside : k < count
  case pos =>
    have found := List.getElem?_eq_getElem (length ▸ inside)
    rw [Writing.finish_refusing_eq found (context_eq found) reason, if_pos inside]
    refine ⟨rfl, ?_, ?_⟩
    · rw [Sink.text_declining, Sink.text_accepting, Sink.text_refusing, List.nil_append]
    · simp [Sink.declining, Sink.accepting, Sink.refusing, length]
      omega
  case neg =>
    have behind : (course format tokens trees).chunks.length ≤ k := by omega
    rw [Writing.finish_refusing_of_le behind reason, if_neg inside]
    refine ⟨rfl, ?_, ?_⟩
    · rw [Sink.text_accepting, Sink.text_refusing, List.nil_append,
        List.take_of_length_le (by simpa using behind)]
    · simp [Sink.accepting, Sink.refusing, length]
      omega

/-- The lines above the parses of a row of words, and no parse. -/
def rowCourse (n : Nat) : Course where
  chunks := [{ text := "Input: " ++ Text.spaced (Parser.row n) ++ "\n" },
    { text := "# parses: 1\n" }]
  failure := some "encode: exceeded max depth"

/-- The tree of a long row is too deep for JSON. -/
theorem exists_course_row {n : Nat} (long : 5001 ≤ n) (fits : n < Chart.maxLength) :
    ∃ t, (Parser.mk Parser.growing .span).parse (.nonterminal "s") (Parser.row n) = .ok [t] ∧
      course .json (Parser.row n) [t] = rowCourse n := by
  rcases Parser.exists_parse_growing (by omega : 2 ≤ n) fits with ⟨t, parsed, deep⟩
  have refuses : ¬ Format.json.admits t = true := by
    intro admits
    have fits : t.jsonDepth ≤ 10000 := of_decide_eq_true admits
    omega
  have one : ("# parses: " ++ Text.ofNat 1 ++ "\n" : Text) = "# parses: 1\n" := by
    rw [Text.ofNat, if_pos (by decide)]
    decide
  refine ⟨t, parsed, ?_⟩
  rw [course_of_not_admits _ refuses, List.length_nil, Nat.zero_add, one]
  rfl

theorem text_rowCourse (n : Nat) : (rowCourse n).text =
    "Input: " ++ Text.spaced (Parser.row n) ++ "\n" ++ "# parses: 1\n" := by
  simp [rowCourse, Course.text]

/-- A report can fail even though the refusal lies behind all the writes there would be. -/
theorem write_fails_row :
    ∃ t, (Parser.mk Parser.growing .span).parse (.nonterminal "s") (Parser.row 5001) =
        .ok [t] ∧
      ¬ 4 < 2 + [t].length * Format.json.chunkCount ∧
      let outcome := (write .json (Parser.row 5001) [t]).finish (.refusing 4 "write refused")
      outcome.1 = some ("encode: exceeded max depth" : Text) ∧
        outcome.2.text =
          "Input: " ++ Text.spaced (Parser.row 5001) ++ "\n" ++ "# parses: 1\n" := by
  rcases exists_course_row (Nat.le_refl 5001) (by decide) with ⟨t, parsed, ends⟩
  refine ⟨t, parsed, (by decide : ¬ 4 < 2 + 1 * Format.json.chunkCount), ?_⟩
  rw [write_eq, ends, Writing.finish_refusing_of_le (by decide) "write refused"]
  refine ⟨rfl, ?_⟩
  rw [Sink.text_accepting, Sink.text_refusing, ← text_rowCourse]
  rfl

end Report

namespace Command.Job

/-- The chunk between two reports. -/
def emptyLine : Chunk :=
  ⟨Text.lineEnd, none⟩

/-- What is written of the reports of a batch. -/
def course (format : Format) : List (List Text × List Tree) → Course
  | [] => ⟨[], none⟩
  | [(tokens, trees)] => Report.course format tokens trees
  | (tokens, trees) :: others =>
    (Report.course format tokens trees).andThen
      ((Course.mk [emptyLine] none).andThen (course format others))

/-- The chunks of the reports of a batch, up to the first tree that cannot be encoded. -/
def chunks (format : Format) (reports : List (List Text × List Tree)) : List Chunk :=
  (course format reports).chunks

/-- Only the empty lines between reports can be refused without an end. -/
theorem exists_context {format : Format} {reports : List (List Text × List Tree)} {chunk : Chunk}
    (member : chunk ∈ chunks format reports) (other : chunk ≠ emptyLine) :
    ∃ context, chunk.context = some context := by
  unfold chunks at member
  fun_induction course format reports with
  | case1 => cases member
  | case2 tokens trees => exact Report.exists_context member
  | case3 tokens trees others more ih =>
      rcases Course.mem_chunks_andThen member with report | later
      · exact Report.exists_context report
      rcases Course.mem_chunks_andThen later with line | later
      · exact absurd (List.mem_singleton.mp line) other
      · exact ih later

/-- The reports of a batch end on their own only if there is a tree that is too deep for
JSON. -/
theorem failure_eq_some {format : Format} {reports : List (List Text × List Tree)} {reason : Text}
    (ended : (course format reports).failure = some reason) :
    format = .json ∧ (∃ report ∈ reports, ∃ t ∈ report.2, Tree.jsonDepthLimit < t.jsonDepth) ∧
      reason = "encode: exceeded max depth" := by
  fun_induction course format reports with
  | case1 => cases ended
  | case2 tokens trees =>
      rcases Report.failure_eq_some ended with ⟨json, deep, reason⟩
      exact ⟨json, ⟨_, List.mem_cons_self, deep⟩, reason⟩
  | case3 tokens trees others more ih =>
      rcases Course.failure_andThen ended with report | later
      · rcases Report.failure_eq_some report with ⟨json, deep, reason⟩
        exact ⟨json, ⟨_, List.mem_cons_self, deep⟩, reason⟩
      rcases Course.failure_andThen later with line | later
      · cases line
      · rcases ih later with ⟨json, ⟨report, member, deep⟩, reason⟩
        exact ⟨json, ⟨report, List.mem_cons_of_mem _ member, deep⟩, reason⟩

theorem writeReports_eq (format : Format) (reports : List (List Text × List Tree)) :
    writeReports format reports = Writing.follow (course format reports) := by
  fun_induction writeReports format reports with
  | case1 => rfl
  | case2 tokens trees => exact Report.write_eq format tokens trees
  | case3 tokens trees others more ih =>
      rw [course, Writing.follow_andThen, Writing.follow_andThen, ih, Report.write_eq,
        Writing.offer_eq]
      · rfl
      · exact more

end Command.Job
end ParseForest
