import ParseForest.Parser
import ParseForest.Proofs.Worklist.Run

namespace ParseForest

/-!
# Filled charts and their forests

When a run has ended its chart is filled: the arcs are deduced and numbered,
and whatever the seeds and the arcs of the chart offer is settled in it.  A
filled chart always has a forest, which lists the trees of the complete arcs
over the whole sentence that are headed by the start symbol.
-/

namespace Problem

/-- What a chart is at the end of a run. -/
structure Filled (p : Problem) (policy : Policy) (chart : Chart) : Prop where
  charted : p.Charted chart
  policy_eq : chart.policy = policy
  numbered : ∃ bound, chart.Numbered bound
  seeds : ∀ r ∈ p.grammar.rules, r.head = p.start → chart.Settles (.predict r 0)
  closed : ∀ e, ∀ a ∈ chart.arcsIn e, ∀ m, p.Offers chart a m → chart.Settles m

variable {p : Problem} {policy : Policy} {chart : Chart}

theorem Reaches.filled {serial : Nat} {work : Worklist} (reached : p.Reaches policy serial work)
    (passed : work.cell = work.chart.length) : p.Filled policy work.chart := by
  rcases reached.invariant with ⟨coherent, policyEq, settled⟩
  refine ⟨coherent.charted, policyEq, ⟨work.serial, coherent.numbered⟩, settled.seeds, ?_⟩
  intro e a member
  rcases List.mem_iff_getElem?.mp member with ⟨j, found⟩
  have inside := Chart.lt_length_of_mem member
  exact settled.visited e j a (Or.inl (passed ▸ inside)) found

/-- Filling a chart gives a filled chart if there is room and the walk ends. -/
theorem fillWith_cases {σ : Type} (policy : Policy) (observe : Worklist → σ → σ) (serial : Nat)
    (seen : σ) (fits : p.tokens.length < Chart.maxLength) :
    p.fillWith policy serial observe seen = .error .unfinished ∨
      ∃ work seen', p.fillWith policy serial observe seen = .ok (work, seen') ∧
        p.Filled policy work.chart := by
  rcases exists_seeded policy serial fits with ⟨work, run, seeded⟩
  cases walked : p.walk observe work.chart.length work seen with
  | none => exact Or.inl (by simp [fillWith, run, walked, bind, Except.bind])
  | some result =>
      rcases (Reaches.seeded run).walk walked with ⟨work', seen', equal, reached, cellEq⟩
      subst equal
      refine Or.inr ⟨work', seen', by simp [fillWith, run, walked, bind, Except.bind], ?_⟩
      apply reached.filled
      rw [cellEq, seeded.cell_eq, Nat.zero_add, reached.length_eq, (Reaches.seeded run).length_eq]

theorem fill_cases (policy : Policy) (fits : p.tokens.length < Chart.maxLength) :
    p.fill policy = .error .unfinished ∨
      ∃ chart, p.fill policy = .ok chart ∧ p.Filled policy chart := by
  rcases fillWith_cases (p := p) policy (fun _ seen => seen) 0 () fits with
    endless | ⟨work, seen', run, filled⟩
  · exact Or.inl (by simp [fill, endless, bind, Except.bind])
  · exact Or.inr ⟨work.chart, by simp [fill, run, bind, Except.bind, pure, Except.pure], filled⟩

/-- A chart is filled only if there is room for it. -/
theorem fits_of_fill (run : p.fill policy = .ok chart) : p.tokens.length < Chart.maxLength := by
  cases made : Chart.make p.tokens.length policy with
  | error fault => simp [fill, fillWith, seeded, made, bind, Except.bind] at run
  | ok chart => exact Chart.lt_maxLength_of_make made

/-- A chart that the machine has filled is filled. -/
theorem Filled.of_fill (run : p.fill policy = .ok chart) : p.Filled policy chart := by
  rcases fill_cases (p := p) policy (fits_of_fill run) with endless | ⟨chart', run', filled⟩
  · rw [endless] at run
    cases run
  · rw [run, Except.ok.injEq] at run'
    exact run' ▸ filled

/-- A chart is filled by seeding it and walking through all its cells. -/
theorem fill_eq_ok_iff : p.fill policy = .ok chart ↔ ∃ first last,
    p.seeded policy 0 = .ok first ∧
    p.walk (fun _ seen => seen) first.chart.length first () = some (.ok (last, ())) ∧
    last.chart = chart := by
  constructor
  · intro run
    cases seeded : p.seeded policy 0 with
    | error fault => simp [fill, fillWith, seeded, bind, Except.bind] at run
    | ok first =>
        cases walked : p.walk (fun _ seen => seen) first.chart.length first () with
        | none => simp [fill, fillWith, seeded, walked, bind, Except.bind] at run
        | some result =>
            rcases (Reaches.seeded seeded).walk walked with ⟨last, _, rfl, _⟩
            simp only [fill, fillWith, seeded, walked, bind, Except.bind, pure, Except.pure,
              Option.getD_some, Except.ok.injEq] at run
            exact ⟨first, last, rfl, walked, run⟩
  · rintro ⟨first, last, seeded, walked, rfl⟩
    simp only [fill, fillWith, seeded, walked, bind, Except.bind, pure, Except.pure,
      Option.getD_some]

/-! ## Walks that end -/

/-- A walk through several cells ends if every walk through one cell does. -/
theorem exists_walk {σ : Type} {observe : Worklist → σ → σ} {serial : Nat}
    (ends : ∀ work, p.Reaches policy serial work →
      ∀ seen, ∃ result, p.walkCell observe work seen = some result)
    (cells : Nat) {work : Worklist} (reached : p.Reaches policy serial work) (seen : σ) :
    ∃ result, p.walk observe cells work seen = some result := by
  induction cells generalizing work seen with
  | zero => exact ⟨_, rfl⟩
  | succ cells ih =>
      rcases ends work reached seen with ⟨inner, walked⟩
      rcases reached.walkCell walked with ⟨middle, seen', rfl, reached', done, _⟩
      simp only [walk, walked]
      exact ih (.advanced reached' done) seen'

/-- A chart is filled if every walk through one cell ends and there is room for
the sentence. -/
theorem exists_fill_of_walkCell (fits : p.tokens.length < Chart.maxLength)
    (ends : ∀ work, p.Reaches policy 0 work →
      ∃ result, p.walkCell (fun _ (seen : Unit) => seen) work () = some result) :
    ∃ chart, p.fill policy = .ok chart := by
  rcases exists_seeded policy 0 fits with ⟨work, run, _⟩
  rcases exists_walk (fun work reached _ => ends work reached) work.chart.length (.seeded run) ()
    with ⟨result, walked⟩
  rcases (Reaches.seeded run).walk walked with ⟨last, _, rfl, _⟩
  exact ⟨last.chart, fill_eq_ok_iff.mpr ⟨work, last, run, walked, rfl⟩⟩

end Problem

/-! ## The forest -/

namespace Chart

/-- The tree that an arc contributes to a forest. -/
def rootOf (start : Symbol) (a : Arc) : Option Tree :=
  if a.span.start = 0 then a.built.filter (·.head = start) else none

variable {p : Problem} {chart : Chart} {start : Symbol}

theorem rootOf_eq_some {a : Arc} {t : Tree} :
    rootOf start a = some t ↔ a.span.start = 0 ∧ a.built = some t ∧ t.head = start := by
  unfold rootOf
  split <;> simp_all [Option.filter_eq_some_iff]

theorem rooted_eq (start : Symbol) {a : Arc} (sound : a.Sound p) :
    rooted start a = .ok (rootOf start a) := by
  unfold rooted rootOf
  by_cases first : a.span.start = 0
  · rcases sound.built_eq with ⟨incomplete, nothing⟩ | ⟨complete, serial, node⟩
    · simp [first, incomplete, nothing]
    · simp only [first, complete, node, and_self, if_true, Option.filter_some, decide_eq_true_eq]
  · simp [first]

theorem rootedAll_eq {arcs : List Arc} (sound : ∀ a ∈ arcs, a.Sound p) :
    rootedAll start arcs = .ok (arcs.filterMap (rootOf start)) := by
  induction arcs with
  | nil => rfl
  | cons a arcs ih =>
      have first := rooted_eq start (sound a (List.mem_cons_self ..))
      have rest := ih fun b member => sound b (List.mem_cons_of_mem a member)
      simp only [rootedAll, first, rest, bind, Except.bind, pure, Except.pure]
      cases root : rootOf start a <;> simp [root]

/-- The forest of a chart of sound arcs. -/
theorem forest_eq (start : Symbol) (charted : p.Charted chart) :
    chart.forest start = .ok ((chart.arcsIn p.tokens.length).filterMap (rootOf start)) := by
  have last : (chart.length : Int) - 1 = (p.tokens.length : Nat) := by
    rw [charted.length_eq]
    omega
  have inside : p.tokens.length < chart.length := by
    rw [charted.length_eq]
    omega
  rw [forest, last, arcsAt_natCast inside]
  exact rootedAll_eq fun a member => charted.sound member

end Chart

/-! ## Parses -/

namespace Problem

/-- The trees over the whole sentence that are headed by the start symbol. -/
def roots (p : Problem) (chart : Chart) : List Tree :=
  (chart.arcsIn p.tokens.length).filterMap (Chart.rootOf p.start)

theorem mem_roots {p : Problem} {chart : Chart} {t : Tree} :
    t ∈ p.roots chart ↔ ∃ a ∈ chart.arcsIn p.tokens.length,
      a.span.start = 0 ∧ a.built = some t ∧ t.head = p.start := by
  simp only [roots, List.mem_filterMap, Chart.rootOf_eq_some]

end Problem

namespace Parser

/-- The walk that fills the chart of the sentence comes to an end. -/
def Ends (parser : Parser) (start : Symbol) (tokens : List Text) : Prop :=
  ∃ chart, parser.fill start tokens = .ok chart

variable {parser : Parser} {start : Symbol} {tokens : List Text}

/-- A parse whose walk ends lists the roots of a filled chart. -/
theorem Ends.parse_eq (ends : parser.Ends start tokens) :
    ∃ chart, (parser.problem start tokens).Filled parser.policy chart ∧
      parser.parse start tokens = .ok ((parser.problem start tokens).roots chart) := by
  rcases ends with ⟨chart, run⟩
  have filled := Problem.Filled.of_fill run
  refine ⟨chart, filled, ?_⟩
  have forest := Chart.forest_eq start filled.charted
  change (parser.problem start tokens).fill parser.policy = .ok chart at run
  rw [parse, Problem.parse, run]
  exact forest

theorem Ends.fits (ends : parser.Ends start tokens) : tokens.length < Chart.maxLength := by
  rcases ends with ⟨chart, run⟩
  exact Problem.fits_of_fill run

/-- A parse that returns trees has filled a chart. -/
theorem Ends.of_parse {trees : List Tree} (parsed : parser.parse start tokens = .ok trees) :
    parser.Ends start tokens := by
  cases run : parser.fill start tokens with
  | error fault =>
      change (parser.problem start tokens).fill parser.policy = .error fault at run
      rw [parse, Problem.parse, run] at parsed
      cases parsed
  | ok chart => exact ⟨chart, run⟩

end Parser
end ParseForest
