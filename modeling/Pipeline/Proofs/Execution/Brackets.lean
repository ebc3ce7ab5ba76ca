import Pipeline.Proofs.Execution.Visits

/-! What a job instance reports while it runs: the start and the end of every step that is entered,
as brackets around those of the steps inside of it. -/

namespace Pipeline

/-- What is reported with the deed. -/
def Deed.event? : Deed → Option JobEvent
  | reported event => some event
  | _ => none

/-- What is reported on the way. -/
def reports (deeds : List Deed) : List JobEvent :=
  deeds.filterMap Deed.event?

theorem reports_append (deeds deeds' : List Deed) :
    reports (deeds ++ deeds') = reports deeds ++ reports deeds' :=
  List.filterMap_append

theorem reports_cons {d : Deed} (h : d.event? = none) (deeds : List Deed) :
    reports (d :: deeds) = reports deeds :=
  List.filterMap_cons_none h

namespace JobEvent

/-- The event stands on its own: it neither opens nor closes anything. -/
def isRemark : JobEvent → Bool
  | stepOutput .. | stepSkipped .. => true
  | _ => false

/-- The brackets of steps match, where some steps are open, the innermost first: the event that
closes a step has its name and its depth, and the depth is the number of the steps around it. -/
def Balanced : List String → List JobEvent → Prop
  | opened, [] => opened = []
  | opened, stepStarted name depth :: rest =>
    depth = opened.length ∧ Balanced (name :: opened) rest
  | opened, stepCompleted name depth _ _ :: rest =>
    ∃ outer, opened = name :: outer ∧ depth = outer.length ∧ Balanced outer rest
  | opened, stepOutput .. :: rest | opened, stepSkipped .. :: rest => Balanced opened rest
  | _, started .. :: _ | _, completed .. :: _ => False

theorem balanced_filter {opened : List String} {events : List JobEvent}
    (h : Balanced opened (events.filter (!·.isRemark))) : Balanced opened events := by
  induction events generalizing opened with
  | nil => exact h
  | cons event rest ih =>
    cases event with
    | started | completed => exact h
    | stepStarted => exact ⟨h.1, ih h.2⟩
    | stepCompleted =>
      obtain ⟨outer, hopened, hdepth, hrest⟩ := h
      exact ⟨outer, hopened, hdepth, ih hrest⟩
    | stepOutput | stepSkipped => exact ih h

end JobEvent

/-- What is reported on the way, but for the remarks. -/
def marks (deeds : List Deed) : List JobEvent :=
  (reports deeds).filter (!·.isRemark)

theorem marks_append (deeds deeds' : List Deed) :
    marks (deeds ++ deeds') = marks deeds ++ marks deeds' := by
  rw [marks, reports_append, List.filter_append]
  rfl

theorem marks_eq_nil {deeds : List Deed}
    (h : ∀ d ∈ deeds, ∀ event, d = .reported event → event.isRemark = true) : marks deeds = [] := by
  refine List.filter_eq_nil_iff.mpr fun event hevent => ?_
  obtain ⟨d, hd, hreported⟩ := List.mem_filterMap.mp hevent
  cases d with
  | reported =>
    cases hreported
    simpa using h _ hd event rfl
  | _ => cases hreported

/-- A step that has been entered, with those inside of it. -/
inductive Span where
  | of (result : StepResult) (inside : List Span)

namespace Span

mutual

/-- The brackets of a step at a depth, around those inside. -/
def word (depth : Nat) : Span → List JobEvent
  | of result inside =>
    .stepStarted result.name depth :: words (depth + 1) inside ++
      [.stepCompleted result.name depth result.status result.exitCode]

/-- The brackets of steps in turn. -/
def words (depth : Nat) : List Span → List JobEvent
  | [] => []
  | span :: rest => span.word depth ++ words depth rest

end

theorem words_append (depth : Nat) (spans spans' : List Span) :
    words depth (spans ++ spans') = words depth spans ++ words depth spans' := by
  induction spans with
  | nil => rfl
  | cons span rest ih => rw [List.cons_append, words, words, ih, List.append_assoc]

mutual

theorem balanced_word (span : Span) {opened : List String} {events : List JobEvent}
    (h : JobEvent.Balanced opened events) :
    JobEvent.Balanced opened (span.word opened.length ++ events) := by
  obtain ⟨result, inside⟩ := span
  rw [word, List.append_assoc]
  exact ⟨rfl, balanced_words inside ⟨opened, rfl, rfl, h⟩⟩

theorem balanced_words (spans : List Span) {opened : List String} {events : List JobEvent}
    (h : JobEvent.Balanced opened events) :
    JobEvent.Balanced opened (words opened.length spans ++ events) := by
  cases spans with
  | nil => exact h
  | cons span rest =>
    rw [words, List.append_assoc]
    exact balanced_word span (balanced_words rest h)

end

end Span

namespace Setting

/-- The step is not entered, and nothing else is done for it: its job is cancelled when it is
reached, or its condition does not hold or cannot be evaluated. -/
inductive Bypassed (setting : Setting) (visit : Visit) : Prop where
  | cancelled (deeds : visit.deeds = [.looked true])
      (result : visit.result = visit.step.spec.resultOf .cancelled)
  | skipped
      (deeds : visit.deeds = [.looked false,
        .reported (.stepSkipped visit.step.spec.name visit.depth visit.step.spec.skipReason)])
      (condition : Expression.evaluateCondition visit.step.spec.condition
        (setting.info.context visit.scope visit.scope.env) = .ok false)
      (result : visit.result = visit.step.spec.resultOf .skipped)
  | invalid {e : Expression.EvalError} (deeds : visit.deeds = [.looked false])
      (condition : Expression.evaluateCondition visit.step.spec.condition
        (setting.info.context visit.scope visit.scope.env) = .error e)
      (result : visit.result = visit.step.spec.settle
        (visit.step.spec.failure ("invalid condition: " ++ e.message)))

/-- The spans of visits in turn: those of the steps that are entered, each around the spans of the
steps inside of it. -/
inductive Spans (setting : Setting) : List Visit → List Span → Prop where
  | nil : Spans setting [] []
  | bypassed {visit : Visit} {rest : List Visit} {spans : List Span}
      (out : setting.Bypassed visit) (others : Spans setting rest spans) :
      Spans setting (visit :: rest) spans
  | alone {visit : Visit} {rest : List Visit} {spans : List Span} (enters : setting.Enters visit)
      (nothing : visit.result.steps = []) (others : Spans setting rest spans) :
      Spans setting (visit :: rest) (.of visit.result [] :: spans)
  | around {visit : Visit} {inner : Row} {visits rest : List Visit} {inside spans : List Span}
      (enters : setting.Enters visit)
      (encloses : setting.Encloses visit.depth visit.step visit.deeds visit.result inner)
      (turn : setting.InTurn [] inner visits) (within : Spans setting visits inside)
      (others : Spans setting rest spans) :
      Spans setting (visit :: rest) (.of visit.result inside :: spans)

variable {setting : Setting} {Inner : Row → Prop} {depth : Nat} {scope after : Scope}
  {step : ResolvedStep} {deeds : List Deed} {result : StepResult} {row : Row} {visit : Visit}

/-- What is reported of a row, but for the remarks, is the words of its spans. -/
def Spanned (setting : Setting) (row : Row) : Prop :=
  ∀ before, ∃ visits spans, setting.InTurn before row visits ∧ setting.Spans visits spans ∧
    marks row.deeds = Span.words row.depth spans

theorem marks_entered (spec : Step) (own : StepResult) (body : List Deed) {inside : List Span}
    (hname : own.name = spec.name) (hbody : marks body = Span.words (depth + 1) inside) :
    marks (.looked false :: .reported (.stepStarted spec.name depth) :: body ++
      [.reported (.stepCompleted spec.name depth own.status own.exitCode)]) =
      Span.words depth [.of (spec.settle own) inside] := by
  have hmarks : marks (.looked false :: .reported (.stepStarted spec.name depth) :: body ++
      [.reported (.stepCompleted spec.name depth own.status own.exitCode)]) =
      .stepStarted spec.name depth :: marks body ++
        [.stepCompleted spec.name depth own.status own.exitCode] :=
    marks_append (.looked false :: .reported (.stepStarted spec.name depth) :: body) _
  rw [hmarks, hbody]
  simp [Span.words, Span.word, hname]

/-- A step adds nothing to the spans of a row, or one of its own. -/
theorem StepGoes.exists_spans (h : StepGoes setting Inner visit.depth visit.scope visit.step
      visit.deeds visit.result visit.after) (hinner : ∀ row, Inner row → setting.Spanned row) :
    ∃ spans, (∀ rest others, setting.Spans rest others →
      setting.Spans (visit :: rest) (spans ++ others)) ∧
      marks visit.deeds = Span.words visit.depth spans := by
  obtain ⟨depth, before, scope, step, deeds, result, after⟩ := visit
  dsimp only at h ⊢
  cases h with
  | cancelled =>
    exact ⟨[], fun _ _ others => .bypassed (.cancelled rfl rfl) others, rfl⟩
  | invalid condition =>
    exact ⟨[], fun _ _ others => .bypassed (.invalid rfl condition rfl) others, rfl⟩
  | skipped condition =>
    exact ⟨[], fun _ _ others => .bypassed (.skipped rfl condition rfl) others, rfl⟩
  | entered condition body =>
    have hname := body.unsettled.name
    cases body with
    | composite layers none below fresh inner =>
      obtain ⟨visits, inside, hturn, hwithin, hmarks⟩ := hinner _ inner []
      refine ⟨[.of _ inside], fun _ _ others => .around ⟨rfl, condition⟩
        ⟨⟨_, _, rfl, rfl⟩, below, ⟨_, _, fresh⟩, ?_⟩ hturn hwithin others,
        marks_entered _ _ _ hname (below ▸ hmarks)⟩
      rw [Step.settle_status, Step.settle_exitCode]
    | command =>
      -- Of what a command prints only remarks come, which no bracket is made of.
      refine ⟨[.of _ []], fun _ _ others => .alone ⟨rfl, condition⟩ (Step.settle_steps ..) others,
        marks_entered _ _ _ hname (marks_eq_nil ?_)⟩
      rintro _ hd event rfl
      simp only [List.mem_cons, List.mem_map, Deed.reported.injEq, reduceCtorEq, false_or] at hd
      obtain ⟨line, -, rfl⟩ := hd
      rfl
    | _ =>
      exact ⟨[.of _ []], fun _ _ others => .alone ⟨rfl, condition⟩ (Step.settle_steps ..) others,
        marks_entered _ _ _ hname rfl⟩

theorem Ran.spanned (h : setting.Ran row) : setting.Spanned row := by
  -- Along the steps of a row. Where a step has a row inside, its spans are known already.
  refine h.induct_runs (P := setting.Spanned) (fun _ _ _ => ⟨[], [], .nil, .nil, rfl⟩) ?_
  intro depth scope step rest first second result mid others after hruns hstep hrest before
  obtain ⟨visits, spans, hturn, hspans, hmarks⟩ := hrest (before ++ [result])
  let visit : Visit := ⟨depth, before, scope, step, first, result, mid⟩
  obtain ⟨own, hown, hfirst⟩ := @StepGoes.exists_spans _ _ visit hstep fun _ h => h.2
  refine ⟨_, own ++ spans, .cons hruns hturn, hown _ _ hspans, ?_⟩
  rw [marks_append, Span.words_append, hfirst, hmarks]

end Setting

namespace Job

/-- What is done for an instance, what it reports of that, and the result that it comes to. It
reports nothing where it is cancelled before it starts, its start and its end where it cannot start
its steps, and otherwise the brackets of the steps that were entered between the two. -/
inductive Tells (job : Job) (run : RunInfo) (hasHost : Bool) (i : Instance) (deeds : List Deed) :
    List JobEvent → JobResult → Prop where
  | nothing (looked : deeds = [.looked true]) :
      Tells job run hasHost i deeds [] (job.cancelledResult i)
  | unstarted {found : Except Error (List ResolvedStep)} {e : Error}
      (lookedUp : .lookedUp job.steps found ∈ deeds)
      (failed : InstanceInfo.prepare ⟨run, i.matrix⟩ job found = .error e) :
      Tells job run hasHost i deeds
        [.started job.id (i.displayName job.name) job.steps.length, .completed job.id .failed]
        (job.unstartedResult i e)
  | story {result : JobResult} {row : Row} {visits : List Visit} {spans : List Span}
      (ran : job.RanAs run hasHost i deeds result row)
      (turn : Setting.InTurn ⟨⟨run, i.matrix⟩, hasHost⟩ [] row visits)
      (entered : Setting.Spans ⟨⟨run, i.matrix⟩, hasHost⟩ visits spans)
      (balanced : JobEvent.Balanced [] (reports row.deeds))
      (words : marks row.deeds = Span.words 0 spans) :
      Tells job run hasHost i deeds
        (.started job.id (i.displayName job.name) job.steps.length :: reports row.deeds ++
          [.completed job.id result.status])
        result

variable {job : Job} {run : RunInfo} {hasHost : Bool} {i : Instance} {deeds : List Deed}
  {result : JobResult}

/-- An instance that is cancelled before it starts reports nothing, and every other one its start,
its end and the brackets of the steps that were entered. -/
theorem tells_of_runs (h : (job.run run hasHost i).Runs deeds result) :
    job.Tells run hasHost i deeds (reports deeds) result ∧
      (reports deeds = [] ↔ deeds.head? = some (.looked true)) := by
  cases goes h with
  | cancelled => exact ⟨.nothing rfl, fun _ => rfl, fun _ => rfl⟩
  | unstarted failed => exact ⟨.unstarted (.tail _ (.tail _ (.head _))) failed, nofun, nofun⟩
  | @finished found _ _ inner results _ ready ran =>
    obtain ⟨visits, spans, hturn, hspans, hwords⟩ := ran.spanned []
    have hbalanced : JobEvent.Balanced [] (reports inner) := by
      have hbrackets : JobEvent.Balanced [] (Span.words 0 spans ++ []) :=
        Span.balanced_words spans rfl
      rw [List.append_nil, ← hwords] at hbrackets
      exact JobEvent.balanced_filter hbrackets
    have hreports : reports (.looked false ::
        .reported (.started job.id (i.displayName job.name) job.steps.length) ::
        .lookedUp job.steps found :: inner ++ [.reported (.completed job.id (jobStatus results))]) =
        .started job.id (i.displayName job.name) job.steps.length :: reports inner ++
          [.completed job.id (jobStatus results)] :=
      reports_append ..
    rw [hreports]
    exact ⟨.story ⟨ran, rfl, ⟨found, ready, rfl⟩, rfl⟩ hturn hspans hbalanced hwords, nofun, nofun⟩

end Job

end Pipeline
