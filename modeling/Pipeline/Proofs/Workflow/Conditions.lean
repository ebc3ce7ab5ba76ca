import Pipeline.Proofs.Expression.Rendering
import Pipeline.Proofs.Expression.Status
import Pipeline.Proofs.Expression.Wrapping
import Pipeline.Workflow.Check

/-! The condition of a step where it is checked and where it is evaluated. Both take the marks off
in one way and parse what is left, so they agree on every condition of which something is left. They
agree with the reader of templates on what stands between the marks, unless that holds another mark
at which an expression starts. -/

namespace Pipeline.Document

open Expression

variable {owner text source : String} {index : Nat} {ids : List String} {step : Step}
  {before after rest : List Step} {condition : String} {expr : Expr}

theorem Step.checkCondition_eq (h : step.condition = some text) :
    step.checkCondition =
      match parse (stripWrapper text) with
      | .error e => .error (.condition e)
      | .ok _ => .ok () := by
  cases hparse : parse (stripWrapper text) <;> simp [Step.checkCondition, h, hparse]

/-! ### One condition among the steps -/

/-- The identifiers in use after a step. -/
def Step.idsAfter (step : Step) (ids : List String) : List String :=
  match step.id with
  | none => ids
  | some id => id :: ids

/-- A step with a sound body and an identifier that is not in use yet, if it has one. -/
structure Step.Admitted (ids : List String) (step : Step) : Prop where
  body : step.checkBody = .ok ()
  fresh : ∀ id, step.id = some id → ids.contains id = false

theorem checkStepsFrom_cons (h : step.Admitted ids) :
    checkStepsFrom owner index ids (step :: rest) =
      match step.checkCondition with
      | .error fault => .error (.step index (step.name.getD "unnamed") owner fault)
      | .ok () => checkStepsFrom owner (index + 1) (step.idsAfter ids) rest := by
  rw [checkStepsFrom, h.body, Step.idsAfter]
  cases hid : step.id with
  | none => cases step.checkCondition <;> rfl
  | some id =>
    dsimp only
    rw [h.fresh id hid]
    cases step.checkCondition <;> rfl

theorem admitted_of_checkStepsFrom (h : checkStepsFrom owner index ids (step :: rest) = .ok ()) :
    step.Admitted ids := by
  rw [checkStepsFrom] at h
  cases hbody : step.checkBody with
  | error fault =>
    rw [hbody] at h
    cases h
  | ok =>
    refine ⟨hbody, fun id hid => ?_⟩
    rw [hbody, hid] at h
    dsimp only at h
    by_contra hused
    rw [if_pos (by simpa using hused)] at h
    cases h

/-- Where nothing else is wrong with the steps, the condition of one of them decides. -/
theorem checkStepsFrom_condition
    (h : checkStepsFrom owner index ids (before ++ { step with condition := none } :: after) =
      .ok ()) (condition : String) :
    checkStepsFrom owner index ids
        (before ++ { step with condition := some condition } :: after) =
      match parse (stripWrapper condition) with
      | .error e =>
        .error (.step (index + before.length) (step.name.getD "unnamed") owner (.condition e))
      | .ok _ => .ok () := by
  induction before generalizing index ids with
  | nil =>
    have hplain := admitted_of_checkStepsFrom h
    have hadmitted : Step.Admitted ids { step with condition := some condition } :=
      ⟨hplain.body, hplain.fresh⟩
    rw [List.nil_append, checkStepsFrom_cons hplain] at h
    rw [List.nil_append, checkStepsFrom_cons hadmitted, Step.checkCondition_eq rfl]
    cases parse (stripWrapper condition) with
    | error e => rfl
    | ok expr => exact h
  | cons first before ih =>
    have hadmitted := admitted_of_checkStepsFrom h
    rw [List.cons_append, checkStepsFrom_cons hadmitted] at h
    rw [List.cons_append, checkStepsFrom_cons hadmitted]
    cases hfirst : first.checkCondition with
    | error fault =>
      rw [hfirst] at h
      cases h
    | ok =>
      rw [hfirst] at h
      dsimp only at h ⊢
      rw [ih h, List.length_cons, Nat.add_assoc, Nat.add_comm 1]

theorem checkSteps_condition
    (hsteps : checkSteps owner (before ++ { step with condition := none } :: after) = .ok ())
    (condition : String) :
    checkSteps owner (before ++ { step with condition := some condition } :: after) =
      match parse (stripWrapper condition) with
      | .error e =>
        .error (.step before.length (step.name.getD "unnamed") owner (.condition e))
      | .ok _ => .ok () := by
  have hfrom := checkStepsFrom_condition hsteps condition
  rwa [Nat.zero_add] at hfrom

/-! ### Conditions that are checked and evaluated -/

theorem failsInValue_evaluateCondition (h : parse (stripWrapper text) = .ok expr)
    (context : Context) : FailsInValue (evaluateCondition (some text) context) := by
  rw [evaluateCondition_of_parse h]
  intro e herror
  cases hvalue : (guardStatus expr).eval context with
  | ok value =>
    rw [hvalue] at herror
    cases herror
  | error fault =>
    rw [hvalue] at herror
    cases herror
    exact failsInValue_eval context (guardStatus expr) _ hvalue

theorem evaluateCondition_of_not_vacant (h : ¬ Vacant text) {e : ParseError}
    (herror : parse (stripWrapper text) = .error e) (context : Context) :
    evaluateCondition (some text) context = .error (.parse e) := by
  have hne : stripWrapper text ≠ "" := fun hempty => h (stripWrapper_eq_empty_iff.mp hempty)
  exact evaluateCondition_of_error hne herror context

theorem failsInValue_iff_of_not_vacant (h : ¬ Vacant text) (context : Context) :
    FailsInValue (evaluateCondition (some text) context) ↔
      ∃ expr, parse (stripWrapper text) = .ok expr := by
  constructor
  · intro hvalue
    cases hparse : parse (stripWrapper text) with
    | ok expr => exact ⟨expr, rfl⟩
    | error e =>
      have hsyntactic := hvalue _ (evaluateCondition_of_not_vacant h hparse context)
      cases hsyntactic
  · rintro ⟨expr, hparse⟩
    exact failsInValue_evaluateCondition hparse context

/-- Steps with nothing else wrong in them are accepted with a condition exactly if its evaluation
fails in no context for how it is spelled, as long as something is left of the condition without its
marks. Where nothing is left the steps are refused, and the condition asks for success. Otherwise
the steps are refused for the failure that every evaluation reports. -/
theorem condition_accepted_iff_readable
    (hsteps : checkSteps owner (before ++ { step with condition := none } :: after) = .ok ())
    (condition : String) :
    let checked := checkSteps owner (before ++ { step with condition := some condition } :: after)
    let refusal := fun fault =>
      WorkflowError.step before.length (step.name.getD "unnamed") owner (.condition fault)
    ((∀ context, checked = .ok () ↔ FailsInValue (evaluateCondition (some condition) context)) ↔
      ¬ Vacant condition) ∧
    (Vacant condition → checked = .error (refusal ⟨.unexpected "EOF", 1⟩) ∧
      ∀ context, evaluateCondition (some condition) context = .ok context.job.succeeds) ∧
    (¬ Vacant condition → checked = .ok () ∨ ∃ fault, checked = .error (refusal fault) ∧
      ∀ context, evaluateCondition (some condition) context = .error (.parse fault)) := by
  intro checked refusal
  have hchecked : checked =
      match parse (stripWrapper condition) with
      | .error e => .error (refusal e)
      | .ok _ => .ok () := by
    have hdecided := checkSteps_condition hsteps condition
    -- With the parsed condition in the way the two sides would be compared by parsing it.
    generalize parse (stripWrapper condition) = parsed at hdecided ⊢
    exact hdecided
  have hvacant (h : Vacant condition) : checked = .error (refusal ⟨.unexpected "EOF", 1⟩) ∧
      ∀ context, evaluateCondition (some condition) context = .ok context.job.succeeds := by
    rw [hchecked, h.stripWrapper_eq, parse_empty]
    exact ⟨rfl, evaluateCondition_of_empty h.stripWrapper_eq⟩
  refine ⟨⟨fun hagree h => ?_, fun h context => ?_⟩, hvacant, fun h => ?_⟩
  · obtain ⟨hrefused, hasks⟩ := hvacant h
    have haccepted : checked = .ok () := (hagree .empty).mpr (hasks .empty ▸ FailsInValue.ok _)
    cases hrefused.symm.trans haccepted
  · rw [failsInValue_iff_of_not_vacant h, hchecked]
    cases parse (stripWrapper condition) with
    | ok expr => exact iff_of_true rfl ⟨expr, rfl⟩
    | error e => exact iff_of_false nofun nofun
  · rw [hchecked]
    cases hparse : parse (stripWrapper condition) with
    | ok expr => exact .inl rfl
    | error e => exact .inr ⟨e, rfl, evaluateCondition_of_not_vacant h hparse⟩

namespace Sample

def build : Step := { Step.empty with id := some "build", run := some "make" }

def notify : Step := { Step.empty with name := some "notify", run := some "mail" }

/-- The second step has the condition. -/
def steps (condition : Option String) : List Step :=
  [build] ++ { notify with condition := condition } :: []

theorem checkSteps_plain : checkSteps "job 'ci'" (steps none) = .ok () := by
  decide +kernel

theorem checkSteps_steps (condition : String) :
    checkSteps "job 'ci'" (steps (some condition)) =
      match parse (stripWrapper condition) with
      | .error e => .error (.step 1 "notify" "job 'ci'" (.condition e))
      | .ok _ => .ok () := by
  have hdecided := checkSteps_condition checkSteps_plain condition
  generalize parse (stripWrapper condition) = parsed at hdecided ⊢
  exact hdecided

end Sample

theorem condition_accepted_iff_readable_sample :
    let sound := "$\x7b\x7b failure() \x7d\x7d"
    let broken := "github.ref = 'main'"
    let fault : ParseError := ⟨.lexical .singleEquals, 11⟩
    checkSteps "job 'ci'" (Sample.steps none) = .ok () ∧
    (checkSteps "job 'ci'" (Sample.steps (some sound)) = .ok () ∧
      ∀ context, FailsInValue (evaluateCondition (some sound) context)) ∧
    checkSteps "job 'ci'" (Sample.steps (some broken)) =
        .error (.step 1 "notify" "job 'ci'" (.condition fault)) ∧
      ∀ context, evaluateCondition (some broken) context = .error (.parse fault) := by
  intro sound broken fault
  have hparse : parse (stripWrapper sound) = .ok (.call "failure" []) :=
    parse_of_tokenize (by decide +kernel)
  have herror : parse (stripWrapper broken) = .error fault := by
    have htokens : tokenize (stripWrapper broken) = .error ⟨.singleEquals, 11⟩ := by decide +kernel
    rw [parse, htokens]
  have hsound : checkSteps "job 'ci'" (Sample.steps (some sound)) = .ok () := by
    rw [Sample.checkSteps_steps, hparse]
  have hbroken : checkSteps "job 'ci'" (Sample.steps (some broken)) =
      .error (.step 1 "notify" "job 'ci'" (.condition fault)) := by
    rw [Sample.checkSteps_steps, herror]
  have hfilled {text : String} (h : stripWrapper text ≠ "") : ¬ Vacant text :=
    fun hvacant => h hvacant.stripWrapper_eq
  obtain ⟨hagree, -, -⟩ := condition_accepted_iff_readable Sample.checkSteps_plain sound
  obtain ⟨-, -, hrefused⟩ := condition_accepted_iff_readable Sample.checkSteps_plain broken
  refine ⟨Sample.checkSteps_plain, ⟨hsound, fun context => ?_⟩, hbroken, ?_⟩
  · exact (hagree.mpr (hfilled (by decide +kernel)) context).mp hsound
  · obtain hok | ⟨_, hfault, hevaluated⟩ := hrefused (hfilled (by decide +kernel))
    · cases hbroken.symm.trans hok
    · cases hbroken.symm.trans hfault
      exact hevaluated

/-- An empty condition is refused, and it asks for success where it is evaluated. -/
theorem vacant_condition_refused :
    checkSteps "job 'ci'" (Sample.steps none) = .ok () ∧
    checkSteps "job 'ci'" (Sample.steps (some "")) =
      .error (.step 1 "notify" "job 'ci'" (.condition ⟨.unexpected "EOF", 1⟩)) ∧
    (∀ context, evaluateCondition (some "") context = .ok context.job.succeeds) ∧
    ¬ ∀ context, checkSteps "job 'ci'" (Sample.steps (some "")) = .ok () ↔
      FailsInValue (evaluateCondition (some "") context) := by
  have hstrip : stripWrapper "" = "" := by decide
  have hrefused : checkSteps "job 'ci'" (Sample.steps (some "")) =
      .error (.step 1 "notify" "job 'ci'" (.condition ⟨.unexpected "EOF", 1⟩)) := by
    rw [Sample.checkSteps_steps, hstrip, parse_empty]
  have hasks (context : Context) : evaluateCondition (some "") context = .ok context.job.succeeds :=
    evaluateCondition_of_empty hstrip context
  refine ⟨Sample.checkSteps_plain, hrefused, hasks, fun hagree => ?_⟩
  have haccepted := (hagree .empty).mpr (hasks .empty ▸ FailsInValue.ok _)
  cases hrefused.symm.trans haccepted

/-! ### Conditions between marks -/

/-- As a condition the text is checked and evaluated as the expression that it is as a template. -/
structure ReadAlike (text source : String) : Prop where
  readable : ∀ expr, parse source = .ok expr →
    checkTemplate text = .ok () ∧
    (∀ step : Step, step.condition = some text → step.checkCondition = .ok ()) ∧
    ∀ context, interpolate text context = (expr.eval context).map toText ∧
      evaluateCondition (some text) context = ((guardStatus expr).eval context).map isTruthy
  unreadable : ∀ fault, parse source = .error fault →
    checkTemplate text = .error (.parse fault) ∧
    (∀ step : Step, step.condition = some text →
      step.checkCondition = .error (.condition fault)) ∧
    ∀ context, interpolate text context = .error (.parse fault) ∧
      (source ≠ "" → evaluateCondition (some text) context = .error (.parse fault))

theorem readAlike_of_stripWrapper (hsplit : split text = .ok [.expression source])
    (hstrip : stripWrapper text = source) : ReadAlike text source := by
  subst hstrip
  constructor
  · intro expr hparse
    refine ⟨?_, fun step hstep => ?_, fun context => ⟨?_, ?_⟩⟩
    · rw [checkTemplate_of_split hsplit, hparse]
    · rw [step.checkCondition_eq hstep, hparse]
    · rw [interpolate_of_split hsplit, evaluate, hparse]
    · exact evaluateCondition_of_parse hparse context
  · intro fault hparse
    refine ⟨?_, fun step hstep => ?_, fun context => ⟨?_, fun hne => ?_⟩⟩
    · rw [checkTemplate_of_split hsplit, hparse]
    · rw [step.checkCondition_eq hstep, hparse]
    · rw [interpolate_of_split hsplit, evaluate, hparse]
      rfl
    · exact evaluateCondition_of_error hne hparse context

/-- Where a text is one expression as a template, taking its marks off gives that expression exactly
if it holds no mark itself, in its quoted texts or elsewhere. With a mark in it the text keeps its
marks, and as a condition it is refused whatever the expression says. -/
theorem marks_taken_off_iff (hsplit : split text = .ok [.expression source]) :
    (stripWrapper text = source ↔ ¬ openMark <:+: source.toList) ∧
    (¬ openMark <:+: source.toList → ReadAlike text source) ∧
    (openMark <:+: source.toList → stripWrapper text = text ∧
      let fault : ParseError := ⟨.lexical (.unexpectedCharacter '$'), 0⟩
      (∀ step : Step, step.condition = some text →
        step.checkCondition = .error (.condition fault)) ∧
      ∀ context, evaluateCondition (some text) context = .error (.parse fault)) := by
  refine ⟨⟨fun h hmarked => ?_, stripWrapper_of_unmarked hsplit⟩, fun h => ?_, fun hmarked => ?_⟩
  · exact ne_of_split hsplit ((stripWrapper_of_marked hsplit hmarked).symm.trans h)
  · exact readAlike_of_stripWrapper hsplit (stripWrapper_of_unmarked hsplit h)
  · have hkept : stripWrapper text = text := stripWrapper_of_marked hsplit hmarked
    have hprefix : openMark <+: text.toList := openMark_prefix_of_split hsplit
    have hparse : parse (stripWrapper text) =
        .error ⟨.lexical (.unexpectedCharacter '$'), 0⟩ := by
      rw [hkept]
      exact parse_of_openMark hprefix
    have hne : stripWrapper text ≠ "" := by
      rw [hkept]
      rintro rfl
      simp [openMark] at hprefix
    refine ⟨hkept, fun step hstep => ?_, evaluateCondition_of_error hne hparse⟩
    rw [step.checkCondition_eq hstep, hparse]

/-- The two braces in the quotes end nothing for either reader. -/
theorem marks_taken_off_iff_sample :
    split "$\x7b\x7b '\x7d\x7d' == 'it''s' \x7d\x7d" = .ok [.expression "'\x7d\x7d' == 'it''s'"] ∧
    ¬ openMark <:+: "'\x7d\x7d' == 'it''s'".toList ∧
    stripWrapper "$\x7b\x7b '\x7d\x7d' == 'it''s' \x7d\x7d" = "'\x7d\x7d' == 'it''s'" ∧
    ReadAlike "$\x7b\x7b '\x7d\x7d' == 'it''s' \x7d\x7d" "'\x7d\x7d' == 'it''s'" := by
  have hsplit : split "$\x7b\x7b '\x7d\x7d' == 'it''s' \x7d\x7d" =
      .ok [.expression "'\x7d\x7d' == 'it''s'"] := by decide +kernel
  have hunmarked : ¬ openMark <:+: "'\x7d\x7d' == 'it''s'".toList := by decide +kernel
  obtain ⟨hstrip, halike, -⟩ := marks_taken_off_iff hsplit
  exact ⟨hsplit, hunmarked, hstrip.mpr hunmarked, halike hunmarked⟩

/-- An expression with a mark in its quotes is sound and has a value as a template; as a condition
it is refused for its own marks. -/
theorem marks_kept_around_mark :
    let text := "$\x7b\x7b '$\x7b\x7b' \x7d\x7d"
    let fault : ParseError := ⟨.lexical (.unexpectedCharacter '$'), 0⟩
    Text.trim text = text ∧ split text = .ok [.expression "'$\x7b\x7b'"] ∧
    stripWrapper text ≠ "'$\x7b\x7b'" ∧
    (∀ context, interpolate text context = .ok "$\x7b\x7b") ∧
    Step.checkCondition { Step.empty with condition := some text } = .error (.condition fault) ∧
    ∀ context, evaluateCondition (some text) context = .error (.parse fault) := by
  intro text fault
  have hsplit : split text = .ok [.expression "'$\x7b\x7b'"] := by decide +kernel
  have hstrip : stripWrapper text = text := by decide +kernel
  have hvalue (context : Context) : evaluate "'$\x7b\x7b'" context = .ok (.string "$\x7b\x7b") := by
    have htokens : tokenize "'$\x7b\x7b'" = .ok [.text "$\x7b\x7b"] := by decide +kernel
    rw [evaluate, parse, htokens]
    simp [parseTokens, parseLevel, parseChain, parseUnary, parsePrimary, parseAccess,
      Level.tighter?, Expr.eval]
  have hparse : parse (stripWrapper text) = .error fault := by
    rw [hstrip]
    exact parse_of_openMark (by decide +kernel)
  have hne : stripWrapper text ≠ "'$\x7b\x7b'" := by
    rw [hstrip]
    decide
  refine ⟨by decide +kernel, hsplit, hne, fun context => ?_, ?_, ?_⟩
  · rw [interpolate_of_split hsplit, hvalue]
    rfl
  · rw [Step.checkCondition_eq rfl, hparse]
  · exact evaluateCondition_of_error (by decide +kernel) hparse

end Pipeline.Document
