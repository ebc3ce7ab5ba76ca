import Pipeline.Proofs.Expression.Conditions

/-! What the status of a job can change. The value of an expression depends on it only where the
expression calls a function that asks for it, at any depth and in any letter case, or names the
context of the job; and a condition that does neither is held back by it as a whole. -/

namespace Pipeline.Expression

variable {part expr : Expr} {name key : String} {args : List Expr}

/-- The first expression stands somewhere in the second one, or is the whole of it. -/
inductive Inside (part : Expr) : Expr → Prop where
  | whole : Inside part part
  | argument {name : String} {args : List Expr} {arg : Expr} (h : Inside part arg)
      (hmem : arg ∈ args) : Inside part (.call name args)
  | object {object key : Expr} (h : Inside part object) : Inside part (.index object key)
  | key {object key : Expr} (h : Inside part key) : Inside part (.index object key)
  | owner {object : Expr} {property : String} (h : Inside part object) :
      Inside part (.member object property)
  | inner {inner : Expr} (h : Inside part inner) : Inside part (.not inner)
  | left {op : BinaryOp} {left right : Expr} (h : Inside part left) :
      Inside part (.binary op left right)
  | right {op : BinaryOp} {left right : Expr} (h : Inside part right) :
      Inside part (.binary op left right)

theorem Inside.trans {inner : Expr} (h : Inside part inner) (hinner : Inside inner expr) :
    Inside part expr := by
  induction hinner with
  | whole => exact h
  | argument _ hmem ih => exact .argument ih hmem
  | object _ ih => exact .object ih
  | key _ ih => exact .key ih
  | owner _ ih => exact .owner ih
  | inner _ ih => exact .inner ih
  | left _ ih => exact .left ih
  | right _ ih => exact .right ih

theorem Inside.eq_of_context (h : Inside part (.context name)) : part = .context name := by
  cases h
  rfl

/-! ### Functions that ask for the status -/

theorem statusChecks_folded : ∀ check ∈ statusChecks, Text.foldAscii check = check := by
  decide +kernel

theorem isStatusCheck_iff :
    isStatusCheck name = true ↔
      ∃ check ∈ statusChecks, Text.equalFoldingAscii name check = true := by
  have hfold : isStatusCheck name = statusChecks.contains (Text.foldAscii name) := rfl
  rw [hfold, List.contains_iff_mem]
  constructor
  · intro h
    refine ⟨_, h, ?_⟩
    rw [Text.equalFoldingAscii, statusChecks_folded _ h, beq_self_eq_true]
  · rintro ⟨check, hcheck, heq⟩
    rw [Text.equalFoldingAscii, beq_iff_eq, statusChecks_folded _ hcheck] at heq
    exact heq ▸ hcheck

/-- The names by which functions are found are told apart from those that ask for the status in the
same way as by the syntax. -/
theorem asks_iff_of_ofName? {builtin : Builtin} (h : Builtin.ofName? key = some builtin) :
    statusChecks.contains key = true ↔
      builtin ∈ [Builtin.success, .failure, .always, .cancelled] := by
  obtain ⟨before, after, htable, -⟩ := List.lookup_eq_some_iff.mp h
  have hall : ∀ entry ∈ before ++ (key, builtin) :: after, statusChecks.contains entry.1 = true ↔
      entry.2 ∈ [Builtin.success, .failure, .always, .cancelled] := by
    rw [← htable]
    decide +kernel
  exact hall (key, builtin) (by simp)

/-- A function that does not ask for the status gives the same answer whatever it is. -/
theorem call_flags {builtin : Builtin} (h : Builtin.ofName? (name.map Char.toLower) = some builtin)
    (hplain : isStatusCheck name = false) (values : List Json) (flags flags' : JobFlags) :
    builtin.call name values flags = builtin.call name values flags' := by
  have hasks : builtin ∉ [Builtin.success, .failure, .always, .cancelled] := by
    rw [← asks_iff_of_ofName? h]
    exact Bool.eq_false_iff.mp hplain
  unfold Builtin.call
  split <;> simp_all

/-! ### Calls in an expression -/

theorem anyStatusCheck_iff :
    Expr.anyStatusCheck args = true ↔ ∃ arg ∈ args, arg.hasStatusCheck = true := by
  induction args with
  | nil => simp [Expr.anyStatusCheck]
  | cons arg rest ih => simp [Expr.anyStatusCheck, ih]

theorem hasStatusCheck_of_inside (h : Inside (.call name args) expr)
    (hcheck : isStatusCheck name = true) : expr.hasStatusCheck = true := by
  induction h with
  | whole => rw [Expr.hasStatusCheck, hcheck, Bool.true_or]
  | argument _ hmem ih =>
    rw [Expr.hasStatusCheck, anyStatusCheck_iff.mpr ⟨_, hmem, ih⟩, Bool.or_true]
  | object _ ih | left _ ih => rw [Expr.hasStatusCheck, ih, Bool.true_or]
  | key _ ih | right _ ih => rw [Expr.hasStatusCheck, ih, Bool.or_true]
  | owner _ ih | inner _ ih => rw [Expr.hasStatusCheck, ih]

mutual

theorem exists_inside_of_hasStatusCheck (expr : Expr) (h : expr.hasStatusCheck = true) :
    ∃ name args, Inside (.call name args) expr ∧ isStatusCheck name = true := by
  match expr with
  | .null | .bool _ | .number _ | .text _ | .context _ => simp [Expr.hasStatusCheck] at h
  | .call name args =>
    rw [Expr.hasStatusCheck, Bool.or_eq_true] at h
    obtain hname | hargs := h
    · exact ⟨name, args, .whole, hname⟩
    · obtain ⟨arg, hmem, check, within, hinside, hcheck⟩ :=
        exists_inside_of_anyStatusCheck args hargs
      exact ⟨check, within, .argument hinside hmem, hcheck⟩
  | .index object key =>
    rw [Expr.hasStatusCheck, Bool.or_eq_true] at h
    obtain hobject | hkey := h
    · obtain ⟨check, within, hinside, hcheck⟩ := exists_inside_of_hasStatusCheck object hobject
      exact ⟨check, within, .object hinside, hcheck⟩
    · obtain ⟨check, within, hinside, hcheck⟩ := exists_inside_of_hasStatusCheck key hkey
      exact ⟨check, within, .key hinside, hcheck⟩
  | .member object property =>
    obtain ⟨check, within, hinside, hcheck⟩ := exists_inside_of_hasStatusCheck object h
    exact ⟨check, within, .owner hinside, hcheck⟩
  | .not inner =>
    obtain ⟨check, within, hinside, hcheck⟩ := exists_inside_of_hasStatusCheck inner h
    exact ⟨check, within, .inner hinside, hcheck⟩
  | .binary op left right =>
    rw [Expr.hasStatusCheck, Bool.or_eq_true] at h
    obtain hleft | hright := h
    · obtain ⟨check, within, hinside, hcheck⟩ := exists_inside_of_hasStatusCheck left hleft
      exact ⟨check, within, .left hinside, hcheck⟩
    · obtain ⟨check, within, hinside, hcheck⟩ := exists_inside_of_hasStatusCheck right hright
      exact ⟨check, within, .right hinside, hcheck⟩

theorem exists_inside_of_anyStatusCheck (args : List Expr) (h : Expr.anyStatusCheck args = true) :
    ∃ arg ∈ args, ∃ name args, Inside (.call name args) arg ∧ isStatusCheck name = true := by
  match args with
  | [] => simp [Expr.anyStatusCheck] at h
  | arg :: rest =>
    rw [Expr.anyStatusCheck, Bool.or_eq_true] at h
    obtain harg | hrest := h
    · exact ⟨arg, List.mem_cons_self, exists_inside_of_hasStatusCheck arg harg⟩
    · obtain ⟨arg, hmem, hinside⟩ := exists_inside_of_anyStatusCheck rest hrest
      exact ⟨arg, List.mem_cons_of_mem _ hmem, hinside⟩

end

/-- The syntactic check sees every call, wherever it stands and in whatever letter case. -/
theorem hasStatusCheck_iff : expr.hasStatusCheck = true ↔
    ∃ name args, Inside (.call name args) expr ∧
      ∃ check ∈ statusChecks, Text.equalFoldingAscii name check = true := by
  simp only [← isStatusCheck_iff]
  exact ⟨exists_inside_of_hasStatusCheck expr, fun ⟨_, _, hinside, hcheck⟩ =>
    hasStatusCheck_of_inside hinside hcheck⟩

/-! ### Evaluation under another status -/

/-- Nothing in the expression asks for the status of the job. -/
structure Unaware (expr : Expr) : Prop where
  calls {name : String} {args : List Expr} (h : Inside (.call name args) expr) :
    isStatusCheck name = false
  root : ¬ Inside (.context "job") expr

theorem Unaware.inside (h : Unaware expr) (hpart : Inside part expr) : Unaware part where
  calls hcall := h.calls (hcall.trans hpart)
  root hroot := h.root (hroot.trans hpart)

theorem unaware_of_hasStatusCheck (h : expr.hasStatusCheck = false)
    (hroot : ¬ Inside (.context "job") expr) : Unaware expr where
  calls hinside := Bool.eq_false_iff.mpr fun hcheck => by
    rw [hasStatusCheck_of_inside hinside hcheck] at h
    cases h
  root := hroot

theorem lookup_flags (context : Context) (flags : JobFlags) (h : name ≠ "job") :
    Context.lookup { context with job := flags } name = context.lookup name := by
  unfold Context.lookup
  split <;> simp_all

mutual

theorem eval_flags (context : Context) (flags : JobFlags) (expr : Expr) (h : Unaware expr) :
    expr.eval { context with job := flags } = expr.eval context := by
  match expr with
  | .null | .bool _ | .number _ | .text _ => rfl
  | .context name =>
    have hname : name ≠ "job" := by
      rintro rfl
      exact h.root .whole
    rw [Expr.eval, Expr.eval, lookup_flags context flags hname]
  | .call name args =>
    have hargs := evalArgs_flags context flags args fun arg hmem => h.inside (.argument .whole hmem)
    rw [Expr.eval, Expr.eval, hargs]
    cases hbuiltin : Builtin.ofName? (name.map Char.toLower) with
    | none => rfl
    | some builtin =>
      have hcall (values : List Json) :=
        call_flags hbuiltin (h.calls .whole) values flags context.job
      simp only [hcall]
  | .index object key =>
    rw [Expr.eval, Expr.eval, eval_flags context flags object (h.inside (.object .whole)),
      eval_flags context flags key (h.inside (.key .whole))]
  | .member object property =>
    rw [Expr.eval, Expr.eval, eval_flags context flags object (h.inside (.owner .whole))]
  | .not inner =>
    rw [Expr.eval, Expr.eval, eval_flags context flags inner (h.inside (.inner .whole))]
  | .binary op left right =>
    have hleft := eval_flags context flags left (h.inside (.left .whole))
    have hright := eval_flags context flags right (h.inside (.right .whole))
    cases op <;> simp only [Expr.eval, hleft, hright]

theorem evalArgs_flags (context : Context) (flags : JobFlags) (args : List Expr)
    (h : ∀ arg ∈ args, Unaware arg) :
    Expr.evalArgs { context with job := flags } args = Expr.evalArgs context args := by
  match args with
  | [] => rfl
  | arg :: rest =>
    obtain ⟨harg, hrest⟩ := List.forall_mem_cons.mp h
    rw [Expr.evalArgs, Expr.evalArgs, eval_flags context flags arg harg,
      evalArgs_flags context flags rest hrest]

end

/-! ### Conditions -/

variable {text : String}

theorem parse_empty : parse "" = .error ⟨.unexpected "EOF", 1⟩ := by
  have htokens : tokenize "" = .ok [] := rfl
  rw [parse, htokens]
  simp [parseTokens, parseLevel, parseUnary, parsePrimary, Level.tighter?, failAt, renderFront]

/-- A condition that can be read is evaluated with its guard. -/
theorem evaluateCondition_of_parse (h : parse (stripWrapper text) = .ok expr) (context : Context) :
    evaluateCondition (some text) context = ((guardStatus expr).eval context).map isTruthy := by
  have hne : stripWrapper text ≠ "" := by
    intro hempty
    rw [hempty, parse_empty] at h
    cases h
  have hsource : ((some text).map stripWrapper).getD "" = stripWrapper text := rfl
  unfold evaluateCondition
  rw [hsource]
  dsimp only
  rw [if_neg hne, h]
  dsimp only
  cases (guardStatus expr).eval context <;> rfl

theorem eval_guardStatus (h : expr.hasStatusCheck = false) (context : Context) :
    (guardStatus expr).eval context =
      if context.job.succeeds then expr.eval context else .ok (.bool false) := by
  rw [guardStatus, if_neg (Bool.eq_false_iff.mp h), Expr.eval, eval_success]
  cases context.job.succeeds <;> rfl

/-- An expression that does not ask for the status of the job has the same value, or the same error,
under every status. A condition that does not ask for it does not hold once the job has failed or
was cancelled, even where it has no value, and says what its expression says until then; one that
asks for it, wherever it does so and in whatever letter case, says what its expression says. -/
theorem status_seen_where_asked :
    (∀ expr : Expr, expr.hasStatusCheck = false → ¬ Inside (.context "job") expr →
      ∀ (context : Context) (flags : JobFlags),
        expr.eval { context with job := flags } = expr.eval context) ∧
    ∀ text expr, parse (stripWrapper text) = .ok expr →
      (expr.hasStatusCheck = true ↔ ∃ name args, Inside (.call name args) expr ∧
        ∃ check ∈ ["success", "failure", "always", "cancelled"],
          Text.equalFoldingAscii name check = true) ∧
      ∀ context : Context,
        (expr.hasStatusCheck = true →
          evaluateCondition (some text) context = (expr.eval context).map isTruthy) ∧
        (expr.hasStatusCheck = false → context.job.failed = true ∨ context.job.cancelled = true →
          evaluateCondition (some text) context = .ok false) ∧
        (expr.hasStatusCheck = false → context.job.failed = false → context.job.cancelled = false →
          evaluateCondition (some text) context = (expr.eval context).map isTruthy) := by
  constructor
  · intro expr hplain hroot context flags
    exact eval_flags context flags expr (unaware_of_hasStatusCheck hplain hroot)
  · intro text expr hparse
    refine ⟨hasStatusCheck_iff, fun context => ?_⟩
    rw [evaluateCondition_of_parse hparse context]
    refine ⟨fun hasks => ?_, fun hplain hstatus => ?_, fun hplain hfailed hcancelled => ?_⟩
    · rw [guardStatus, if_pos hasks]
    · have hsucceeds : context.job.succeeds = false := by
        obtain hfailed | hcancelled := hstatus
        · rw [JobFlags.succeeds, hfailed]
          rfl
        · rw [JobFlags.succeeds, hcancelled, Bool.not_true, Bool.and_false]
      rw [eval_guardStatus hplain, hsucceeds]
      rfl
    · have hsucceeds : context.job.succeeds = true := by
        rw [JobFlags.succeeds, hfailed, hcancelled]
        rfl
      rw [eval_guardStatus hplain, if_pos hsucceeds]

/-- A condition that has no value does not hold after a failure; one that asks for the failure, in
capital letters and under a negation, is evaluated as it is written. -/
theorem status_seen_where_asked_failed :
    let failed : Context := { Context.empty with job := ⟨true, false⟩ }
    let broken : Expr := .member (.context "secrets") "token"
    (broken.eval failed = .error (.unknownContext "secrets") ∧
      broken.eval failed = broken.eval Context.empty ∧
      evaluateCondition (some "$\x7b\x7b secrets.token \x7d\x7d") failed = .ok false) ∧
    evaluateCondition (some "!FAILURE()") failed = .ok false ∧
    evaluateCondition (some "!FAILURE()") Context.empty = .ok true := by
  obtain ⟨hexprs, hconditions⟩ := status_seen_where_asked
  intro failed broken
  have hbroken : parse (stripWrapper "$\x7b\x7b secrets.token \x7d\x7d") = .ok broken := by
    have htokens : tokenize (stripWrapper "$\x7b\x7b secrets.token \x7d\x7d") =
        .ok [.name "secrets", .symbol .dot, .name "token"] := by
      decide +kernel
    rw [parse, htokens]
    simp [parseTokens, parseLevel, parseChain, parseUnary, parsePrimary, parseAccess,
      propertyName?, Level.tighter?, afterSymbol?, broken]
  have hasking : parse (stripWrapper "!FAILURE()") = .ok (.not (.call "FAILURE" [])) := by
    have htokens : tokenize (stripWrapper "!FAILURE()") =
        .ok [.symbol .not, .name "FAILURE", .symbol .openParen, .symbol .closeParen] := by
      decide +kernel
    rw [parse, htokens]
    simp [parseTokens, parseLevel, parseChain, parseUnary, parsePrimary, parseAccess,
      Level.tighter?, afterSymbol?]
  have hroot : ¬ Inside (.context "job") (.member (.context "secrets") "token") := by
    intro h
    cases h with
    | owner h => exact absurd (Expr.context.inj h.eq_of_context) (by decide)
  have hseen : (Expr.not (.call "FAILURE" [])).hasStatusCheck = true := by decide +kernel
  have hvalue (context : Context) : ((Expr.not (.call "FAILURE" [])).eval context).map isTruthy =
      .ok !(context.job.failed && !context.job.cancelled) := by
    rw [Expr.eval, eval_call .failure context (by decide +kernel)]
    rfl
  refine ⟨⟨rfl, hexprs broken rfl hroot Context.empty _, ?_⟩, ?_, ?_⟩
  · exact ((hconditions _ _ hbroken).2 failed).2.1 rfl (.inl rfl)
  · rw [((hconditions _ _ hasking).2 failed).1 hseen, hvalue]
    rfl
  · rw [((hconditions _ _ hasking).2 Context.empty).1 hseen, hvalue]
    rfl

end Pipeline.Expression
