import Pipeline.Expression.Template

/-! What can go wrong when a template is rendered. An expression that has been parsed fails in its
value only, so a template that has been checked fails in the value of one of its expressions. -/

namespace Pipeline.Expression

variable {α β : Type} {context : Context} {template : String} {segments : List Segment}
  {e : EvalError}

/-- Where there is no result, the reason does not lie in the spelling of an expression or a
template. -/
def FailsInValue (result : Except EvalError α) : Prop :=
  ∀ e, result = .error e → e.isSyntactic = false

namespace FailsInValue

theorem ok (a : α) : FailsInValue (.ok a) :=
  nofun

theorem error (h : e.isSyntactic = false) : FailsInValue (.error e : Except EvalError α) := by
  rintro _ ⟨⟩
  exact h

theorem bind {result : Except EvalError α} {next : α → Except EvalError β}
    (h : FailsInValue result) (hnext : ∀ a, FailsInValue (next a)) :
    FailsInValue (result >>= next) := by
  cases result with
  | error e => exact error (h e rfl)
  | ok a => exact hnext a

end FailsInValue

/-! ### Evaluation -/

theorem failsInValue_lookup (context : Context) (name : String) :
    FailsInValue (context.lookup name) := by
  unfold Context.lookup
  split <;> first | exact .ok _ | exact .error rfl

theorem failsInValue_formatTemplate (args : List Json) (cs : List Char) :
    FailsInValue (formatTemplate args cs) := by
  fun_induction formatTemplate args cs with
  | case1 => exact .ok _
  | case4 | case5 => exact .error rfl
  | case2 _ ih | case3 _ ih | case6 _ _ _ _ _ _ _ ih | case7 _ _ _ _ _ ih =>
    exact ih.bind fun _ => .ok _

theorem failsInValue_call (builtin : Builtin) (name : String) (args : List Json)
    (flags : JobFlags) : FailsInValue (builtin.call name args flags) := by
  unfold Builtin.call
  split
  all_goals first | exact .ok _ | exact .error rfl | skip
  · exact (failsInValue_formatTemplate _ _).bind fun _ => .ok _
  · split
    · exact .ok _
    · exact .error rfl

mutual

theorem failsInValue_eval (context : Context) (expr : Expr) :
    FailsInValue (expr.eval context) := by
  match expr with
  | .null | .bool _ | .number _ | .text _ =>
    rw [Expr.eval]
    exact .ok _
  | .context name =>
    rw [Expr.eval]
    exact failsInValue_lookup context name
  | .call name args =>
    rw [Expr.eval]
    refine (failsInValue_evalArgs context args).bind fun values => ?_
    split
    · next builtin _ => exact failsInValue_call builtin name values context.job
    · exact .error rfl
  | .index object key =>
    rw [Expr.eval]
    exact (failsInValue_eval context object).bind fun _ =>
      (failsInValue_eval context key).bind fun _ => .ok _
  | .member object property =>
    rw [Expr.eval]
    exact (failsInValue_eval context object).bind fun _ => .ok _
  | .not inner =>
    rw [Expr.eval]
    exact (failsInValue_eval context inner).bind fun _ => .ok _
  | .binary op left right =>
    have hleft := failsInValue_eval context left
    have hright := failsInValue_eval context right
    cases op with
    | and =>
      rw [Expr.eval]
      refine hleft.bind fun value => ?_
      split
      · exact hright
      · exact .ok value
    | or =>
      rw [Expr.eval]
      refine hleft.bind fun value => ?_
      split
      · exact .ok value
      · exact hright
    | _ => exact hleft.bind fun _ => hright.bind fun _ => .ok _

theorem failsInValue_evalArgs (context : Context) (args : List Expr) :
    FailsInValue (Expr.evalArgs context args) := by
  match args with
  | [] =>
    rw [Expr.evalArgs]
    exact .ok _
  | arg :: rest =>
    rw [Expr.evalArgs]
    exact (failsInValue_eval context arg).bind fun _ =>
      (failsInValue_evalArgs context rest).bind fun _ => .ok _

end

/-! ### Rendering -/

/-- Rendering the template never fails in its spelling: where it fails, one of its expressions has
been parsed and has no value. -/
def FailsInEvaluation (template : String) : Prop :=
  ∀ context e, interpolate template context = .error e →
    e.isSyntactic = false ∧
      ∃ segments source expr, split template = .ok segments ∧ .expression source ∈ segments ∧
        parse source = .ok expr ∧ expr.eval context = .error e

/-- What fails in a row of pieces is one of its expressions. -/
theorem exists_of_renderSegments (h : renderSegments context segments = .error e) :
    ∃ source, .expression source ∈ segments ∧ evaluate source context = .error e := by
  induction segments with
  | nil => cases h
  | cons segment rest ih =>
    have hrest (hfails : renderSegments context rest = .error e) :
        ∃ source, .expression source ∈ segment :: rest ∧ evaluate source context = .error e := by
      obtain ⟨source, hmem, hsource⟩ := ih hfails
      exact ⟨source, .tail _ hmem, hsource⟩
    cases segment with
    | literal text =>
      rw [renderSegments] at h
      cases htail : renderSegments context rest <;> rw [htail] at h <;> cases h
      exact hrest htail
    | expression source =>
      rw [renderSegments] at h
      cases hvalue : evaluate source context with
      | error fault =>
        rw [hvalue] at h
        cases h
        exact ⟨source, .head _, hvalue⟩
      | ok value =>
        rw [hvalue] at h
        cases htail : renderSegments context rest <;> rw [htail] at h <;> cases h
        exact hrest htail

/-- Every expression of pieces that have been checked can be parsed. -/
theorem parse_of_checkSegments (h : checkSegments segments = .ok ()) :
    ∀ source, .expression source ∈ segments → ∃ expr, parse source = .ok expr := by
  induction segments with
  | nil => exact fun _ hmem => by cases hmem
  | cons segment rest ih =>
    intro source hmem
    cases segment with
    | literal text =>
      cases hmem with
      | tail _ hmem => exact ih h source hmem
    | expression first =>
      rw [checkSegments] at h
      split at h
      · cases h
      · next expr hparse =>
        cases hmem with
        | head => exact ⟨expr, hparse⟩
        | tail _ hmem => exact ih h source hmem

theorem failsInEvaluation_of_checkTemplate (h : checkTemplate template = .ok ()) :
    FailsInEvaluation template := by
  intro context e herror
  unfold checkTemplate at h
  unfold interpolate at herror
  split at h
  · cases h
  · next segments hsplit =>
    rw [hsplit] at herror
    split at herror
    · obtain ⟨source, hmem, hsource⟩ := exists_of_renderSegments herror
      obtain ⟨expr, hparse⟩ := parse_of_checkSegments h source hmem
      rw [evaluate, hparse] at hsource
      exact ⟨failsInValue_eval context expr e hsource, segments, source, expr, hsplit, hmem,
        hparse, hsource⟩
    · cases herror

end Pipeline.Expression
