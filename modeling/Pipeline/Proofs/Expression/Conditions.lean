import Mathlib.Control.Monad.Basic
import Pipeline.Expression.Template

/-! The conditions of steps and the status that they ask for. -/

namespace Pipeline.Expression

/-- The call of a function without arguments, as tokens. -/
theorem parseTokens_call (name : String) :
    parseTokens [.name name, .symbol .openParen, .symbol .closeParen] = .ok (.call name []) := by
  simp [parseTokens, parseLevel, parseChain, parseUnary, parsePrimary, parseAccess, Level.tighter?,
    afterSymbol?]

theorem parse_of_tokenize {source name : String}
    (h : tokenize source = .ok [.name name, .symbol .openParen, .symbol .closeParen]) :
    parse source = .ok (.call name []) := by
  rw [parse, h]
  exact parseTokens_call name

theorem eval_call {name : String} (builtin : Builtin) (context : Context)
    (h : Builtin.ofName? (name.map Char.toLower) = some builtin) :
    (Expr.call name []).eval context = builtin.call name [] context.job := by
  rw [Expr.eval, Expr.evalArgs]
  simp only [bind, Except.bind, h]

theorem eval_success (context : Context) :
    (Expr.call "success" []).eval context = .ok (.bool context.job.succeeds) :=
  eval_call .success context (by decide +kernel)

/-- `success()` says that no earlier step failed or was cancelled. -/
theorem evaluate_success (context : Context) :
    evaluate "success()" context = .ok (.bool context.job.succeeds) := by
  have hparse : parse "success()" = .ok (.call "success" []) :=
    parse_of_tokenize (by decide +kernel)
  rw [evaluate, hparse]
  exact eval_success context

/-- `failure()` says that an earlier step failed, unless one was cancelled. -/
theorem evaluate_failure (context : Context) :
    evaluate "failure()" context = .ok (.bool (context.job.failed && !context.job.cancelled)) := by
  have hparse : parse "failure()" = .ok (.call "failure" []) :=
    parse_of_tokenize (by decide +kernel)
  rw [evaluate, hparse]
  exact eval_call .failure context (by decide +kernel)

/-- The text of a condition without its marks. -/
def conditionText (condition : Option String) : String :=
  (condition.map stripWrapper).getD ""

/-- The condition calls a function that asks for the status of the job. -/
def AsksStatus (condition : Option String) : Prop :=
  ∃ expr, parse (conditionText condition) = .ok expr ∧ expr.hasStatusCheck = true

/-- The condition has a syntax tree, unless it is empty. -/
def IsReadable (condition : Option String) : Prop :=
  conditionText condition = "" ∨ ∃ expr, parse (conditionText condition) = .ok expr

/-- A condition of which nothing is left without its marks asks for success. -/
theorem evaluateCondition_of_empty {text : String} (h : stripWrapper text = "")
    (context : Context) : evaluateCondition (some text) context = .ok context.job.succeeds := by
  have hsource : ((some text).map stripWrapper).getD "" = stripWrapper text := rfl
  unfold evaluateCondition
  rw [hsource]
  exact if_pos h

theorem evaluateCondition_of_error {text : String} {e : ParseError}
    (hne : stripWrapper text ≠ "") (h : parse (stripWrapper text) = .error e) (context : Context) :
    evaluateCondition (some text) context = .error (.parse e) := by
  have hsource : ((some text).map stripWrapper).getD "" = stripWrapper text := rfl
  unfold evaluateCondition
  rw [hsource]
  dsimp only
  rw [if_neg hne, h]

/-- After a failure, a condition that does not ask for the status does not hold: it is not even
evaluated, and only one that cannot be read is an error. -/
theorem evaluateCondition_of_not_succeeds (condition : Option String) (context : Context)
    (hfailed : context.job.succeeds = false) (hasks : ¬ AsksStatus condition) :
    evaluateCondition condition context = .ok false ∨
      ¬ IsReadable condition ∧ ∃ e, evaluateCondition condition context = .error e := by
  have hcondition : (condition.map stripWrapper).getD "" = conditionText condition := rfl
  unfold evaluateCondition
  rw [hcondition]
  dsimp only
  split
  · exact .inl (congrArg _ hfailed)
  · next hsource =>
    split
    · next e hparse =>
      refine .inr ⟨?_, _, rfl⟩
      rintro (hempty | ⟨expr, hexpr⟩)
      · exact hsource hempty
      · rw [hparse] at hexpr
        cases hexpr
    · next expr hparse =>
      have hplain : expr.hasStatusCheck = false :=
        Bool.eq_false_iff.mpr fun hcheck => hasks ⟨expr, hparse, hcheck⟩
      have heval : (guardStatus expr).eval context = .ok (.bool false) := by
        rw [guardStatus, if_neg (Bool.eq_false_iff.mp hplain), Expr.eval, eval_success, hfailed]
        rfl
      rw [heval]
      exact .inl rfl

end Pipeline.Expression
