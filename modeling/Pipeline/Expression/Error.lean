import Pipeline.Expression.Parser
import Pipeline.Json.Reader

/-! Why an expression or a template has no value. -/

namespace Pipeline.Expression

/-- Why an expression or a template has no value. -/
inductive EvalError where
  | parse (error : ParseError)
  | template (error : LexError)
  | unknownContext (name : String)
  | unknownFunction (name : String)
  | argumentCount (name : String) (expected got : Nat)
  | formatWithoutTemplate
  | formatPlaceholder (text : String)
  | formatArgument (index : Nat)
  | joinArgumentCount
  | badJson (error : Json.ReadError)
  deriving Repr, DecidableEq

namespace EvalError

/-- The wording of a failure. -/
def message : EvalError → String
  | parse error => error.message
  | template error => error.message
  | unknownContext name => "unknown context '" ++ name ++ "'"
  | unknownFunction name => "unknown function '" ++ name ++ "'"
  | argumentCount name expected got =>
    name ++ "() expects " ++ toString expected ++ " argument(s), got " ++ toString got
  | formatWithoutTemplate => "format expects at least 1 argument"
  | formatPlaceholder text => "format: invalid placeholder '\x7b" ++ text ++ "\x7d'"
  | formatArgument index => "format: missing argument " ++ toString index
  | joinArgumentCount => "join expects 1 or 2 arguments"
  | badJson error => "fromJSON failed: " ++ error.message

/-- A failure in a sentence of its own. -/
def describe (message : String) : String := "evaluation error: " ++ message

/-- The failure lies in the spelling of an expression or a template, not in its value. -/
def isSyntactic : EvalError → Bool
  | parse _ | template _ => true
  | _ => false

end EvalError

end Pipeline.Expression
