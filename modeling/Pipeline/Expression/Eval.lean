import Pipeline.Expression.Function

/-! The value of an expression in its contexts. -/

namespace Pipeline.Expression

/-- What the names of an expression refer to. -/
structure Context where
  /-- The event and the workflow. -/
  github : Dict Json
  /-- The environment variables that the step sees. -/
  env : Dict Json
  /-- The values of the job's combination. -/
  matrix : Dict Json
  /-- The finished steps that have an identifier. -/
  steps : Dict Json
  /-- The inputs of the action around the step. -/
  inputs : Dict Json
  /-- Facts about the machine. -/
  runner : Dict Json
  /-- The status of the job so far. -/
  job : JobFlags

namespace Context

/-- Every context is empty and nothing has failed. -/
def empty : Context := ⟨[], [], [], [], [], [], .ok⟩

instance : Inhabited Context := ⟨empty⟩

/-- The value of a context by its name. -/
def lookup (context : Context) (name : String) : Except EvalError Json :=
  match name with
  | "github" => .ok (.object context.github)
  | "env" => .ok (.object context.env)
  | "matrix" => .ok (.object context.matrix)
  | "steps" => .ok (.object context.steps)
  | "inputs" => .ok (.object context.inputs)
  | "runner" => .ok (.object context.runner)
  | "job" => .ok (.object [("status", .string context.job.word)])
  | _ => .error (.unknownContext name)

end Context

mutual

/-- The value of an expression. The logical operators give the operand that decides and leave the
other one alone. -/
def Expr.eval (context : Context) : Expr → Except EvalError Json
  | .null => .ok .null
  | .bool value => .ok (.bool value)
  | .number value => .ok (.float value)
  | .text value => .ok (.string value)
  | .context name => context.lookup name
  | .call name args => do
    let values ← Expr.evalArgs context args
    match Builtin.ofName? (name.map Char.toLower) with
    | some builtin => builtin.call name values context.job
    | none => throw (.unknownFunction name)
  | .member object property => do
    let object ← object.eval context
    pure (getMember object property)
  | .index object key => do
    let object ← object.eval context
    let key ← key.eval context
    pure (getIndex object key)
  | .not inner => do
    let value ← inner.eval context
    pure (.bool !isTruthy value)
  | .binary .and left right => do
    let value ← left.eval context
    if isTruthy value then right.eval context else pure value
  | .binary .or left right => do
    let value ← left.eval context
    if isTruthy value then pure value else right.eval context
  | .binary op left right => do
    let a ← left.eval context
    let b ← right.eval context
    pure (.bool (op.holds a b))

/-- The values of the arguments of a call, from left to right. -/
def Expr.evalArgs (context : Context) : List Expr → Except EvalError (List Json)
  | [] => .ok []
  | arg :: rest => do
    let value ← arg.eval context
    let values ← Expr.evalArgs context rest
    pure (value :: values)

end

/-- The value of the text of an expression. -/
def evaluate (source : String) (context : Context) : Except EvalError Json :=
  match parse source with
  | .error e => .error (.parse e)
  | .ok expr => expr.eval context

end Pipeline.Expression
