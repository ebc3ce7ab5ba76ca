import Pipeline.Expression.Token
import Pipeline.Json.Writer

/-! Expression trees. -/

namespace Pipeline.Expression

/-- Operators between two expressions. -/
inductive BinaryOp where
  | equal
  | notEqual
  | less
  | lessEqual
  | greater
  | greaterEqual
  | and
  | or
  deriving Repr, DecidableEq

/-- The spelling of an operator. -/
def BinaryOp.render : BinaryOp → String
  | equal => "=="
  | notEqual => "!="
  | less => "<"
  | lessEqual => "<="
  | greater => ">"
  | greaterEqual => ">="
  | and => "&&"
  | or => "||"

/-- An expression. -/
inductive Expr where
  | null
  | bool (value : Bool)
  | number (value : Double)
  | text (value : String)
  | context (name : String)
  | call (name : String) (args : List Expr)
  | index (object key : Expr)
  | member (object : Expr) (property : String)
  | not (inner : Expr)
  | binary (op : BinaryOp) (left right : Expr)

instance : Inhabited Expr := ⟨.null⟩

/-- The names of the functions that ask for the status of the job, in small letters. -/
def statusChecks : List String := ["success", "failure", "always", "cancelled"]

/-- Does the name, in any letter case, ask for the status of the job? -/
def isStatusCheck (name : String) : Bool :=
  statusChecks.contains (name.map Char.toLower)

mutual

/-- Does a call anywhere in the expression ask for the status of the job? -/
def Expr.hasStatusCheck : Expr → Bool
  | .call name args => isStatusCheck name || Expr.anyStatusCheck args
  | .index object key => object.hasStatusCheck || key.hasStatusCheck
  | .member object _ => object.hasStatusCheck
  | .not inner => inner.hasStatusCheck
  | .binary _ left right => left.hasStatusCheck || right.hasStatusCheck
  | _ => false

/-- Does a call in one of the expressions ask for the status of the job? -/
def Expr.anyStatusCheck : List Expr → Bool
  | [] => false
  | expr :: rest => expr.hasStatusCheck || Expr.anyStatusCheck rest

end

mutual

/-- The expression as a nested list, the operator first. -/
def Expr.render : Expr → String
  | .null => "null"
  | .bool value => if value then "true" else "false"
  | .number value => value.render numberLayout
  | .text value => Json.quote value
  | .context name => "(context " ++ name ++ ")"
  | .call name args => "(call " ++ name ++ Expr.renderArgs args ++ ")"
  | .index object key => "(index " ++ object.render ++ " " ++ key.render ++ ")"
  | .member object property => "(member " ++ object.render ++ " " ++ property ++ ")"
  | .not inner => "(! " ++ inner.render ++ ")"
  | .binary op left right => "(" ++ op.render ++ " " ++ left.render ++ " " ++ right.render ++ ")"

/-- The arguments of a call, each after a blank. -/
def Expr.renderArgs : List Expr → String
  | [] => ""
  | arg :: rest => " " ++ arg.render ++ Expr.renderArgs rest

end

end Pipeline.Expression
