import Pipeline.Expression.Template
import Pipeline.RunInfo

/-! Keys of concurrency groups. A template names the facts of a run as `${name}`, and holds
expressions besides. -/

namespace Pipeline.ConcurrencyKey

/-- Why a template gives no key. -/
inductive Error where
  | unterminated (template : String)
  | unknownPlaceholder (name : String)
  | expression (error : Expression.EvalError)
  | blank (template : String)
  deriving Repr, DecidableEq

/-- The wording of a mistake. -/
def Error.message : Error → String
  | unterminated template => "unterminated placeholder in concurrency group '" ++ template ++ "'"
  | unknownPlaceholder name =>
    "unknown placeholder '$\x7b" ++ name ++ "\x7d' in concurrency group"
  | expression error => "concurrency group: " ++ error.message
  | blank template => "concurrency group '" ++ template ++ "' rendered to an empty key"

/-- The fact of a run that a placeholder names. -/
def placeholder? (run : RunInfo) (name : String) : Option String :=
  match name with
  | "workflow" => some run.workflow.name
  | "ref" => some run.event.ref
  | "event" => some run.event.kind
  | "head_ref" => some (run.event.headRef.getD "")
  | "run_id" => some run.id
  | _ => none

/-- The template with the placeholders replaced, and with its expressions as they stand. -/
def fill (run : RunInfo) (template : String) : List Char → Except Error (List Char)
  | [] => .ok []
  | '$' :: '\x7b' :: '\x7b' :: rest => do
    pure ('$' :: '\x7b' :: (← fill run template ('\x7b' :: rest)))
  | '$' :: '\x7b' :: rest =>
    if rest.contains '\x7d' then
      let name := String.ofList (Text.trimChars (rest.takeWhile (· != '\x7d')))
      match placeholder? run name with
      | none => .error (.unknownPlaceholder name)
      | some value => do
        pure (value.toList ++ (← fill run template ((rest.dropWhile (· != '\x7d')).drop 1)))
    else .error (.unterminated template)
  | c :: rest => do pure (c :: (← fill run template rest))
termination_by cs => cs.length
decreasing_by
  all_goals simp only [List.length_cons, List.length_drop]
  · omega
  · have h : (rest.dropWhile fun c => c != '\x7d').length ≤ rest.length :=
      (List.dropWhile_suffix _).length_le
    omega
  · omega

/-- The key that a template gives for a run. It holds more than blanks. -/
def render (template : String) (run : RunInfo) : Except Error String := do
  let filled ← fill run template template.toList
  match Expression.interpolate (String.ofList filled) run.context with
  | .error e => throw (.expression e)
  | .ok key => if Text.isAllBlank key then throw (.blank template) else pure key

end Pipeline.ConcurrencyKey
