import Pipeline.Describe.Workflow
import Pipeline.Error

/-! Errors as JSON: the kind of the error, its message, and whether it stops a run before it is
admitted. Messages about the spelling of YAML documents are left out, except those about keys and
dimensions of workflows. -/

namespace Pipeline

/-- An error of a kind with a message. -/
def Json.failure (kind message : String) : Json :=
  .object [("error", string kind), ("message", string message)]

/-- An error of a kind with a message and a place in the text. -/
def Json.failureAt (kind message : String) (position : Nat) : Json :=
  .object [("error", string kind), ("message", string message), ("position", int position)]

/-- The message of a mistake in a document, where it is about the document's meaning. -/
def Yaml.Error.ownMessage? : Yaml.Error → Option String
  | .repeatedKey key => some (Yaml.Error.repeatedKey key).message
  | .dimensionNotList name => some (Yaml.Error.dimensionNotList name).message
  | _ => none

/-- The fields of a mistake in a document. -/
def Yaml.Error.fields (e : Yaml.Error) : List (String × Json) :=
  match e.ownMessage? with
  | some message => [("error", .string "Yaml"), ("message", .string message)]
  | none => [("error", .string "Yaml")]

/-- The fields of an error but for its weight. -/
def Error.fields (e : Error) : List (String × Json) :=
  let message := ("message", Json.string e.message)
  match e with
  | .config _ => [("error", .string "Config"), message]
  | .action (.cyclic chain) =>
    [("error", .string "CyclicAction"), ("chain", .ofList chain), message]
  | .action (.missing ..) | .action (.unfetched _) => [("error", .string "ActionNotFound"), message]
  | .stepFailure .. => [("error", .string "StepFailure"), message]
  | .expression _ => [("error", .string "Expression"), message]
  | .yaml e => e.fields
  | .io _ => [("error", .string "Io")]

/-- An error with its weight. -/
def Error.describe (e : Error) : Json :=
  .object (e.fields ++ [("fatal", .bool e.isFatal)])

/-- A value or the error that stands in its place. -/
def describeResult {α : Type} (result : Except Error α) (describe : α → Json) : Json :=
  match result with
  | .ok value => describe value
  | .error e => e.describe

end Pipeline
