import Pipeline.Settings

/-! The arguments of the command line. -/

namespace Pipeline.CommandLine

/-- The event that a command is about. -/
structure EventOptions where
  kind : String
  subtype : Option String
  ref : String
  baseRef : Option String
  headRef : Option String
  sha : Option String
  actor : Option String
  deriving Repr, DecidableEq

/-- Settings that are given for one command. -/
structure EngineOptions where
  queuePolicy : Option String
  shell : Option String
  actionCache : Option String
  maxActionDepth : Option Nat
  deriving Repr, DecidableEq

/-- What every command is about. -/
structure Target where
  /-- A workflow file, or the name of a workflow. -/
  workflow : String
  workspace : Option String
  engine : EngineOptions
  deriving Repr, DecidableEq

/-- What is asked for. -/
inductive Invocation where
  /-- Handle an event and carry out the run. -/
  | run (target : Target) (event : EventOptions) (json : Bool)
  /-- Check a workflow and look up its actions. -/
  | validate (target : Target)
  /-- Show what the run of an event would be. -/
  | plan (target : Target) (event : EventOptions) (json : Bool)
  | help
  | version
  deriving Repr, DecidableEq

/-- Why arguments make no sense. -/
inductive UsageError where
  | noCommand
  | unknownCommand (name : String)
  | unknownOption (text : String)
  | unexpectedValue (name : String)
  | missingValue (name : String)
  | badValue (name value : String)
  | repeated (name : String)
  | missingWorkflow
  | unexpectedArgument (text : String)
  deriving Repr, DecidableEq

/-- The wording of a mistake. -/
def UsageError.message : UsageError → String
  | noCommand => "a command is required: run, validate or plan"
  | unknownCommand name => "unrecognized command '" ++ name ++ "'"
  | unknownOption text => "unexpected argument '" ++ text ++ "'"
  | unexpectedValue name => "unexpected value for '--" ++ name ++ "'"
  | missingValue name => "a value is required for '--" ++ name ++ "'"
  | badValue name value => "invalid value '" ++ value ++ "' for '--" ++ name ++ "'"
  | repeated name => "the argument '--" ++ name ++ "' cannot be used multiple times"
  | missingWorkflow => "the argument WORKFLOW is required"
  | unexpectedArgument text => "unexpected argument '" ++ text ++ "'"

/-- What an option does. -/
inductive OptionUse where
  /-- It takes a value; a path may not be empty. -/
  | value (isPath : Bool)
  | flag
  /-- It may be repeated. -/
  | count
  /-- It ends the reading and asks for something else. -/
  | ends (invocation : Invocation)

/-- An option. -/
structure Spec where
  name : String
  letter : Option Char
  use : OptionUse

/-- The options of all commands. -/
def commonSpecs : List Spec :=
  [⟨"verbose", some 'v', .count⟩, ⟨"help", some 'h', .ends .help⟩]

/-- The options before the name of a command. -/
def topSpecs : List Spec := commonSpecs ++ [⟨"version", some 'V', .ends .version⟩]

/-- The options about the event. -/
def eventSpecs : List Spec :=
  [⟨"event", some 'e', .value false⟩, ⟨"type", none, .value false⟩, ⟨"ref", none, .value false⟩,
    ⟨"base-ref", none, .value false⟩, ⟨"head-ref", none, .value false⟩,
    ⟨"sha", none, .value false⟩, ⟨"actor", none, .value false⟩, ⟨"json", none, .flag⟩]

/-- The options about the settings and the workspace. -/
def targetSpecs : List Spec :=
  [⟨"queue-policy", none, .value false⟩, ⟨"shell", none, .value false⟩,
    ⟨"action-cache", none, .value true⟩, ⟨"max-action-depth", none, .value false⟩,
    ⟨"workspace", some 'w', .value true⟩]

/-- The options of a command. -/
def specsOf? : String → Option (List Spec)
  | "run" | "plan" => some (commonSpecs ++ targetSpecs ++ eventSpecs)
  | "validate" => some (commonSpecs ++ targetSpecs)
  | _ => none

/-- The arguments read so far. -/
structure Given where
  options : List (String × String)
  operands : List String

namespace Given

/-- Nothing yet. -/
def empty : Given := ⟨[], []⟩

/-- The value of an option. -/
def value? (given : Given) (name : String) : Option String := given.options.lookup name

/-- Is the option there? -/
def has (given : Given) (name : String) : Bool := (given.value? name).isSome

/-- Adds an option, which may be there only once. -/
def add (given : Given) (name value : String) : Except UsageError Given :=
  if given.has name then .error (.repeated name)
  else .ok { given with options := given.options ++ [(name, value)] }

/-- Adds an option with a value. -/
def addValue (given : Given) (name : String) (isPath : Bool) (value : String) :
    Except UsageError Given :=
  if isPath && value.isEmpty then .error (.missingValue name) else given.add name value

end Given

/-- What has been read: the options and operands, or something that ends the reading. -/
abbrev Reading := Except UsageError (Given ⊕ Invocation)

/-- Can an argument be the value of an option? -/
def isValue (argument : String) : Bool :=
  !argument.startsWith "-" || argument = "-"

/-- The effect of the letters of an argument. The value of a letter is the rest of its argument, or
the next one; then the second part of the result is true. -/
def readLetters (specs : List Spec) (next : Option String) :
    List Char → Given → Except UsageError (Given ⊕ Invocation) × Bool
  | [], given => (.ok (.inl given), false)
  | c :: rest, given =>
    match specs.find? (·.letter == some c) with
    | none => (.error (.unknownOption ("-" ++ String.singleton c)), false)
    | some spec =>
      match spec.use with
      | .ends invocation => (.ok (.inr invocation), false)
      | .count => readLetters specs next rest given
      | .flag =>
        match given.add spec.name "" with
        | .ok given => readLetters specs next rest given
        | .error e => (.error e, false)
      | .value isPath =>
        match rest with
        | [] =>
          match next with
          | some value =>
            if isValue value then ((given.addValue spec.name isPath value).map .inl, true)
            else (.error (.missingValue spec.name), false)
          | none => (.error (.missingValue spec.name), false)
        | '=' :: value => ((given.addValue spec.name isPath (String.ofList value)).map .inl, false)
        | value => ((given.addValue spec.name isPath (String.ofList value)).map .inl, false)

/-- The effect of an option with a long name. The second part of the result says whether the next
argument is its value. -/
def readLong (specs : List Spec) (next : Option String) (text : List Char) (given : Given) :
    Except UsageError (Given ⊕ Invocation) × Bool :=
  let name := String.ofList (text.takeWhile (· ≠ '='))
  let attached : Option String :=
    match text.dropWhile (· ≠ '=') with
    | _ :: value => some (String.ofList value)
    | [] => none
  match specs.find? (·.name == name) with
  | none => (.error (.unknownOption ("--" ++ name)), false)
  | some spec =>
    match spec.use, attached with
    | .value isPath, some value => ((given.addValue name isPath value).map .inl, false)
    | .value isPath, none =>
      match next with
      | some value =>
        if isValue value then ((given.addValue name isPath value).map .inl, true)
        else (.error (.missingValue name), false)
      | none => (.error (.missingValue name), false)
    | _, some _ => (.error (.unexpectedValue name), false)
    | .ends invocation, none => (.ok (.inr invocation), false)
    | .count, none => (.ok (.inl given), false)
    | .flag, none => ((given.add name "").map .inl, false)

/-- The arguments of a command. After `--` all of them are operands. -/
def readAll (specs : List Spec) : List String → Given → Except UsageError (Given ⊕ Invocation)
  | [], given => .ok (.inl given)
  | [argument], given =>
    match argument.toList with
    | ['-', '-'] => .ok (.inl given)
    | '-' :: '-' :: text => (readLong specs none text given).1
    | '-' :: c :: letters => (readLetters specs none (c :: letters) given).1
    | _ => .ok (.inl { given with operands := given.operands ++ [argument] })
  | argument :: next :: rest, given =>
    let goOn (result : Except UsageError (Given ⊕ Invocation) × Bool) :
        Except UsageError (Given ⊕ Invocation) :=
      match result with
      | (.ok (.inl given), true) => readAll specs rest given
      | (.ok (.inl given), false) => readAll specs (next :: rest) given
      | (ending, _) => ending
    match argument.toList with
    | ['-', '-'] => .ok (.inl { given with operands := given.operands ++ next :: rest })
    | '-' :: '-' :: text => goOn (readLong specs (some next) text given)
    | '-' :: c :: letters => goOn (readLetters specs (some next) (c :: letters) given)
    | _ => readAll specs (next :: rest) { given with operands := given.operands ++ [argument] }

/-- The number of nesting levels that is given. -/
def depthOf? (given : Given) : Except UsageError (Option Nat) :=
  match given.value? "max-action-depth" with
  | none => .ok none
  | some text =>
    match Settings.depthOf? text with
    | some depth =>
      if text.toList.all fun c => c.isDigit || c = '+' then .ok (some depth)
      else .error (.badValue "max-action-depth" text)
    | none => .error (.badValue "max-action-depth" text)

/-- What a command is about, from its arguments. -/
def targetOf (given : Given) : Except UsageError Target := do
  let depth ← depthOf? given
  match given.operands with
  | [] => throw .missingWorkflow
  | [""] => throw .missingWorkflow
  | [workflow] =>
    pure ⟨workflow, given.value? "workspace",
      ⟨given.value? "queue-policy", given.value? "shell", given.value? "action-cache", depth⟩⟩
  | _ :: extra :: _ => throw (.unexpectedArgument extra)

/-- The event that a command is about. Unless somebody else is named, the user causes it. -/
def eventOf (user : Option String) (given : Given) : EventOptions :=
  ⟨(given.value? "event").getD "push", given.value? "type",
    (given.value? "ref").getD "refs/heads/main", given.value? "base-ref", given.value? "head-ref",
    given.value? "sha", (given.value? "actor").or user⟩

/-- What is asked for by the arguments after the name of a command. -/
def readCommand (user : Option String) (name : String) (arguments : List String) :
    Except UsageError Invocation := do
  match specsOf? name with
  | none =>
    if name = "help" then
      match arguments with
      | [] => pure .help
      | command :: _ =>
        if command = "help" || (specsOf? command).isSome then pure .help
        else throw (.unknownCommand command)
    else throw (.unknownCommand name)
  | some specs =>
    match ← readAll specs arguments .empty with
    | .inr invocation => pure invocation
    | .inl given =>
      let target ← targetOf given
      match name with
      | "run" => pure (.run target (eventOf user given) (given.has "json"))
      | "plan" => pure (.plan target (eventOf user given) (given.has "json"))
      | _ => pure (.validate target)

/-- What is asked for by all arguments. -/
def parse (user : Option String) : List String → Except UsageError Invocation
  | [] => .error .noCommand
  | argument :: rest =>
    match argument.toList with
    | '-' :: '-' :: text =>
      match (readLong topSpecs none text .empty).1 with
      | .ok (.inl _) => parse user rest
      | .ok (.inr invocation) => .ok invocation
      | .error e => .error e
    | '-' :: c :: letters =>
      match (readLetters topSpecs none (c :: letters) .empty).1 with
      | .ok (.inl _) => parse user rest
      | .ok (.inr invocation) => .ok invocation
      | .error e => .error e
    | _ => readCommand user argument rest

end Pipeline.CommandLine
