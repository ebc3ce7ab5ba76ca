import Pipeline.Concurrency.Admission
import Pipeline.Error
import Pipeline.Json.Basic
import Pipeline.Shell
import Pipeline.Toml.Reader

/-! What can be set from outside: defaults, the settings file, and variables of the environment,
of which the later ones win. -/

namespace Pipeline

/-- The queue policy that a text names. -/
def QueuePolicy.parse (name : String) : Except Error QueuePolicy :=
  match ofName? name with
  | some policy => .ok policy
  | none => .error (.config (.queuePolicy (normalise name)))

/-- The settings. -/
structure Settings where
  /-- How deep composite actions may be nested. -/
  maxActionDepth : Nat
  queuePolicy : QueuePolicy
  /-- The directory of external actions. -/
  actionCache : String
  /-- The shell for steps that name none; without one the system's best shell is taken. -/
  defaultShell : Option String
  /-- Commands see the variables of the environment. -/
  inheritEnv : Bool
  deriving Repr, DecidableEq

namespace Settings

/-- The settings of a system with its actions in a directory, if nothing else is said. -/
def initial (actionCache : String) : Settings :=
  ⟨16, .fifo, actionCache, none, true⟩

/-- A number of nesting levels has 64 bits. -/
def greatestDepth : Nat := twoTo 64 - 1

/-- The policy that a value names: its exact name, or a table with nothing but that name bound to
something empty. -/
def policyOf? : Toml.Value → Option QueuePolicy
  | .text name => named? name
  | .table _ [(name, value)] => if isEmpty value then named? name else none
  | _ => none
where
  /-- The policy of an exact name. -/
  named? (name : String) : Option QueuePolicy :=
    [QueuePolicy.fifo, .supersedePending].find? (·.render == name)
  /-- A list or a table without anything in it. -/
  isEmpty : Toml.Value → Bool
    | .list [] | .table _ [] | .tables [] => true
    | _ => false

/-- The settings with one of them changed by an entry of the file; entries with other names say
nothing. -/
def change (settings : Settings) (name : String) (value : Toml.Value) : Option Settings :=
  match name, value with
  | "max-action-depth", .integer depth =>
    if 0 ≤ depth then some { settings with maxActionDepth := depth.toNat } else none
  | "queue-policy", value => do
    let policy ← policyOf? value
    pure { settings with queuePolicy := policy }
  | "action-cache-dir", .text directory => some { settings with actionCache := directory }
  | "default-shell", .text shell => some { settings with defaultShell := some shell }
  | "inherit-env", .boolean inherit => some { settings with inheritEnv := inherit }
  | "max-action-depth", _ | "action-cache-dir", _ | "default-shell", _ | "inherit-env", _ => none
  | _, _ => some settings

/-- The settings changed by the entries of a file. -/
def changeAll (settings : Settings) : Toml.Table → Option Settings
  | [] => some settings
  | (name, value) :: rest => do changeAll (← settings.change name value) rest

/-- What is said of a file that is no settings file. -/
def fault (path detail : String) : Error :=
  .config (.settings path ("TOML parse error: " ++ detail))

/-- The settings changed by the text of a file. -/
def read (settings : Settings) (path text : String) : Except Error Settings :=
  match Toml.read text with
  | .error e => .error (fault path e.message)
  | .ok table =>
    match settings.changeAll table with
    | none => .error (fault path "a setting has a value of the wrong kind")
    | some settings => .ok settings

/-- The depth that a text writes: digits, and at most a plus sign before them. -/
def depthOf? (text : String) : Option Nat := do
  let digits := match Text.trimChars text.toList with
    | '+' :: rest => rest
    | cs => cs
  guard !digits.isEmpty
  let depth ← digitsValue? 10 digits
  guard (depth ≤ greatestDepth)
  pure depth

/-- Does a text say yes? -/
def saysYes (text : String) : Bool :=
  ["1", "true", "yes", "on"].contains (Text.foldAscii (Text.trim text))

/-- The settings changed by the variables that `lookup` finds. -/
def override (settings : Settings) (lookup : String → Option String) :
    Except Error Settings := do
  let settings ← match lookup "GANTRY_MAX_ACTION_DEPTH" with
    | none => pure settings
    | some text =>
      match depthOf? text with
      | none => .error (.config (.depth text))
      | some depth => pure { settings with maxActionDepth := depth }
  let settings ← match lookup "GANTRY_QUEUE_POLICY" with
    | none => pure settings
    | some name => do pure { settings with queuePolicy := ← QueuePolicy.parse name }
  let settings := match lookup "GANTRY_ACTION_CACHE_DIR" with
    | none => settings
    | some directory => { settings with actionCache := directory }
  let settings := match lookup "GANTRY_SHELL" with
    | none => settings
    | some shell => { settings with defaultShell := some shell }
  match lookup "GANTRY_INHERIT_ENV" with
  | none => pure settings
  | some text => pure { settings with inheritEnv := saysYes text }

/-- The shell that the settings name. -/
def shell? (settings : Settings) : Option Shell :=
  settings.defaultShell.bind Shell.ofName?

end Settings

end Pipeline
