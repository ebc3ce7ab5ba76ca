import Pipeline.Dict
import Pipeline.Files.Tree
import Pipeline.Script.Syntax
import Pipeline.Shell

/-! The state of a shell while it runs a script. -/

namespace Pipeline.Script

/-- What a variable holds. -/
inductive Content where
  | text (octets : Octets)
  /-- Items by number, in the order of the numbers. -/
  | row (items : List (Nat × Octets))
  /-- Items by name, in the order in which the shell lists them. -/
  | table (items : List (Octets × Octets))
  deriving Repr, DecidableEq

/-- A variable of a shell. -/
structure Variable where
  content : Content
  /-- Programs see the variable. -/
  exported : Bool
  deriving Repr, DecidableEq

namespace Content

/-- The slot in which the shell keeps an item of a table: its items are listed by slot, and the
latest one of a slot comes first. -/
def slot (name : Octets) : Nat :=
  name.foldl (fun hash c => ((hash * 16777619) % 4294967296) ^^^ c.toNat) 2166136261 % 1024

/-- The value that the name of the variable alone stands for. -/
def value? : Content → Option Octets
  | text octets => some octets
  | row items => items.lookup 0
  | table items => items.lookup ['0']

/-- The values of all items. -/
def values : Content → List Octets
  | text octets => [octets]
  | row items => items.map (·.2)
  | table items => items.map (·.2)

/-- The names of all items. -/
def keys : Content → List Octets
  | text _ => [['0']]
  | row items => items.map fun (number, _) => Octets.ofInt number
  | table items => items.map (·.1)

/-- The items as those of a row. -/
def asRow : Content → List (Nat × Octets)
  | text octets => [(0, octets)]
  | row items => items
  | table _ => []

/-- The number after the last one of a row. -/
def size (items : List (Nat × Octets)) : Nat := (items.getLast?.map (·.1 + 1)).getD 0

/-- A row with an item more. -/
def insertNumbered (number : Nat) (value : Octets) : List (Nat × Octets) → List (Nat × Octets)
  | [] => [(number, value)]
  | (n, v) :: rest =>
    if number = n then (number, value) :: rest
    else if number < n then (number, value) :: (n, v) :: rest
    else (n, v) :: insertNumbered number value rest

/-- A table with an item more. -/
def insertNamed (name value : Octets) (items : List (Octets × Octets)) : List (Octets × Octets) :=
  if items.any (·.1 == name) then
    items.map fun item => if item.1 = name then (name, value) else item
  else
    let before := items.takeWhile fun item => slot item.1 < slot name
    before ++ (name, value) :: items.drop before.length

end Content

/-- What a script can switch on and off. -/
structure Options where
  /-- The script ends when a command fails. -/
  errexit : Bool
  /-- A variable without a value is a mistake. -/
  nounset : Bool
  /-- A pipeline fails with any of its stages. -/
  pipefail : Bool
  /-- Commands are shown before they run. -/
  xtrace : Bool
  /-- Patterns do not stand for files. -/
  noglob : Bool
  /-- A pattern that fits no file stands for nothing. -/
  nullglob : Bool
  /-- Patterns fit hidden files too. -/
  dotglob : Bool
  deriving Repr, DecidableEq

/-- Where what is written goes. -/
inductive Sink where
  | buffer (index : Nat)
  | file (place : Location)
  | nowhere
  deriving Repr, DecidableEq

/-- The part of the state that a subshell has for itself. -/
structure Scene where
  shell : Shell
  /-- The name under which the script runs. -/
  name : Octets
  /-- The script is an argument of the shell, and not a file. -/
  inline : Bool
  /-- The variables. -/
  store : Dict Variable
  /-- The variables that keep their values. -/
  constants : List String
  functions : Dict Command
  /-- The arguments of the script or of the function that runs. -/
  arguments : List Octets
  options : Options
  sinks : List (Nat × Sink)
  /-- The variables that the functions in progress have hidden, the innermost first. -/
  hidden : List (List (String × Option Variable))
  /-- How many loops are in progress. -/
  loops : Nat
  /-- The names of the functions in progress, the innermost first. -/
  callers : List String
  /-- What runs at the end, after failures, and when signals come. -/
  traps : Dict Octets
  directory : Location
  /-- The directories to come back to. -/
  visited : List Location

/-- A shell that runs a script. -/
structure Machine where
  scene : Scene
  tree : FileTree
  /-- What has been written to each buffer, the latest first. -/
  buffers : List (List Octets)
  /-- What can still be read. -/
  input : Octets
  /-- The status of the last command. -/
  status : Nat
  /-- The status of the last script whose output was taken, for the command that runs. -/
  taken : Option Nat
  /-- The line of the command that runs. -/
  line : Nat
  /-- The files that are programs. -/
  programs : List Location
  /-- The signals that have come and are not yet dealt with. -/
  pending : List String
  /-- The statuses of the commands that ran beside the script. -/
  jobs : List Nat
  /-- The script will be killed as soon as it waits for something. -/
  doomed : Bool

/-- Why the normal course of a script ends. -/
inductive Stop where
  | exit (status : Nat)
  /-- Leaves loops. -/
  | leave (levels : Nat)
  /-- Goes on with the next turn of a loop. -/
  | skip (levels : Nat)
  /-- Comes back from a function. -/
  | back (status : Nat)
  | killed
  /-- The script waits for something. -/
  | waits
  | exhausted
  deriving Repr, DecidableEq

/-- Steps of a shell. -/
abbrev Steps := ExceptT Stop (StateM Machine)

namespace Machine

/-- The shell that runs the script. -/
def shell (m : Machine) : Shell := m.scene.shell

/-- The identifier of the process of every script. -/
def process : Nat := 4242

/-- The identifier of the process of a command beside the script. -/
def jobProcess (index : Nat) : Nat := process + 1 + index

/-- The variables that a shell has from the start. -/
def ownVariables (shell : Shell) : Dict Variable :=
  let hidden (pairs : List (String × String)) : Dict Variable :=
    Dict.ofList (pairs.map fun (name, text) => (name, ⟨.text text.toList, false⟩))
  match shell with
  | .bash =>
    hidden [("BASH", "/usr/bin/bash"), ("BASH_VERSION", "5.2.21(1)-release"), ("EUID", "0"),
      ("HOSTNAME", "localhost"), ("HOSTTYPE", "x86_64"), ("IFS", " \t\n"),
      ("MACHTYPE", "x86_64-pc-linux-gnu"), ("OPTIND", "1"), ("OSTYPE", "linux-gnu"),
      ("PPID", "4241"), ("PS4", "+ "), ("UID", "0")]
  | .python => []
  | _ => hidden [("IFS", " \t\n"), ("OPTIND", "1"), ("PPID", "4241"), ("PS4", "+ ")]

/-- The buffers of the output and of the error stream. -/
def standardSinks : List (Nat × Sink) := [(1, .buffer 0), (2, .buffer 1)]

/-- The octets in a buffer. -/
def written (m : Machine) (index : Nat) : Octets := ((m.buffers[index]?.getD []).reverse).flatten

/-- The value of a variable. -/
def value? (m : Machine) (name : String) : Option Octets :=
  (m.scene.store.get? name).bind (·.content.value?)

/-- The environment of programs that are started. -/
def environment (m : Machine) : Dict Octets :=
  m.scene.store.filterMap fun (name, v) =>
    match v.exported, v.content with
    | true, .text octets => some (name, octets)
    | _, _ => none

/-- The tree as a command sees it that works in the directory of the shell. -/
def files (m : Machine) : FileTree := { m.tree with current := m.scene.directory }

/-- The machine with more written to a sink. -/
def write (m : Machine) (sink : Sink) (octets : Octets) : Machine :=
  match sink with
  | .nowhere => m
  | .buffer index =>
    { m with buffers := m.buffers.modify index (octets :: ·) }
  | .file place =>
    let before := match m.tree.entry? place with
      | some (.file content) => content
      | _ => .empty
    { m with tree := m.tree.put place (.file (before ++ octets.toBytes)) }

end Machine

namespace Steps

/-- Changes the part of the state that a subshell has for itself. -/
def changeScene (change : Scene → Scene) : Steps Unit :=
  modify fun m => { m with scene := change m.scene }

/-- Sets the status. -/
def setStatus (status : Nat) : Steps Unit := modify fun m => { m with status := status }

/-- Writes to a descriptor. -/
def emit (descriptor : Nat) (octets : Octets) : Steps Unit :=
  modify fun m =>
    if octets.isEmpty then m
    else
      match m.scene.sinks.lookup descriptor with
      | some sink => m.write sink octets
      | none => m

/-- Writes a message of the shell itself. -/
def complain (message : String) : Steps Unit := do
  let m ← get
  let place := match m.shell with
    | .bash => ": line " ++ toString m.line ++ ": "
    | _ => ": " ++ toString m.line ++ ": "
  emit 2 (m.scene.name ++ Octets.ofText (place ++ message ++ "\n"))

/-- Ends the script with a message. -/
def fail {α : Type} (message : String) (status : Nat) : Steps α := do
  complain message
  throw (.exit status)

/-- Is the script one for bash? -/
def inBash : Steps Bool := do return (← get).shell == .bash

/-- Ends the script if a variable has to keep its value. -/
def checkConstant (name : String) : Steps Unit := do
  let m ← get
  if m.scene.constants.contains name then
    if m.shell == .bash then fail (name ++ ": readonly variable") 1
    else fail (name ++ ": is read only") 2

/-- Lets a variable hold something; whether programs see it stays. -/
def hold (name : String) (content : Content) : Steps Unit := do
  checkConstant name
  changeScene fun s =>
    let exported := (s.store.get? name).any (·.exported)
    { s with store := s.store.insert name ⟨content, exported⟩ }

/-- Gives a variable a value, or the first item of a row. -/
def assign (name : String) (value : Octets) : Steps Unit := do
  let m ← get
  match (m.scene.store.get? name).map Variable.content with
  | some (.row items) => hold name (.row (Content.insertNumbered 0 value items))
  | some (.table items) => hold name (.table (Content.insertNamed ['0'] value items))
  | _ => hold name (.text value)

/-- Gives a variable a value that programs see. -/
def assignExported (name : String) (value : Octets) : Steps Unit := do
  assign name value
  changeScene fun s =>
    { s with store := s.store.insert name ⟨((s.store.get? name).map (·.content)).getD (.text value),
      true⟩ }

/-- Takes a variable away. -/
def forget (name : String) : Steps Unit :=
  changeScene fun s => { s with store := s.store.erase name }

/-- Runs steps with an inner input, and gives the outer one back afterwards. -/
def withInput {α : Type} (input : Octets) (steps : Steps α) : Steps α := do
  let outer := (← get).input
  modify fun m => { m with input := input }
  try steps
  finally modify fun m => { m with input := outer }

/-- Runs steps and gives the sinks back as they were before. -/
def withSinks {α : Type} (steps : Steps α) : Steps α := do
  let sinks := (← get).scene.sinks
  try steps
  finally changeScene fun s => { s with sinks := sinks }

/-- Runs steps as a subshell: whatever they change for themselves is undone, and their end is only
the end of the subshell, which does not have the traps of the script. The value is the status. -/
def inSubshell (steps : Steps Unit) : Steps Nat := fun m =>
  let (ending, after) := (steps.run).run { m with scene := { m.scene with traps := [] } }
  let back : Machine := { after with scene := m.scene }
  match ending with
  | .ok () => (.ok after.status, { back with status := after.status })
  | .error (.exit status) | .error (.back status) => (.ok status, { back with status := status })
  | .error (.leave _) | .error (.skip _) => (.ok after.status, { back with status := after.status })
  | .error stop => (.error stop, back)

/-- Runs steps with the output stream in a new buffer, and gives what they wrote. -/
def capture {α : Type} (steps : Steps α) : Steps (α × Octets) := do
  let index := (← get).buffers.length
  modify fun m => { m with buffers := m.buffers ++ [[]] }
  try
    let a ← withSinks do
      changeScene fun s => { s with sinks := (1, .buffer index) :: s.sinks }
      steps
    pure (a, (← get).written index)
  finally
    modify fun m => { m with buffers := m.buffers.take index }

end Steps

end Pipeline.Script
