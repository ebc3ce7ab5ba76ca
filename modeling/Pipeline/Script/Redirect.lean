import Pipeline.Script.Call
import Pipeline.Script.Machine

/-! Redirections: descriptors that lead to files or to one another. -/

namespace Pipeline.Script

open Steps

/-- Lets a descriptor lead to a sink. -/
def direct (descriptor : Nat) (sink : Sink) : Steps Unit :=
  changeScene fun s => { s with sinks := (descriptor, sink) :: s.sinks }

/-- Where a descriptor leads. -/
def sinkOf (descriptor : Nat) : Steps (Option Sink) := do
  return (← get).scene.sinks.lookup descriptor

/-- Opens a file to write to it. The value says whether that worked. -/
def openToWrite (descriptor : Nat) (path : String) (append : Bool) : Steps Bool := do
  let m ← get
  match path with
  | "/dev/null" => direct descriptor .nowhere; pure true
  | "/dev/stdout" => direct descriptor ((← sinkOf 1).getD .nowhere); pure true
  | "/dev/stderr" => direct descriptor ((← sinkOf 2).getD .nowhere); pure true
  | path =>
    match Call.placeFor? m.files path with
    | none =>
      complain (if m.shell == .bash then path ++ ": No such file or directory"
        else "cannot create " ++ path ++ ": Directory nonexistent")
      pure false
    | some place =>
      match m.tree.entry? place with
      | some .directory =>
        complain (if m.shell == .bash then path ++ ": Is a directory"
          else "cannot create " ++ path ++ ": Is a directory")
        pure false
      | entry =>
        if entry.isNone || !append then
          modify fun m => { m with tree := m.tree.put place (.file .empty) }
        direct descriptor (.file place)
        pure true

/-- Opens a file to read from it. The value says whether that worked. -/
def openToRead (path : String) : Steps Bool := do
  let m ← get
  if path = "/dev/null" then
    modify fun m => { m with input := [] }
    pure true
  else
    match m.files.read? path with
    | some content =>
      modify fun m => { m with input := Octets.ofBytes content }
      pure true
    | none =>
      complain (if m.shell == .bash then path ++ ": No such file or directory"
        else "cannot open " ++ path ++ ": No such file")
      pure false

/-- Carries out a redirection whose target is known. -/
def redirect (descriptor : Nat) (direction : Direction) (target : Octets) : Steps Bool := do
  match direction with
  | .text => modify fun m => { m with input := target }; pure true
  | .line => modify fun m => { m with input := target ++ ['\n'] }; pure true
  | .read => openToRead target.toText
  | .write => openToWrite descriptor target.toText false
  | .append => openToWrite descriptor target.toText true
  | .same =>
    match target.toText.toNat? with
    | some other =>
      match ← sinkOf other with
      | some sink => direct descriptor sink; pure true
      | none =>
        if descriptor = 0 then pure true
        else
          complain (toString other ++ ": Bad file descriptor")
          pure false
    | none =>
      if target = ['-'] then direct descriptor .nowhere; pure true
      else
        let opened ← openToWrite 1 target.toText false
        if opened then direct 2 ((← sinkOf 1).getD .nowhere)
        pure opened

end Pipeline.Script
