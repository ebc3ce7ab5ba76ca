import Pipeline.Text.Blank
import Pipeline.Text.Case

/-! The shells that scripts are written for. -/

namespace Pipeline

/-- What runs a script. -/
inductive Shell where
  | sh
  | bash
  | pwsh
  /-- The Windows shell, which elsewhere is `pwsh`. -/
  | powerShell
  | python
  deriving Repr, DecidableEq

namespace Shell

/-- The shell of a name in any case. -/
def ofName? (name : String) : Option Shell :=
  match Text.foldAscii (Text.trim name) with
  | "sh" => some sh
  | "bash" => some bash
  | "pwsh" => some pwsh
  | "powershell" => some powerShell
  | "python" => some python
  | _ => none

/-- The program of a shell. -/
def program : Shell → String
  | sh => "sh"
  | bash => "bash"
  | pwsh | powerShell => "pwsh"
  | python => "python3"

/-- The arguments before the script. The first two shells stop at the first command that fails,
and the second one counts every command of a pipeline. -/
def arguments : Shell → List String
  | sh => ["-e", "-c"]
  | bash => ["--noprofile", "--norc", "-eo", "pipefail", "-c"]
  | pwsh | powerShell => ["-NoLogo", "-NoProfile", "-Command"]
  | python => ["-c"]

/-- The shell for steps that name none, by whether `bash` is among the programs. -/
def detect (hasBash : Bool) : Shell := if hasBash then bash else sh

/-- The shell that a step asks for, or the wording of the failure. -/
def choose (default : Shell) : Option String → Except String Shell
  | none => .ok default
  | some name =>
    match ofName? name with
    | some shell => .ok shell
    | none => .error ("unsupported shell '" ++ name ++ "'")

end Shell

end Pipeline
