import Pipeline.CommandLine.Snapshot

/-! The program. It works on the files that standard input names, one path a line, and on the
settings file of the user; files that steps change are written back. -/

namespace Pipeline.Main

open CommandLine

/-- The content of a file that can be read. -/
def readFile? (path : String) : IO (Option (String × ByteArray)) := do
  try
    return some (path, ← IO.FS.readBinFile path)
  catch _ =>
    return none

/-- The lines of standard input. -/
def inputLines : IO (List String) := do
  return Text.lines (← (← IO.getStdin).readToEnd)

/-- The desk with these variables and the files that standard input names. -/
def lookAround (environment : Dict String) : IO Desk := do
  let current := Path.names ((environment.get? "PWD").getD "/")
  let run := Snapshot.runId (← IO.getRandomBytes 16)
  let bare : Desk := ⟨Snapshot.tree current [], environment, "/root", .linux, run⟩
  let files ← (bare.settingsPath :: (← inputLines)).filterMapM readFile?
  return { bare with tree := Snapshot.tree current files }

/-- Brings a change of the tree to the files of the system. -/
def carryBack : Snapshot.Change → IO Unit
  | .write location content => IO.FS.writeBinFile location.render content
  | .makeDirectory location => IO.FS.createDirAll location.render
  | .removeFile location => IO.FS.removeFile location.render

/-- Carries out what is asked for, and answers with the exit code. -/
def serve (environment : Dict String) (invocation : Invocation) : IO UInt32 := do
  let desk ← lookAround environment
  let report := perform desk invocation
  for line in report.printed.messages do IO.eprintln line
  for line in report.printed.output do IO.println line
  for change in Snapshot.changes desk.tree report.printed.tree do carryBack change
  match report.failure with
  | some failure => IO.eprintln ("Error: " ++ failure)
  | none => pure ()
  return report.exitCode.toUInt32

end Pipeline.Main

open Pipeline CommandLine in
/-- Reads the arguments and carries them out. Arguments that make no sense end with code 2. -/
def main (arguments : List String) : IO UInt32 := do
  let environment := Snapshot.environment (← IO.FS.readBinFile "/proc/self/environ")
  match CommandLine.parse (environment.get? "USER") arguments with
  | .ok invocation => Pipeline.Main.serve environment invocation
  | .error mistake =>
    IO.eprintln ("error: " ++ mistake.message)
    return 2
