import Pipeline.Dict

/-! Commands that steps run, and what comes of them. -/

namespace Pipeline.Command

/-- A command that a step asks for. -/
structure Request where
  script : String
  /-- The shell that the step names. -/
  shell : Option String
  directory : String
  /-- The whole environment of the command. -/
  env : Dict String

/-- A line that a command printed. -/
structure Line where
  text : String
  /-- The line went to the error stream. -/
  isError : Bool
  deriving Repr, DecidableEq

/-- What came of a command. -/
structure Result where
  stdout : String
  stderr : String
  /-- The exit code of a command that ended by itself. -/
  exitCode : Option Int
  outputs : Dict String
  env : Dict String
  cancelled : Bool
  /-- Why the command did not start. -/
  error : Option String
  deriving Repr, DecidableEq

namespace Result

/-- The result of a command that did not start. -/
def failure (message : String) : Result :=
  ⟨"", "", none, [], [], false, some message⟩

/-- Did the command end by itself with exit code zero? -/
def succeeded (result : Result) : Bool :=
  result.error.isNone && !result.cancelled && result.exitCode == some 0

end Result

/-- The text captured from the lines of a stream. No line break is put in while nothing but empty
lines has been captured. -/
def captureFrom (captured : String) : List String → String
  | [] => captured
  | line :: rest =>
    captureFrom (if captured = "" then line else captured ++ "\n" ++ line) rest

/-- The text captured from the lines of a stream. -/
def capture (lines : List String) : String :=
  captureFrom "" lines

/-- What comes of a command so far. -/
inductive Reply where
  | waits
  /-- The work that started the command dies with it. -/
  | dies
  | ends (lines : List Line) (result : Result)

/-- The end of a command that was cancelled before it could end by itself. -/
def Reply.interrupted : Reply :=
  .ends [] ⟨"", "", none, [], [], true, none⟩

end Pipeline.Command
