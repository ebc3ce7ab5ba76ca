import Pipeline.Script.Octets

/-! The syntax of shell scripts. -/

namespace Pipeline.Script

/-- Which matches of a pattern are replaced. -/
inductive Occurrence where
  | first
  | every
  /-- The one at the front. -/
  | front
  /-- The one at the end. -/
  | back
  deriving Repr, DecidableEq

/-- What is done with the value of a parameter. For the first four, `orEmpty` says that an empty
value counts as none. -/
inductive ParameterUse where
  | value
  | length
  /-- The value of the parameter that the value names, or the keys of a row. -/
  | target
  | default (orEmpty : Bool)
  | assign (orEmpty : Bool)
  | demand (orEmpty : Bool)
  | alternative (orEmpty : Bool)
  | withoutPrefix (longest : Bool)
  | withoutSuffix (longest : Bool)
  /-- Matches of a pattern replaced. -/
  | replaced (occurrence : Occurrence)
  /-- From a place on, perhaps of some length. -/
  | slice
  /-- Letters in upper case, the first one or every one. -/
  | upper (everywhere : Bool)
  | lower (everywhere : Bool)
  /-- Changed in the way that a letter stands for. -/
  | transformed (letter : Char)
  deriving Repr, DecidableEq

/-- A part of a word. What is quoted is neither split nor taken as a pattern. -/
inductive Part where
  | text (quoted : Bool) (octets : Octets)
  /-- A parameter, the item of it that is meant, and the word that its use needs. -/
  | parameter (quoted : Bool) (name : String) (item : List Part) (use : ParameterUse)
      (word : List Part)
  /-- A parameter in braces that makes no sense, as it is written. -/
  | unknown (octets : Octets)
  /-- The output of a script. -/
  | output (quoted : Bool) (script : Octets)
  /-- The output of a script, to be read like a file. -/
  | stream (script : Octets)
  | arithmetic (quoted : Bool) (expression : List Part)
  /-- Text in single quotation marks after a dollar sign, in which some shells follow escapes. -/
  | escaped (octets : Octets)
  /-- The home directory. -/
  | home

/-- A word before it is expanded. -/
abbrev Word := List Part

/-- Where a redirection leads. -/
inductive Direction where
  | read
  | write
  | append
  /-- To where another descriptor leads. -/
  | same
  /-- From text in the script. -/
  | text
  /-- From a word, as a line. -/
  | line
  deriving Repr, DecidableEq

/-- A redirection of a descriptor. -/
structure Redirection where
  descriptor : Nat
  direction : Direction
  target : Word

/-- What a variable is given: a word, or items that may name their places. -/
inductive Assigned where
  | word (value : Word)
  | items (items : List (Word × Word))

/-- An assignment. -/
structure Binding where
  name : String
  /-- The item that is meant, if it is not the whole variable. -/
  item : Word
  /-- What the variable holds stays in front. -/
  appends : Bool
  value : Assigned

/-- A condition in double brackets. -/
inductive Test where
  | unary (operator : Octets) (operand : Word)
  | binary (operator : Octets) (left right : Word)
  | negation (test : Test)
  | both (left right : Test)
  | either (left right : Test)

/-- Commands of the shell. -/
inductive Command where
  | nothing
  /-- Assignments, and a program or a function with its arguments. -/
  | simple (line : Nat) (bindings : List Binding) (words : List Word)
      (redirections : List Redirection)
  | sequence (first second : Command)
  /-- The second one runs if the first one succeeds. -/
  | both (first second : Command)
  /-- The second one runs if the first one fails. -/
  | either (first second : Command)
  | negation (command : Command)
  | pipeline (stages : List Command)
  | background (command : Command)
  | subshell (body : Command)
  | choice (test yes no : Command)
  /-- The body runs as long as the test comes out as `expected`, and `after` follows each turn. -/
  | loop (expected : Bool) (test body after : Command)
  /-- The body runs for each word, or for each argument. -/
  | each (name : String) (words : Option (List Word)) (body : Command)
  /-- The first branch with a pattern that fits the word runs; `next` says that the branch after it
  then runs too. -/
  | select (word : Word) (branches : List (List Word × Command × Bool))
  | define (name : String) (body : Command)
  /-- An arithmetic expression that holds if it is not zero. -/
  | calculation (line : Nat) (expression : Word)
  /-- A condition in double brackets. -/
  | condition (line : Nat) (test : Test)
  | redirected (line : Nat) (body : Command) (redirections : List Redirection)

/-- Why a text is no script. -/
inductive SyntaxFault where
  /-- A word or an operator that cannot stand here. -/
  | unexpected (token : String) (expected : Option String)
  | unexpectedWord (word : String) (expected : Option String)
  | unexpectedRedirection (operator : String)
  | endOfText (expected : Option String)
  /-- A script inside a word has no closing bracket. -/
  | unclosedScript
  | unclosedQuote (mark : Char)
  | unclosedBrace
  | unclosedSum
  | badLoopVariable (word : String)
  | badFunctionName
  /-- A mistake in a condition in double brackets, and how it is worded. -/
  | badTest (message : String)
  deriving Repr, DecidableEq

end Pipeline.Script
