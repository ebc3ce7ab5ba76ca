import Pipeline.Dict
import Pipeline.Text.Blank
import Pipeline.Text.Lines

/-! Values that commands hand on: in the file for outputs, in the file for environment variables,
and in lines that they print. -/

namespace Pipeline.Command

/-- The lines before the one that equals the delimiter, and those after it. -/
def splitDelimiter (delimiter : List Char) :
    List (List Char) → List (List Char) × List (List Char)
  | [] => ([], [])
  | line :: rest =>
    if line = delimiter then ([], rest)
    else
      let (value, after) := splitDelimiter delimiter rest
      (line :: value, after)

theorem splitDelimiter_length (delimiter : List Char) (lines : List (List Char)) :
    (splitDelimiter delimiter lines).2.length ≤ lines.length := by
  induction lines with
  | nil => simp [splitDelimiter]
  | cons line rest ih =>
    simp only [splitDelimiter]
    split
    · simp
    · simp only [List.length_cons]; omega

/-- Lines with one line feed between them. -/
def joinLines (lines : List (List Char)) : String :=
  "\n".intercalate (lines.map String.ofList)

/-- The bindings of lines, in their order: `name=value`, or `name<<delimiter` with the value on the
lines up to the delimiter. Other lines say nothing. -/
def bindings : List (List Char) → List (String × String)
  | [] => []
  | line :: rest =>
    if line.all Text.isBlank then bindings rest
    else
      match Text.splitOnce? ['<', '<'] line with
      | some (name, delimiter) =>
        have := splitDelimiter_length (Text.trimChars delimiter) rest
        let split := splitDelimiter (Text.trimChars delimiter) rest
        (String.ofList (Text.trimChars name), joinLines split.1) :: bindings split.2
      | none =>
        match Text.splitOnce? ['='] line with
        | some (name, value) =>
          (String.ofList (Text.trimChars name), String.ofList value) :: bindings rest
        | none => bindings rest
termination_by lines => lines.length
decreasing_by
  · simp
  · simp only [List.length_cons]; omega
  · simp
  · simp

/-- The values of a file, of which the last one of a name counts. -/
def fileValues (content : String) : Dict String :=
  Dict.ofList (bindings (Text.lineChars content.toList))

/-- The mark of a line that sets an output. -/
def outputMark : List Char := "::set-output ".toList

/-- The mark of the name in such a line. -/
def nameMark : List Char := "name=".toList

/-- The characters after a mark at the front. -/
def afterMark? (mark cs : List Char) : Option (List Char) :=
  if mark.isPrefixOf cs then some (cs.drop mark.length) else none

/-- The output that a printed line sets. -/
def printedOutput? (line : List Char) : Option (String × String) := do
  let rest ← afterMark? outputMark (Text.trimLeftChars line)
  let (properties, value) ← Text.splitOnce? [':', ':'] rest
  let name ← afterMark? nameMark (Text.trimChars properties)
  pure (String.ofList name, String.ofList value)

/-- The outputs that printed text sets, of which the last one of a name counts. -/
def printedOutputs (text : String) : Dict String :=
  Dict.ofList ((Text.lineChars text.toList).filterMap printedOutput?)

end Pipeline.Command
