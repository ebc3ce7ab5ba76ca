/-! The tokens of a document, and what can be wrong in its text. -/

namespace Pipeline.Yaml

/-- How a scalar is written. -/
inductive Style where
  | plain
  | quoted
  | literal
  | folded
  deriving Repr, DecidableEq

/-- A token. The indentation of blocks shows as tokens that open and close them. -/
inductive Token where
  | versionDirective (major minor : Nat)
  | tagDirective (handle stem : String)
  | documentStart
  | documentEnd
  | blockSequenceStart
  | blockMappingStart
  | blockEnd
  | flowSequenceStart
  | flowSequenceEnd
  | flowMappingStart
  | flowMappingEnd
  | blockEntry
  | flowEntry
  | key
  | value
  | alias (name : String)
  | anchor (name : String)
  | tag (handle suffix : String)
  | scalar (text : String) (style : Style)
  | streamEnd
  deriving Repr, DecidableEq

/-- What is wrong in the text of a document. -/
inductive SyntaxError where
  | forbiddenCharacter
  | badDirective
  | badAnchor
  | badTag
  | unknownTagHandle
  | badBlockHeader
  | tabInIndentation
  | documentMarkInQuotes
  | endInQuotes
  | badEscape
  | colonInPlainText
  | missingColon
  | entryNotAllowed
  | keyNotAllowed
  | valueNotAllowed
  | noToken
  | expectedDocumentStart
  | expectedContent
  | expectedEntry
  | expectedKey
  | expectedSequenceSeparator
  | expectedMappingSeparator
  | unknownAnchor
  deriving Repr, DecidableEq

/-- The wording of a mistake. -/
def SyntaxError.message : SyntaxError → String
  | forbiddenCharacter => "control characters are not allowed"
  | badDirective => "a directive is malformed"
  | badAnchor => "an anchor or alias has no name"
  | badTag => "a tag is malformed"
  | unknownTagHandle => "a tag has an undefined handle"
  | badBlockHeader => "the header of a block scalar is malformed"
  | tabInIndentation => "a tab stands where indentation is expected"
  | documentMarkInQuotes => "a document mark stands in a quoted scalar"
  | endInQuotes => "a quoted scalar does not end"
  | badEscape => "an escape is malformed"
  | colonInPlainText => "unexpected ':' in a plain scalar"
  | missingColon => "a key has no ':'"
  | entryNotAllowed => "block sequence entries are not allowed here"
  | keyNotAllowed => "mapping keys are not allowed here"
  | valueNotAllowed => "mapping values are not allowed here"
  | noToken => "a character cannot start any token"
  | expectedDocumentStart => "expected the start of a document"
  | expectedContent => "expected the content of a node"
  | expectedEntry => "expected '-'"
  | expectedKey => "expected a key"
  | expectedSequenceSeparator => "expected ',' or ']'"
  | expectedMappingSeparator => "expected ',' or '\x7d'"
  | unknownAnchor => "an alias has no anchor"

end Pipeline.Yaml
