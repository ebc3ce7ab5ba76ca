import Pipeline.Decimal.Shortest

/-! The tokens of expressions and their spelling. -/

namespace Pipeline.Expression

/-- The words that stand for values. -/
inductive Keyword where
  | null
  | yes
  | no
  deriving Repr, DecidableEq

/-- The signs of the language. -/
inductive Symbol where
  | equal
  | notEqual
  | less
  | lessEqual
  | greater
  | greaterEqual
  | and
  | or
  | not
  | dot
  | comma
  | openParen
  | closeParen
  | openBracket
  | closeBracket
  deriving Repr, DecidableEq

/-- A token; the end of the text is the end of the list of tokens. -/
inductive Token where
  | number (value : Double)
  | text (value : String)
  | name (value : String)
  | keyword (value : Keyword)
  | symbol (value : Symbol)
  deriving Repr, DecidableEq

/-- The spelling of a keyword. -/
def Keyword.render : Keyword → String
  | null => "null"
  | yes => "true"
  | no => "false"

/-- The spelling of a sign. -/
def Symbol.render : Symbol → String
  | equal => "=="
  | notEqual => "!="
  | less => "<"
  | lessEqual => "<="
  | greater => ">"
  | greaterEqual => ">="
  | and => "&&"
  | or => "||"
  | not => "!"
  | dot => "."
  | comma => ","
  | openParen => "("
  | closeParen => ")"
  | openBracket => "["
  | closeBracket => "]"

/-- Numbers in expressions are written in full, without an exponent and without `.0`. -/
def numberLayout : Decimal.Layout := ⟨fun _ => true, false⟩

/-- The spelling of a token, with the characters of a text as they are. -/
def Token.render : Token → String
  | number value => value.render numberLayout
  | text value => "'" ++ value ++ "'"
  | name value => value
  | keyword value => value.render
  | symbol value => value.render

/-- The spelling of what stands at the front of a row of tokens. -/
def renderFront : List Token → String
  | [] => "EOF"
  | token :: _ => token.render

/-- The token of a word: a keyword or a name. -/
def Token.ofWord (word : String) : Token :=
  if word = "null" then keyword .null
  else if word = "true" then keyword .yes
  else if word = "false" then keyword .no
  else name word

end Pipeline.Expression
