import Pipeline.Script.Syntax

/-! Where blanks, quotations and brackets in shell scripts end. -/

namespace Pipeline.Script.Reader

/-- What reading depends on. -/
structure Style where
  /-- How many line feeds the whole script has. -/
  lineFeeds : Nat
  /-- The script is one for bash. -/
  isBash : Bool

/-- A character that ends a word. -/
def isBreak (c : Char) : Bool :=
  " \t\n;&|<>()".toList.contains c

/-- Does a word end before this text? -/
def atBreak : Octets → Bool
  | [] => true
  | c :: _ => isBreak c

/-- The text after blanks, comments and joined lines. -/
def skipBlanks (fuel : Nat) (cs : Octets) : Octets :=
  match fuel, cs with
  | fuel + 1, '\\' :: '\n' :: rest => skipBlanks fuel rest
  | fuel + 1, c :: rest =>
    if c = ' ' || c = '\t' then skipBlanks fuel rest
    else if c = '#' then skipBlanks fuel (rest.dropWhile (· ≠ '\n'))
    else c :: rest
  | _, cs => cs

/-- The text after blanks, comments and line ends. -/
def skipLines (fuel : Nat) (cs : Octets) : Octets :=
  match fuel, skipBlanks cs.length cs with
  | fuel + 1, '\n' :: rest => skipLines fuel rest
  | _, cs => cs

/-- The text up to a single quotation mark, and after it. -/
def splitQuote : Octets → Except SyntaxFault (Octets × Octets)
  | [] => .error (.unclosedQuote '\'')
  | '\'' :: rest => .ok ([], rest)
  | c :: rest => do
    let (text, rest) ← splitQuote rest
    pure (c :: text, rest)

/-- The text up to a single quotation mark without a backslash before it, and after it. -/
def splitEscaped : Octets → Except SyntaxFault (Octets × Octets)
  | [] => .error (.unclosedQuote '\'')
  | '\'' :: rest => .ok ([], rest)
  | '\\' :: c :: rest => do
    let (text, rest) ← splitEscaped rest
    pure ('\\' :: c :: text, rest)
  | c :: rest => do
    let (text, rest) ← splitEscaped rest
    pure (c :: text, rest)

/-- What stands around the text that is read. -/
inductive Surround where
  | bare
  /-- Double quotation marks. -/
  | quotes
  /-- Single quotation marks. -/
  | apostrophes
  | brackets
  deriving Repr, DecidableEq

/-- The text up to the bracket that closes what is open, and after it. Brackets inside quotation
marks do not count. If the text ends before that, the fault is the one given. -/
def splitBracket (opens closes : Char) (fault : SyntaxFault) :
    List Surround → Octets → Except SyntaxFault (Octets × Octets)
  | _, [] => .error fault
  | [], cs => .ok ([], cs)
  | .apostrophes :: outer, c :: rest => do
    let (text, rest) ← splitBracket opens closes fault
      (if c = '\'' then outer else .apostrophes :: outer) rest
    pure (c :: text, rest)
  | around :: outer, '\\' :: c :: rest => do
    let (text, rest) ← splitBracket opens closes fault (around :: outer) rest
    pure ('\\' :: c :: text, rest)
  | .quotes :: outer, c :: rest => do
    let (text, rest) ← splitBracket opens closes fault
      (if c = '"' then outer else .quotes :: outer) rest
    pure (c :: text, rest)
  | around :: outer, c :: rest =>
    if c = closes && outer.isEmpty then .ok ([], rest)
    else do
      let stack :=
        if c = closes then outer
        else if c = opens then .brackets :: around :: outer
        else if c = '"' then .quotes :: around :: outer
        else if c = '\'' then .apostrophes :: around :: outer
        else around :: outer
      let (text, rest) ← splitBracket opens closes fault stack rest
      pure (c :: text, rest)

/-- The script between back quotes, without the backslashes that protect it, and the text after. -/
def splitBackQuote : Octets → Except SyntaxFault (Octets × Octets)
  | [] => .error (.unclosedQuote '\x60')
  | '\x60' :: rest => .ok ([], rest)
  | '\\' :: c :: rest => do
    let (text, rest) ← splitBackQuote rest
    let isPlain := c = '\x60' || c = '\\' || c = '$'
    pure (if isPlain then c :: text else '\\' :: c :: text, rest)
  | c :: rest => do
    let (text, rest) ← splitBackQuote rest
    pure (c :: text, rest)

end Pipeline.Script.Reader
