import Pipeline.Script.Reader.Quoted

/-! Reading the words of shell scripts. Recursion is bounded by `fuel`, of which a few units for
each octet of the script are enough. -/

namespace Pipeline.Script.Reader

/-- The name of a parameter at the front of the text. Outside of braces only one digit counts. -/
def parameterName (braced : Bool) : Octets → Option (String × Octets)
  | [] => none
  | c :: rest =>
    if c.isAlpha || c = '_' then
      let name := (c :: rest).takeWhile Octets.isNameChar
      some (String.ofList name, (c :: rest).drop name.length)
    else if c.isDigit then
      let name := if braced then (c :: rest).takeWhile Char.isDigit else [c]
      some (String.ofList name, (c :: rest).drop name.length)
    else if "@*#?-$!".toList.contains c then some (String.ofList [c], rest)
    else none

/-- What is done with a parameter, after its name in braces. -/
def parameterUse? : Octets → Option (ParameterUse × Octets)
  | ':' :: '-' :: rest => some (.default true, rest)
  | '-' :: rest => some (.default false, rest)
  | ':' :: '=' :: rest => some (.assign true, rest)
  | '=' :: rest => some (.assign false, rest)
  | ':' :: '?' :: rest => some (.demand true, rest)
  | '?' :: rest => some (.demand false, rest)
  | ':' :: '+' :: rest => some (.alternative true, rest)
  | '+' :: rest => some (.alternative false, rest)
  | '#' :: '#' :: rest => some (.withoutPrefix true, rest)
  | '#' :: rest => some (.withoutPrefix false, rest)
  | '%' :: '%' :: rest => some (.withoutSuffix true, rest)
  | '%' :: rest => some (.withoutSuffix false, rest)
  | '/' :: '/' :: rest => some (.replaced .every, rest)
  | '/' :: '#' :: rest => some (.replaced .front, rest)
  | '/' :: '%' :: rest => some (.replaced .back, rest)
  | '/' :: rest => some (.replaced .first, rest)
  | ':' :: rest => some (.slice, rest)
  | '^' :: '^' :: rest => some (.upper true, rest)
  | '^' :: rest => some (.upper false, rest)
  | ',' :: ',' :: rest => some (.lower true, rest)
  | ',' :: rest => some (.lower false, rest)
  | '@' :: letter :: '\x7d' :: rest =>
    if "QUuLEAKak".toList.contains letter then some (.transformed letter, '\x7d' :: rest) else none
  | '\x7d' :: rest => some (.value, '\x7d' :: rest)
  | _ => none

/-- Is the word of such a use a pattern, which quotation marks around it do not protect? -/
def isPatternUse : ParameterUse → Bool
  | .withoutPrefix _ | .withoutSuffix _ | .replaced _ => true
  | _ => false

/-- Where a word ends. -/
inductive Ending where
  /-- At a blank or an operator. -/
  | atBreak
  /-- At a double quotation mark. -/
  | atQuote
  /-- At a closing brace; `quoted` says that the word stands inside quotation marks. -/
  | atBrace (quoted : Bool)
  /-- At the end of the text, where perhaps everything is quoted. -/
  | atEnd (quoted : Bool)
  deriving Repr, DecidableEq

/-- Is text before such an ending quoted? -/
def Ending.quotes : Ending → Bool
  | atQuote => true
  | atBreak => false
  | atBrace quoted | atEnd quoted => quoted

mutual

/-- The parts of a word up to its end, and the text from there. -/
def readParts : Nat → Ending → Octets → Except SyntaxFault (Word × Octets)
  | 0, _, _ => .error (.endOfText none)
  | fuel + 1, ending, cs =>
    match ending, cs with
    | .atBreak, [] | .atEnd _, [] => .ok ([], [])
    | .atQuote, [] => .error (.unclosedQuote '"')
    | .atBrace _, [] => .error .unclosedBrace
    | .atQuote, '"' :: rest => .ok ([], rest)
    | .atBrace _, '\x7d' :: rest => .ok ([], rest)
    | ending, c :: rest =>
      if ending = .atBreak && isBreak c then .ok ([], c :: rest)
      else do
        let (part, rest) ← readPart fuel ending c rest
        let (parts, rest) ← readParts fuel ending rest
        pure (part ++ parts, rest)

/-- The part of a word that starts with a character. -/
def readPart : Nat → Ending → Char → Octets → Except SyntaxFault ((List Part) × Octets)
  | 0, _, _, _ => .error (.endOfText none)
  | fuel + 1, ending, c, rest =>
    let quoted := ending.quotes
    match c, rest with
    | '\\', '\n' :: rest => .ok ([], rest)
    | '\\', e :: rest =>
      if !quoted || e = '$' || e = '\x60' || e = '\\' || (e = '"' && ending ≠ .atEnd true) ||
          (e = '\x7d' && ending = .atBrace true) then
        .ok ([.text true [e]], rest)
      else .ok ([.text quoted ['\\']], e :: rest)
    | '\'', rest =>
      if quoted then .ok ([.text true ['\'']], rest)
      else do
        let (text, rest) ← splitQuote rest
        pure ([.text true text], rest)
    | '"', rest =>
      if ending = .atEnd true then .ok ([.text true ['"']], rest)
      else do
        let (parts, rest) ← readParts fuel .atQuote rest
        pure (.text true [] :: parts, rest)
    | '\x60', rest => do
      let (script, rest) ← splitBackQuote rest
      pure ([.output quoted script], rest)
    | '$', '(' :: '(' :: rest => do
      let (text, after) ← splitBracket '(' ')' .unclosedSum [.brackets, .brackets] rest
      if text.getLast? = some ')' then
        let (parts, _) ← readParts fuel (.atEnd true) text.dropLast
        pure ([.arithmetic quoted parts], after)
      else pure ([.output quoted ('(' :: text)], after)
    | '$', '(' :: rest => do
      let (script, rest) ← splitBracket '(' ')' .unclosedScript [.brackets] rest
      pure ([.output quoted script], rest)
    | '$', '\x7b' :: rest =>
      let unknown : Except SyntaxFault ((List Part) × Octets) := do
        let (_, after) ← readParts fuel (.atBrace quoted) rest
        pure ([.unknown (rest.take (rest.length - after.length - 1))], after)
      let close (name : String) (item : Word) (use : ParameterUse) (rest : Octets) :
          Except SyntaxFault ((List Part) × Octets) :=
        match rest with
        | '\x7d' :: rest => .ok ([.parameter quoted name item use []], rest)
        | _ => unknown
      let named (rest : Octets) : Option (Except SyntaxFault (String × Word × Octets)) :=
        (parameterName true rest).map fun (name, rest) =>
          match Octets.isName name.toList, rest with
          | true, '[' :: inner => do
            let (text, rest) ← splitBracket '[' ']' .unclosedBrace [.brackets] inner
            let (item, _) ← readParts fuel (.atEnd false) text
            pure (name, item, rest)
          | _, rest => .ok (name, [], rest)
      match rest with
      | '#' :: '\x7d' :: rest => .ok ([.parameter quoted "#" [] .value []], rest)
      | '#' :: after =>
        match named after with
        | some found => do
          let (name, item, rest) ← found
          close name item .length rest
        | none => unknown
      | rest =>
        let (isTarget, front) := match rest with
          | '!' :: c :: after =>
            if Octets.isNameChar c then (true, c :: after) else (false, rest)
          | rest => (false, rest)
        match named front with
        | none => unknown
        | some found => do
          let (name, item, rest) ← found
          if isTarget then close name item .target rest
          else
            match parameterUse? rest with
            | none => unknown
            | some (use, rest) =>
              let (word, rest) ← readParts fuel (.atBrace (quoted && !isPatternUse use)) rest
              pure ([.parameter quoted name item use word], rest)
    | '$', '\'' :: rest =>
      if quoted then .ok ([.text true ['$']], '\'' :: rest)
      else do
        let (text, rest) ← splitEscaped rest
        pure ([.escaped text], rest)
    | '$', rest =>
      match parameterName false rest with
      | some (name, rest) => .ok ([.parameter quoted name [] .value []], rest)
      | none => .ok ([.text quoted ['$']], rest)
    | c, rest => .ok ([.text quoted [c]], rest)

end

/-- Joins neighbouring texts of one kind. An empty quoted text stays, because it makes a word. -/
def joinTexts : Word → Word
  | .text a s :: rest =>
    match joinTexts rest with
    | .text b t :: rest =>
      if a = b then .text a (s ++ t) :: rest else .text a s :: .text b t :: rest
    | rest => .text a s :: rest
  | part :: rest => part :: joinTexts rest
  | [] => []

/-- A word with its tilde taken as the home directory. -/
def withHome : Word → Word
  | .text false ['~'] :: rest => .home :: rest
  | .text false ('~' :: '/' :: path) :: rest => .home :: .text false ('/' :: path) :: rest
  | word => word

/-- The word at the front of the text. -/
def readWord (fuel : Nat) (cs : Octets) : Except SyntaxFault (Word × Octets) := do
  let (parts, rest) ← readParts fuel .atBreak cs
  pure (withHome (joinTexts parts), rest)

/-- More fuel than the reading of a text takes. -/
def fuelFor (cs : Octets) : Nat := 16 * cs.length + 64

/-- The parts of a text that is expanded as if it stood between quotation marks. -/
def readTemplate (cs : Octets) : Except SyntaxFault Word := do
  let (parts, _) ← readParts (fuelFor cs) (.atEnd true) cs
  pure (joinTexts parts)

/-- The parts of a text that is one word. -/
def readWhole (cs : Octets) : Except SyntaxFault Word := do
  let (parts, _) ← readParts (fuelFor cs) (.atEnd false) cs
  pure (joinTexts parts)

/-- The words with a meaning of their own at the start of a command. -/
def keywords : List String :=
  ["if", "then", "elif", "else", "fi", "while", "until", "for", "do", "done", "case", "esac", "in",
    "!", "\x7b", "\x7d"]

/-- The keyword at the front of the text. -/
def keyword? (cs : Octets) : Option (String × Octets) :=
  let word := cs.takeWhile (!isBreak ·)
  let name := String.ofList word
  if keywords.contains name then some (name, cs.drop word.length) else none

/-- The operators that can stand at the front of the text. -/
def operators : List String := [";;", "&&", "||", ";", "&", "|", "(", ")"]

/-- The operators of redirections, the longer ones first. -/
def redirectionOperators : List String :=
  ["<<<", "<<-", "<<", "<&", "<>", "<", ">>", ">&", ">|", ">"]

/-- The fault of the token at the front of the text, where perhaps another one is expected. -/
def token (cs : Octets) (expected : Option String) : SyntaxFault :=
  let word := String.ofList (cs.takeWhile (!isBreak ·))
  match cs with
  | [] => .endOfText expected
  | '\n' :: _ => .unexpected "newline" expected
  | cs =>
    match operators.find? fun o => o.toList.isPrefixOf cs with
    | some o => .unexpected o expected
    | none =>
      match redirectionOperators.find? fun o => o.toList.isPrefixOf cs with
      | some o => .unexpectedRedirection o
      | none =>
        if keywords.contains word then .unexpected word expected
        else .unexpectedWord word expected

/-- The fault of the token at the front of the text, where no keyword has its meaning. -/
def tokenOrWord (cs : Octets) (expected : Option String) : SyntaxFault :=
  match token cs expected with
  | .unexpected found expected =>
    if keywords.contains found then .unexpectedWord found expected else .unexpected found expected
  | fault => fault

/-- The text after a keyword that has to come next. -/
def expectKeyword (name : String) (cs : Octets) : Except SyntaxFault Octets :=
  let cs := skipLines cs.length cs
  match keyword? cs with
  | some (found, rest) => if found = name then .ok rest else .error (token cs (some name))
  | none => .error (token cs (some name))

/-- Does a list of commands end before this text? -/
def closesList (cs : Octets) : Bool :=
  match cs with
  | [] => true
  | ')' :: _ => true
  | ';' :: ';' :: _ | ';' :: '&' :: _ => true
  | cs =>
    match keyword? cs with
    | some (name, _) => ["then", "elif", "else", "fi", "do", "done", "esac", "\x7d"].contains name
    | none => false

/-- The line number of a text at the end of a script with `total` line feeds. -/
def lineAt (total : Nat) (cs : Octets) : Nat := total - cs.count '\n' + 1

/-- The text after blanks. -/
def skipSpaces (cs : Octets) : Octets := cs.dropWhile fun c => c = ' ' || c = '\t' || c = '\n'

end Pipeline.Script.Reader
