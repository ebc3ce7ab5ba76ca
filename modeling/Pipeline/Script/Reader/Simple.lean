import Pipeline.Script.Reader.Words

/-! Reading simple commands: assignments, words and redirections. -/

namespace Pipeline.Script.Reader

/-- The lines of a text in the script up to its delimiter, and what follows it. -/
def splitHereText (delimiter : Octets) (stripTabs : Bool) :
    Nat → Octets → Octets × Octets
  | 0, cs => ([], cs)
  | fuel + 1, cs =>
    if cs.isEmpty then ([], [])
    else
      let line := cs.takeWhile (· ≠ '\n')
      let rest := (cs.drop line.length).drop 1
      let line := if stripTabs then line.dropWhile (· = '\t') else line
      if line = delimiter then ([], rest)
      else
        let (text, after) := splitHereText delimiter stripTabs fuel rest
        (line ++ '\n' :: text, after)

/-- The literal characters of a word, and whether any of them is quoted. -/
def literal (word : Word) : Octets × Bool :=
  word.foldl (fun (text, quoted) part =>
    match part with
    | .text q octets => (text ++ octets, quoted || q)
    | _ => (text, quoted)) ([], false)

/-- The redirection at the front of the text, if there is one: its descriptor, its operator, and
the text after those. -/
def redirection? (isBash : Bool) (cs : Octets) : Option (Option Nat × String × Octets) :=
  let digits := cs.takeWhile Char.isDigit
  let rest := cs.drop digits.length
  let descriptor := if digits.isEmpty then none else (String.ofList digits).toNat?
  let operators := if isBash then "&>>" :: "&>" :: redirectionOperators
    else redirectionOperators.filter (· ≠ "<<<")
  let isStream := isBash && digits.isEmpty && "<(".toList.isPrefixOf rest
  match if isStream then none else operators.find? fun o => o.toList.isPrefixOf rest with
  | some o =>
    if o.startsWith "&" && !digits.isEmpty then none else some (descriptor, o, rest.drop o.length)
  | none => none

/-- The output of a script, in place of a file, at the front of the text. -/
def readStream? (isBash : Bool) (cs : Octets) : Option (Except SyntaxFault (Word × Octets)) :=
  match isBash, cs with
  | true, '<' :: '(' :: rest => some do
    let (script, rest) ← splitBracket '(' ')' .unclosedScript [.brackets] rest
    pure ([.stream script], rest)
  | _, _ => none

/-- The redirections that an operator and the word after it make, and the text after those. -/
def readRedirection (style : Style) (fuel : Nat) (descriptor : Option Nat) (operator : String)
    (cs : Octets) : Except SyntaxFault ((List Redirection) × Octets) := do
  let cs := skipBlanks cs.length cs
  let (word, rest) ← match readStream? style.isBash cs with
    | some found => found
    | none =>
      if atBreak cs then
        throw (if style.isBash && cs.isEmpty then .unexpected "newline" none else token cs none)
      else readWord fuel cs
  let one (standard : Nat) (direction : Direction) :=
    [Redirection.mk (descriptor.getD standard) direction word]
  let both : Redirection := ⟨2, .same, [.text false ['1']]⟩
  match operator with
  | ">>" => pure (one 1 .append, rest)
  | ">&" => pure (one 1 .same, rest)
  | "<&" => pure (one 0 .same, rest)
  | "<" => pure (one 0 .read, rest)
  | "<<<" => pure (one 0 .line, rest)
  | "&>" => pure ([⟨1, .write, word⟩, both], rest)
  | "&>>" => pure ([⟨1, .append, word⟩, both], rest)
  | "<<" | "<<-" =>
    let (delimiter, quoted) := literal word
    let line := rest.takeWhile (· ≠ '\n')
    let body := (rest.drop line.length).drop 1
    let (text, after) := splitHereText delimiter (operator == "<<-") (body.length + 1) body
    let parts ← if quoted then pure [.text true text] else readTemplate text
    pure ([⟨descriptor.getD 0, .text, parts⟩], line ++ '\n' :: after)
  | _ => pure (one 1 .write, rest)

/-- The redirections after a compound command. -/
def readRedirections (style : Style) :
    Nat → Octets → Except SyntaxFault ((List Redirection) × Octets)
  | 0, cs => .ok ([], cs)
  | fuel + 1, cs =>
    match redirection? style.isBash (skipBlanks cs.length cs) with
    | none => .ok ([], cs)
    | some (descriptor, operator, rest) => do
      let (first, rest) ← readRedirection style fuel descriptor operator rest
      let (more, rest) ← readRedirections style fuel rest
      pure (first ++ more, rest)

/-- The items of a row up to the closing bracket. -/
def readItems : Nat → Octets → Except SyntaxFault (List (Word × Word) × Octets)
  | 0, _ => .error (.endOfText none)
  | fuel + 1, cs =>
    let cs := skipLines cs.length cs
    match cs with
    | ')' :: rest => .ok ([], rest)
    | [] => .error (.unclosedQuote ')')
    | '[' :: inner => do
      let (key, after) ← splitBracket '[' ']' .unclosedBrace [.brackets] inner
      match after with
      | '=' :: value =>
        let key ← readWhole key
        let (word, rest) ← readWord fuel value
        let (items, rest) ← readItems fuel rest
        pure ((key, word) :: items, rest)
      | _ =>
        let (word, rest) ← readWord fuel cs
        let (items, rest) ← readItems fuel rest
        pure (([], word) :: items, rest)
    | cs => do
      if atBreak cs then throw (token cs none)
      let (word, rest) ← readWord fuel cs
      let (items, rest) ← readItems fuel rest
      pure (([], word) :: items, rest)

/-- The assignment at the front of the text, and what follows it. -/
def readBinding (style : Style) (fuel : Nat) (cs : Octets) :
    Except SyntaxFault (Option (Binding × Octets)) := do
  let name := cs.takeWhile Octets.isNameChar
  let rest := cs.drop name.length
  let (item, rest) ← match style.isBash, rest with
    | true, '[' :: inner =>
      match splitBracket '[' ']' .unclosedBrace [.brackets] inner with
      | .ok (text, after) => do pure (← readWhole text, after)
      | .error _ => pure ([], rest)
    | _, rest => pure ([], rest)
  let (appends, rest) := match style.isBash, rest with
    | true, '+' :: '=' :: rest => (true, '=' :: rest)
    | _, rest => (false, rest)
  match Octets.isName name, rest with
  | true, '=' :: value =>
    match style.isBash && item.isEmpty, value with
    | true, '(' :: inner =>
      let (items, rest) ← readItems fuel inner
      pure (some (⟨String.ofList name, item, appends, .items items⟩, rest))
    | _, _ =>
      let (word, rest) ← readWord fuel value
      pure (some (⟨String.ofList name, item, appends, .word word⟩, rest))
  | _, _ => pure none

/-- The commands whose arguments are assignments. -/
def declarations : List String := ["export", "readonly", "local", "declare", "typeset"]

/-- What a simple command consists of. -/
structure Simple where
  bindings : List Binding
  words : List Word
  redirections : List Redirection
  /-- The rows that a declaration fills. -/
  rows : List Binding

/-- The command of its parts. -/
def Simple.command (line : Nat) (simple : Simple) : Command :=
  let command := .simple line simple.bindings simple.words simple.redirections
  if simple.rows.isEmpty then command
  else .sequence command (.simple line simple.rows [] [])

/-- The literal name of a simple command. -/
def Simple.name (simple : Simple) : String :=
  match simple.words with
  | [.text false octets] :: _ => String.ofList octets
  | _ => ""

/-- The word that is the argument of a declaration for an assignment: its value is not split. -/
def bindingWord (binding : Binding) (value : Word) : Word :=
  [.text true (binding.name.toList ++ (if binding.appends then ['+', '='] else ['=']))] ++
    value.map fun
      | .text false octets => .text true octets
      | .parameter _ name item use word => .parameter true name item use word
      | .output _ script => .output true script
      | .arithmetic _ expression => .arithmetic true expression
      | part => part

/-- The rest of a simple command. -/
def readSimple (style : Style) (line : Nat) :
    Nat → Simple → Octets → Except SyntaxFault (Command × Octets)
  | 0, _, _ => .error (.endOfText none)
  | fuel + 1, simple, cs =>
    let cs := skipBlanks cs.length cs
    match redirection? style.isBash cs with
    | some (descriptor, operator, rest) => do
      let (more, rest) ← readRedirection style fuel descriptor operator rest
      readSimple style line fuel { simple with redirections := simple.redirections ++ more } rest
    | none =>
      match readStream? style.isBash cs with
      | some found => do
        let (word, rest) ← found
        readSimple style line fuel { simple with words := simple.words ++ [word] } rest
      | none =>
        if atBreak cs then
          let bare := simple.bindings.isEmpty && simple.redirections.isEmpty
          match cs with
          | '(' :: rest =>
            if bare && simple.words.length = 1 then
              .error (tokenOrWord (skipBlanks rest.length rest) (some ")"))
            else .error (token cs none)
          | cs =>
            if bare && simple.words.isEmpty then .error (token cs none)
            else .ok (simple.command line, cs)
        else do
          let isDeclaration := declarations.contains simple.name
          let binding ← if simple.words.isEmpty || isDeclaration then readBinding style fuel cs
            else pure none
          match binding with
          | some (binding, rest) =>
            if simple.words.isEmpty then
              readSimple style line fuel { simple with bindings := simple.bindings ++ [binding] }
                rest
            else
              match binding.value with
              | .word value =>
                readSimple style line fuel
                  { simple with words := simple.words ++ [bindingWord binding value] } rest
              | .items _ =>
                readSimple style line fuel
                  { simple with words := simple.words ++ [[.text true binding.name.toList]],
                                rows := simple.rows ++ [binding] } rest
          | none =>
            let (word, rest) ← readWord fuel cs
            readSimple style line fuel { simple with words := simple.words ++ [word] } rest

/-- The words up to the end of a line or a semicolon. -/
def readWords : Nat → Octets → Except SyntaxFault ((List Word) × Octets)
  | 0, _ => .error (.endOfText none)
  | fuel + 1, cs =>
    let cs := skipBlanks cs.length cs
    if atBreak cs then .ok ([], cs)
    else do
      let (word, rest) ← readWord fuel cs
      let (words, rest) ← readWords fuel rest
      pure (word :: words, rest)

/-- The patterns of a branch up to its closing bracket. -/
def readPatterns : Nat → Octets → Except SyntaxFault ((List Word) × Octets)
  | 0, _ => .error (.endOfText none)
  | fuel + 1, cs => do
    let (pattern, rest) ← readWord fuel (skipBlanks cs.length cs)
    match skipBlanks rest.length rest with
    | '|' :: rest =>
      let (patterns, rest) ← readPatterns fuel rest
      pure (pattern :: patterns, rest)
    | ')' :: rest => pure ([pattern], rest)
    | rest => .error (token rest (some ")"))

/-- A character that the name of a function can hold. -/
def isFunctionChar (c : Char) : Bool := !isBreak c && !"\"'\\$\x60=".toList.contains c

/-- The name of the function that is defined at the front of the text, and the text of its body. -/
def definition? (cs : Octets) : Option (Octets × Octets) :=
  let name := cs.takeWhile isFunctionChar
  let rest := cs.drop name.length
  match skipBlanks rest.length rest with
  | '(' :: rest =>
    match skipBlanks rest.length rest with
    | ')' :: rest => if name.isEmpty then none else some (name, skipLines rest.length rest)
    | _ => none
  | _ => none

/-- The name of the function that is defined with a keyword, and the text of its body. -/
def keywordDefinition? (style : Style) (cs : Octets) : Option (Octets × Octets) :=
  if style.isBash && "function ".toList.isPrefixOf cs then
    let rest := skipBlanks cs.length (cs.drop 9)
    let name := rest.takeWhile isFunctionChar
    let rest := skipLines rest.length (rest.drop name.length)
    let rest := if "()".toList.isPrefixOf rest then rest.drop 2 else rest
    if name.isEmpty then none else some (name, skipLines rest.length rest)
  else none

/-- The expression in double brackets whose first one has been read, and what follows them. -/
def calculation? (style : Style) (cs : Octets) : Option (Octets × Octets) :=
  match cs with
  | '(' :: rest =>
    match splitBracket '(' ')' .unclosedSum [.brackets, .brackets] rest with
    | .ok (text, after) =>
      if style.isBash && text.getLast? = some ')' then some (text.dropLast, after) else none
    | .error _ => none
  | _ => none

/-- The three expressions of a counting loop, and what follows its double brackets. -/
def countingParts? (style : Style) (cs : Octets) : Option (List Octets × Octets) :=
  match cs with
  | '(' :: rest =>
    match calculation? style rest with
    | some (text, rest) =>
      let parts := text.splitOn ';'
      if parts.length = 3 then some (parts, rest) else none
    | none => none
  | _ => none

end Pipeline.Script.Reader
