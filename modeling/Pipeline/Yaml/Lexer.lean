import Pipeline.Yaml.Directive

/-! From the text of a document to its tokens. Indentation opens and closes blocks, and a node that
turns out to be a key is marked as one when its colon is met. -/

namespace Pipeline.Yaml

/-- A node that may turn out to be a key: where it starts, and its place among the tokens. -/
structure PossibleKey where
  /-- At this column only a key can stand, so that a colon has to follow. -/
  required : Bool
  token : Nat
  index : Nat
  line : Nat
  column : Nat

/-- The state of reading tokens. -/
structure Lexer where
  cursor : Cursor
  tokens : Array Token
  /-- The column of the innermost block, or -1 outside all blocks. -/
  indent : Int
  /-- The columns of the blocks around it. -/
  outer : List Int
  /-- A key without a question mark may start here. -/
  keyAllowed : Bool
  /-- The possible key of the block level. -/
  blockKey : Option PossibleKey
  /-- The possible keys of the flow collections around the cursor, the innermost first. -/
  flowKeys : List (Option PossibleKey)

namespace Lexer

/-- The start of a document. -/
def start (text : List Char) : Lexer :=
  ⟨Cursor.start text, #[], -1, [], true, none, []⟩

/-- Inside a flow collection indentation means nothing. -/
def inFlow (l : Lexer) : Bool := !l.flowKeys.isEmpty

/-- The possible key of the innermost level. -/
def key? (l : Lexer) : Option PossibleKey :=
  match l.flowKeys with
  | [] => l.blockKey
  | key :: _ => key

/-- Sets the possible key of the innermost level. -/
def setKey (l : Lexer) (key : Option PossibleKey) : Lexer :=
  match l.flowKeys with
  | [] => { l with blockKey := key }
  | _ :: keys => { l with flowKeys := key :: keys }

/-- Adds a token. -/
def push (l : Lexer) (token : Token) : Lexer := { l with tokens := l.tokens.push token }

/-- Past `n` characters. -/
def skip (l : Lexer) (n : Nat) : Lexer := { l with cursor := l.cursor.skip n }

/-- Adds a token and goes past its `n` characters. -/
def emit (l : Lexer) (token : Token) (n : Nat) : Lexer := (l.push token).skip n

/-- Puts a token among those read before. -/
def insertToken (l : Lexer) (place : Nat) (token : Token) : Lexer :=
  { l with
    tokens := (l.tokens.extract 0 place).push token ++ l.tokens.extract place l.tokens.size }

/-- A key has to end on the line on which it starts, and within 1024 characters. -/
def isStale (l : Lexer) (key : PossibleKey) : Bool :=
  key.line < l.cursor.line || key.index + 1024 < l.cursor.index

/-- The key, unless it is too late for its colon. -/
def freshKey (l : Lexer) (key : Option PossibleKey) : Except SyntaxError (Option PossibleKey) :=
  match key with
  | none => .ok none
  | some key =>
    if l.isStale key then if key.required then .error .missingColon else .ok none
    else .ok (some key)

/-- Gives up the possible keys that are too late for their colons. -/
def dropStaleKeys (l : Lexer) : Except SyntaxError Lexer :=
  match l.freshKey l.blockKey, l.flowKeys.mapM l.freshKey with
  | .ok blockKey, .ok flowKeys => .ok { l with blockKey, flowKeys }
  | .error e, _ | _, .error e => .error e

/-- Gives up the possible key of the innermost level. -/
def dropKey (l : Lexer) : Except SyntaxError Lexer :=
  match l.key? with
  | some key => if key.required then .error .missingColon else .ok (l.setKey none)
  | none => .ok l

/-- The node that starts here may be a key. -/
def saveKey (l : Lexer) : Except SyntaxError Lexer :=
  if l.keyAllowed then
    match l.dropKey with
    | .error e => .error e
    | .ok l =>
      let required := !l.inFlow && l.indent == l.cursor.column
      .ok (l.setKey (some
        ⟨required, l.tokens.size, l.cursor.index, l.cursor.line, l.cursor.column⟩))
  else .ok l

/-- Closes the blocks that are indented deeper than a column. -/
def unroll (column : Int) (l : Lexer) : Lexer :=
  if l.inFlow then l else go l.outer l.indent l
where
  /-- Closes the blocks of a list of columns, from the inside out. -/
  go : List Int → Int → Lexer → Lexer
    | [], indent, l => { l with indent, outer := [] }
    | next :: outer, indent, l =>
      if indent > column then go outer next (l.push .blockEnd)
      else { l with indent, outer := next :: outer }

/-- Opens a block at a column if it is deeper than the one around it. -/
def roll (column : Nat) (place : Nat) (opening : Token) (l : Lexer) : Lexer :=
  if l.inFlow || l.indent ≥ column then l
  else { l.insertToken place opening with indent := column, outer := l.indent :: l.outer }

/-- Past blanks, comments, line ends and the byte-order marks that lines start with. Outside flow
collections a key may start on a new line. -/
def skipToToken (l : Lexer) : Nat → Lexer
  | 0 => l
  | fuel + 1 =>
    let tabs := l.inFlow || !l.keyAllowed
    let blank := fun c => c = ' ' || (tabs && c = '\t')
    let cursor := (l.cursor.skipByteOrderMark.skipWhile blank).skipComment
    if (cursor.peek 0).any isBreak then
      let keyAllowed := l.keyAllowed || !l.inFlow
      skipToToken { l with cursor := cursor.skipBreak, keyAllowed := keyAllowed } fuel
    else { l with cursor }

/-- Leaves all blocks before a directive or a document mark. -/
def leaveBlocks (l : Lexer) : Except SyntaxError Lexer :=
  match (l.unroll (-1)).dropKey with
  | .error e => .error e
  | .ok l => .ok { l with keyAllowed := false }

/-- The end of the text. -/
def finish (l : Lexer) : Except SyntaxError Lexer :=
  match l.leaveBlocks with
  | .error e => .error e
  | .ok l => .ok (l.push .streamEnd)

/-- A bracket or brace that opens a flow collection. -/
def openFlow (token : Token) (l : Lexer) : Except SyntaxError Lexer :=
  match l.saveKey with
  | .error e => .error e
  | .ok l => .ok ({ l with flowKeys := none :: l.flowKeys, keyAllowed := true }.emit token 1)

/-- A bracket or brace that closes a flow collection. -/
def closeFlow (token : Token) (l : Lexer) : Except SyntaxError Lexer :=
  match l.dropKey with
  | .error e => .error e
  | .ok l => .ok ({ l with flowKeys := l.flowKeys.drop 1, keyAllowed := false }.emit token 1)

/-- A comma between the entries of a flow collection. -/
def flowSeparator (l : Lexer) : Except SyntaxError Lexer :=
  match l.dropKey with
  | .error e => .error e
  | .ok l => .ok ({ l with keyAllowed := true }.emit .flowEntry 1)

/-- A hyphen before an entry of a block sequence. -/
def blockItem (l : Lexer) : Except SyntaxError Lexer :=
  if !l.inFlow && !l.keyAllowed then .error .entryNotAllowed
  else
    match (l.roll l.cursor.column l.tokens.size .blockSequenceStart).dropKey with
    | .error e => .error e
    | .ok l => .ok ({ l with keyAllowed := true }.emit .blockEntry 1)

/-- A question mark before a key. -/
def explicitKey (l : Lexer) : Except SyntaxError Lexer :=
  if !l.inFlow && !l.keyAllowed then .error .keyNotAllowed
  else
    match (l.roll l.cursor.column l.tokens.size .blockMappingStart).dropKey with
    | .error e => .error e
    | .ok l => .ok ({ l with keyAllowed := !l.inFlow }.emit .key 1)

/-- A colon before a value. It makes the possible key before it a key. -/
def colon (l : Lexer) : Except SyntaxError Lexer :=
  match l.key? with
  | some key =>
    let l := (l.insertToken key.token .key).roll key.column key.token .blockMappingStart
    .ok ({ l.setKey none with keyAllowed := false }.emit .value 1)
  | none =>
    if !l.inFlow && !l.keyAllowed then .error .valueNotAllowed
    else
      let l := l.roll l.cursor.column l.tokens.size .blockMappingStart
      .ok ({ l with keyAllowed := !l.inFlow }.emit .value 1)

/-- A token that may start a key, read by `read`. -/
def nodeToken (read : Cursor → Except SyntaxError (Token × Cursor)) (l : Lexer) :
    Except SyntaxError Lexer :=
  match l.saveKey with
  | .error e => .error e
  | .ok l =>
    match read l.cursor with
    | .error e => .error e
    | .ok (token, cursor) => .ok { l.push token with cursor, keyAllowed := false }

/-- An alias or an anchor. -/
def nameToken (token : String → Token) (c : Cursor) : Except SyntaxError (Token × Cursor) :=
  match readName (c.skip 1) with
  | .error e => .error e
  | .ok (name, after) => .ok (token name, after)

/-- A quoted scalar. -/
def quotedToken (double : Bool) (c : Cursor) : Except SyntaxError (Token × Cursor) :=
  match quotedScalar double c with
  | .error e => .error e
  | .ok (text, after) => .ok (.scalar (String.ofList text) .quoted, after)

/-- A block scalar. -/
def blockToken (folded : Bool) (l : Lexer) : Except SyntaxError Lexer :=
  match l.dropKey with
  | .error e => .error e
  | .ok l =>
    match blockScalar folded l.indent l.cursor with
    | .error e => .error e
    | .ok (text, cursor) =>
      let token := Token.scalar (String.ofList text) (if folded then .folded else .literal)
      .ok { l.push token with cursor, keyAllowed := true }

/-- A plain scalar. -/
def plainToken (l : Lexer) : Except SyntaxError Lexer :=
  match l.saveKey with
  | .error e => .error e
  | .ok l =>
    match plainScalar l.inFlow l.indent l.cursor with
    | .error e => .error e
    | .ok (text, broken, cursor) =>
      .ok { l.push (.scalar (String.ofList text) .plain) with cursor, keyAllowed := broken }

/-- A document mark of three characters. -/
def documentMark (token : Token) (l : Lexer) : Except SyntaxError Lexer :=
  match l.leaveBlocks with
  | .error e => .error e
  | .ok l => .ok (l.emit token 3)

/-- A directive at the start of a line. -/
def directive (l : Lexer) : Except SyntaxError Lexer :=
  match l.leaveBlocks with
  | .error e => .error e
  | .ok l =>
    match readDirective l.cursor with
    | .error e => .error e
    | .ok (token, cursor) => .ok { l.push token with cursor }

/-- An indicator that a plain scalar may not start with. -/
def isIndicator (c : Char) : Bool :=
  ['-', '?', ':', ',', '[', ']', '\x7b', '\x7d', '#', '&', '*', '!', '|', '>', '\'', '"', '%', '@',
    '\x60'].contains c

/-- May a plain scalar start here? -/
def startsPlain (l : Lexer) (c : Char) : Bool :=
  let next := l.cursor.peek 1
  (!isBlank c && !isBreak c && !isIndicator c) ||
    (c = '-' && !next.any isBlank) ||
    (!l.inFlow && (c = '?' || c = ':') && !l.cursor.blankAt 1)

/-- The next token, at a place where no blank stands. -/
def readToken (l : Lexer) (c : Char) : Except SyntaxError Lexer :=
  let spaced := l.cursor.blankAt 1
  if l.cursor.column = 0 && c = '%' then l.directive
  else if l.cursor.atDocumentMark '-' then l.documentMark .documentStart
  else if l.cursor.atDocumentMark '.' then l.documentMark .documentEnd
  else if c = '[' then l.openFlow .flowSequenceStart
  else if c = '\x7b' then l.openFlow .flowMappingStart
  else if c = ']' then l.closeFlow .flowSequenceEnd
  else if c = '\x7d' then l.closeFlow .flowMappingEnd
  else if c = ',' then l.flowSeparator
  else if c = '-' && spaced then l.blockItem
  else if c = '?' && (l.inFlow || spaced) then l.explicitKey
  else if c = ':' && (l.inFlow || spaced) then l.colon
  else if c = '*' then l.nodeToken (nameToken .alias)
  else if c = '&' then l.nodeToken (nameToken .anchor)
  else if c = '!' then l.nodeToken (readTag l.inFlow)
  else if c = '|' && !l.inFlow then l.blockToken false
  else if c = '>' && !l.inFlow then l.blockToken true
  else if c = '\'' then l.nodeToken (quotedToken false)
  else if c = '"' then l.nodeToken (quotedToken true)
  else if l.startsPlain c then l.plainToken
  else .error .noToken

/-- The tokens before the first one that may still turn out to be a key. -/
def settled (l : Lexer) : Array Token :=
  let waiting := (l.blockKey :: l.flowKeys).filterMap fun key =>
    key.bind fun key => if l.isStale key then none else some key.token
  l.tokens.extract 0 (waiting.foldl min l.tokens.size)

/-- All tokens up to the end of the text or the first mistake. A mistake also takes away the tokens
from the first one on of which it is not clear yet whether it is a key. -/
def run (l : Lexer) : Nat → Array Token × Option SyntaxError
  | 0 => (l.tokens, some .noToken)
  | fuel + 1 =>
    let step : Except SyntaxError (Lexer × Bool) := do
      let l ← (l.skipToToken (l.cursor.rest.length + 1)).dropStaleKeys
      let l := l.unroll l.cursor.column
      match l.cursor.peek 0 with
      | none => return (← l.finish, true)
      | some c => return (← l.readToken c, false)
    match step with
    | .error e => (l.settled, some e)
    | .ok (l, true) => (l.tokens, none)
    | .ok (l, false) => run l fuel

end Lexer

/-- The tokens of a text up to its end, or up to its first mistake. Every token takes a
character. -/
def tokenize (text : String) : Array Token × Option SyntaxError :=
  let cs := text.toList
  if cs.all isAllowed then (Lexer.start cs).run (cs.length + 1)
  else (#[], some .forbiddenCharacter)

end Pipeline.Yaml
