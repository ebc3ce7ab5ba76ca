import Pipeline.Dict
import Pipeline.Script.Machine
import Pipeline.Script.Indented.Expression
import Pipeline.Script.Indented.Value

/-! The values of expressions, with the few functions and methods that small steps need. -/

namespace Pipeline.Script.Indented

/-- The variables of a script, and the line that runs. -/
structure Scope where
  store : Dict Value
  line : Nat

/-- Steps of an indented script. -/
abbrev Running := StateT Scope Steps

/-- Ends the script with an error that nobody catches. -/
def raise {α : Type} (kind message : String) : Running α := do
  let line := (← get).line
  let last := if message = "" then kind else kind ++ ": " ++ message
  Steps.emit 2 (Octets.ofText ("Traceback (most recent call last):\n  File \"<string>\", line " ++
    toString line ++ ", in <module>\n" ++ last ++ "\n"))
  throw (.exit 1)

/-- Ends the script with an exit status or a last message. -/
def exitWith {α : Type} (value : Value) : Running α :=
  match value with
  | .none => throw (.exit 0)
  | .number n => throw (.exit (n % 256).toNat)
  | .boolean b => throw (.exit (if b then 1 else 0))
  | value => do
    Steps.emit 2 (value.shown ++ ['\n'])
    throw (.exit 1)

/-- The octets without the blanks at their ends. -/
def strip (octets : Octets) : Octets :=
  ((octets.dropWhile Char.isWhitespace).reverse.dropWhile Char.isWhitespace).reverse

/-- The parts between a separator. -/
def splitParts (mark : Octets) : Nat → Octets → Octets → List Octets
  | 0, text, _ => [text.reverse]
  | fuel + 1, text, cs =>
    match cs with
    | [] => [text.reverse]
    | c :: rest =>
      if !mark.isEmpty && mark.isPrefixOf cs then
        text.reverse :: splitParts mark fuel [] (cs.drop mark.length)
      else splitParts mark fuel (c :: text) rest

/-- A binary operator on values. -/
def apply (operator : String) (a b : Value) : Running Value := do
  let wrong : Running Value := raise "TypeError" ("unsupported operand type(s) for " ++ operator)
  match operator, a, b with
  | "==", a, b => pure (.boolean (a.quoted == b.quoted))
  | "is", a, b => pure (.boolean (a.quoted == b.quoted))
  | "!=", a, b => pure (.boolean (a.quoted != b.quoted))
  | "in", .text a, .text b => pure (.boolean ((splitParts a (b.length + 1) [] b).length > 1))
  | "in", a, .list items => pure (.boolean (items.any fun item => item.quoted == a.quoted))
  | "not in", .text a, .text b => pure (.boolean ((splitParts a (b.length + 1) [] b).length ≤ 1))
  | "not in", a, .list items => pure (.boolean (!items.any fun item => item.quoted == a.quoted))
  | "+", .number a, .number b => pure (.number (a + b))
  | "+", .text a, .text b => pure (.text (a ++ b))
  | "+", .list a, .list b => pure (.list (a ++ b))
  | "-", .number a, .number b => pure (.number (a - b))
  | "*", .number a, .number b => pure (.number (a * b))
  | "*", .text a, .number b => pure (.text (List.replicate b.toNat a).flatten)
  | "*", .list a, .number b => pure (.list (List.replicate b.toNat a).flatten)
  | "**", .number a, .number b => pure (.number (Int.pow a b.toNat))
  | "//", .number a, .number b =>
    if b = 0 then raise "ZeroDivisionError" "integer division or modulo by zero"
    else pure (.number (a.fdiv b))
  | "/", .number a, .number b =>
    if b = 0 then raise "ZeroDivisionError" "division by zero"
    else if a % b = 0 then pure (.text (Octets.ofInt (a / b) ++ ".0".toList))
    else wrong
  | "%", .number a, .number b =>
    if b = 0 then raise "ZeroDivisionError" "integer modulo by zero" else pure (.number (a.fmod b))
  | "%", .text format, .list items =>
    pure (.text (Format.printf .bash format 1 (items.map Value.shown)).text)
  | "%", .text format, value => pure (.text (Format.printf .bash format 1 [value.shown]).text)
  | "<", .number a, .number b => pure (.boolean (a < b))
  | ">", .number a, .number b => pure (.boolean (a > b))
  | "<=", .number a, .number b => pure (.boolean (a ≤ b))
  | ">=", .number a, .number b => pure (.boolean (a ≥ b))
  | _, _, _ => wrong

/-- Opens a file. -/
def openFile (path mode : String) : Running Value := do
  let m ← (get : Steps Machine)
  let missing : Running Value :=
    raise "FileNotFoundError" ("[Errno 2] No such file or directory: '" ++ path ++ "'")
  match m.files.locate? path with
  | none => missing
  | some place =>
    if mode.contains 'w' then
      if m.tree.isDirectoryAt place.dropLast then
        (modify fun m => { m with tree := m.tree.put place (.file .empty) } : Steps Unit)
        pure (.file place)
      else missing
    else if mode.contains 'a' && m.tree.isDirectoryAt place.dropLast then
      if (m.tree.entry? place).isNone then
        (modify fun m => { m with tree := m.tree.put place (.file .empty) } : Steps Unit)
      pure (.file place)
    else if m.files.isFile path then pure (.file place)
    else missing

/-- The values that `for` goes through. -/
def itemsOf (value : Value) : Running (List Value) := do
  match value with
  | .list items => pure items
  | .text octets => pure (octets.map fun c => .text [c])
  | .file place =>
    match (← (get : Steps Machine)).tree.entry? place with
    | some (.file content) =>
      pure ((Octets.lines (Octets.ofBytes content)).map fun line => .text (line ++ ['\n']))
    | _ => pure []
  | _ => raise "TypeError" "object is not iterable"

/-- A method of a value. -/
def callMethod (object : Value) (name : String) (arguments : List Value) : Running Value := do
  match object, name, arguments with
  | .file place, "write", [.text octets] =>
    (modify fun m => m.write (.file place) octets : Steps Unit)
    pure (.number octets.length)
  | .file place, "read", [] =>
    match (← (get : Steps Machine)).tree.entry? place with
    | some (.file content) => pure (.text (Octets.ofBytes content))
    | _ => pure (.text [])
  | .file _, _, _ => pure .none
  | .part ["sys", "stdout"], "write", [.text octets] =>
    Steps.emit 1 octets
    pure (.number octets.length)
  | .part ["sys", "stderr"], "write", [.text octets] =>
    Steps.emit 2 octets
    pure (.number octets.length)
  | .part ["sys"], "exit", arguments => exitWith (arguments.head?.getD .none)
  | .part ["os"], "_exit", arguments => exitWith (arguments.head?.getD .none)
  | .part ["os"], "getcwd", [] =>
    pure (.text (Octets.ofText (← (get : Steps Machine)).scene.directory.render))
  | .part ["os"], "getenv", .text name :: rest
  | .part ["os", "environ"], "get", .text name :: rest =>
    let m ← (get : Steps Machine)
    pure ((m.value? name.toText).elim (rest.head?.getD .none) .text)
  | .part ["os", "path"], "exists", [.text path] =>
    pure (.boolean ((← (get : Steps Machine)).files.holds path.toText))
  | .part ["time"], "sleep", _ =>
    if (← (get : Steps Machine)).doomed then throw .waits else pure .none
  | .part _, _, _ => pure .none
  | .text octets, "strip", [] => pure (.text (strip octets))
  | .text octets, "upper", [] => pure (.text (octets.map Char.toUpper))
  | .text octets, "lower", [] => pure (.text (octets.map Char.toLower))
  | .text octets, "split", [] =>
    pure (.list (((octets.splitOnP Char.isWhitespace).filter (!·.isEmpty)).map .text))
  | .text octets, "split", [.text mark] =>
    pure (.list ((splitParts mark (octets.length + 1) [] octets).map .text))
  | .text octets, "splitlines", [] => pure (.list ((Octets.lines octets).map .text))
  | .text octets, "join", [value] =>
    pure (.text (octets.intercalate ((← itemsOf value).map Value.shown)))
  | .text octets, "replace", [.text old, .text new] =>
    pure (.text (new.intercalate (splitParts old (octets.length + 1) [] octets)))
  | .text octets, "startswith", [.text front] => pure (.boolean (front.isPrefixOf octets))
  | .text octets, "endswith", [.text back] => pure (.boolean (back.isSuffixOf octets))
  | _, name, _ => raise "AttributeError" ("object has no attribute '" ++ name ++ "'")

/-- Writes values with `print`. -/
def print (arguments : List Value) (named : List (String × Value)) : Running Value := do
  let text (name : String) (otherwise : Octets) : Octets :=
    match named.lookup name with
    | some (.text octets) => octets
    | _ => otherwise
  let octets := (text "sep" [' ']).intercalate (arguments.map Value.shown) ++ text "end" ['\n']
  match named.lookup "file" with
  | some (.part ["sys", "stderr"]) => Steps.emit 2 octets
  | some (.file place) => (modify fun m => m.write (.file place) octets : Steps Unit)
  | _ => Steps.emit 1 octets
  pure .none

/-- A function by its name. -/
def callFunction (name : String) (arguments : List Value) (named : List (String × Value)) :
    Running Value := do
  match name, arguments with
  | "print", arguments => print arguments named
  | "open", [.text path] => openFile path.toText "r"
  | "open", .text path :: .text mode :: _ => openFile path.toText mode.toText
  | "len", [.text octets] => pure (.number octets.length)
  | "len", [.list items] => pure (.number items.length)
  | "str", [value] => pure (.text value.shown)
  | "repr", [value] => pure (.text value.quoted)
  | "bool", [value] => pure (.boolean value.isTrue)
  | "list", [value] => do pure (.list (← itemsOf value))
  | "sorted", [value] => do
    pure (.list ((← itemsOf value).mergeSort fun a b => a.shown.lessOrEqual b.shown))
  | "int", [.number n] => pure (.number n)
  | "int", [.text octets] =>
    match Format.argumentNumber? (strip octets) with
    | some n => pure (.number n)
    | none =>
      raise "ValueError" ("invalid literal for int() with base 10: '" ++ octets.toText ++ "'")
  | "range", [.number n] => pure (.list ((List.range n.toNat).map fun (i : Nat) => .number i))
  | "range", [.number a, .number b] =>
    pure (.list ((List.range (b - a).toNat).map fun (i : Nat) => .number (a + i)))
  | "exit", arguments | "quit", arguments => exitWith (arguments.head?.getD .none)
  | "SystemExit", arguments =>
    match arguments.head?.getD .none with
    | .number n => pure (.error name [] (some n))
    | .none => pure (.error name [] (some 0))
    | value => pure (.error name value.shown none)
  | name, arguments =>
    if name.endsWith "Error" || name = "Exception" then
      pure (.error name ((arguments.head?.map Value.shown).getD []) none)
    else raise "NameError" ("name '" ++ name ++ "' is not defined")

mutual

/-- The value of an expression. -/
def evaluate : Nat → Expression → Running Value
  | 0, _ => throw .exhausted
  | fuel + 1, expression => do
    match expression with
    | .none => pure .none
    | .boolean b => pure (.boolean b)
    | .number n => pure (.number n)
    | .text octets => pure (.text octets)
    | .template parts => do
      let values ← evaluateAll fuel parts
      pure (.text (values.flatMap Value.shown))
    | .name name =>
      match (← get).store.get? name with
      | some value => pure value
      | none =>
        if name.endsWith "Error" || name = "Exception" || name = "SystemExit" then
          pure (.error name [] (if name = "SystemExit" then some 0 else none))
        else raise "NameError" ("name '" ++ name ++ "' is not defined")
    | .attribute object name => do
      match ← evaluate fuel object with
      | .part path => pure (.part (path ++ [name]))
      | _ => raise "AttributeError" ("object has no attribute '" ++ name ++ "'")
    | .index object key => do
      let object ← evaluate fuel object
      let key ← evaluate fuel key
      match object, key with
      | .part ["os", "environ"], .text name =>
        match (← (get : Steps Machine)).value? name.toText with
        | some value => pure (.text value)
        | none =>
          Steps.emit 2 []
          raise "KeyError" ("'" ++ name.toText ++ "'")
      | .list items, .number n =>
        let place := if n < 0 then n + items.length else n
        match items[place.toNat]? with
        | some value =>
          if place < 0 then raise "IndexError" "list index out of range" else pure value
        | none => raise "IndexError" "list index out of range"
      | .text octets, .number n =>
        let place := if n < 0 then n + octets.length else n
        match octets[place.toNat]? with
        | some c => pure (.text [c])
        | none => raise "IndexError" "string index out of range"
      | _, _ => raise "TypeError" "object is not subscriptable"
    | .list items => do pure (.list (← evaluateAll fuel items))
    | .unary "not" operand => do pure (.boolean (!(← evaluate fuel operand).isTrue))
    | .unary _ operand =>
      match ← evaluate fuel operand with
      | .number n => pure (.number (-n))
      | _ => raise "TypeError" "bad operand type for unary -"
    | .binary "and" left right => do
      let a ← evaluate fuel left
      if a.isTrue then evaluate fuel right else pure a
    | .binary "or" left right => do
      let a ← evaluate fuel left
      if a.isTrue then pure a else evaluate fuel right
    | .binary operator left right => do
      let a ← evaluate fuel left
      let b ← evaluate fuel right
      apply operator a b
    | .choice test yes no => do
      if (← evaluate fuel test).isTrue then evaluate fuel yes else evaluate fuel no
    | .call function arguments => do
      let values ← evaluateAll fuel (arguments.map (·.2))
      let pairs := (arguments.map (·.1)).zip values
      let plain := pairs.filterMap fun (name, value) => if name.isNone then some value else none
      let named := pairs.filterMap fun (name, value) => name.map (·, value)
      match function with
      | .attribute object name => do callMethod (← evaluate fuel object) name plain
      | .name name => callFunction name plain named
      | _ => raise "TypeError" "object is not callable"

/-- The values of expressions. -/
def evaluateAll : Nat → List Expression → Running (List Value)
  | 0, _ => throw .exhausted
  | _ + 1, [] => pure []
  | fuel + 1, expression :: rest => do
    let value ← evaluate fuel expression
    return value :: (← evaluateAll fuel rest)

end

end Pipeline.Script.Indented
