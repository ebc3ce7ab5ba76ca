import Pipeline.Dict
import Pipeline.Files.Tree
import Pipeline.Script.Octets

/-! Programs that scripts start, and what they do. -/

namespace Pipeline.Script

/-- A program that is started. -/
structure Call where
  name : String
  arguments : List Octets
  input : Octets
  files : FileTree
  environment : Dict Octets

/-- What a program does. -/
structure Effect where
  output : Octets
  errors : Octets
  status : Nat
  files : FileTree
  /-- The input that is left. -/
  input : Octets

namespace Call

/-- The program writes and ends well. -/
def prints (call : Call) (output : Octets) : Effect := ⟨output, [], 0, call.files, call.input⟩

/-- The program ends with a status and writes nothing. -/
def ends (call : Call) (status : Nat) : Effect := ⟨[], [], status, call.files, call.input⟩

/-- A message of the program. -/
def message (call : Call) (text : String) : Octets :=
  Octets.ofText (call.name ++ ": " ++ text ++ "\n")

/-- The program complains and fails. -/
def fails (call : Call) (text : String) (status : Nat) : Effect :=
  ⟨[], call.message text, status, call.files, call.input⟩

/-- The options at the front, letter by letter, and the operands. -/
def splitOptions (call : Call) : Octets × List Octets :=
  let isOption (word : Octets) : Bool :=
    match word with
    | '-' :: _ :: _ => word ≠ ['-', '-']
    | _ => false
  let options := call.arguments.takeWhile isOption
  let operands := match call.arguments.drop options.length with
    | ['-', '-'] :: rest => rest
    | rest => rest
  (options.flatMap (·.drop 1), operands)

end Call

/-- The arguments of a program in order: the letters of its options, the values of those that take
one, and the operands. -/
structure Request where
  letters : Octets
  values : List (Char × Octets)
  operands : List Octets

namespace Request

/-- Is an option set? -/
def has (request : Request) (letter : Char) : Bool := request.letters.contains letter

/-- The last value of an option. -/
def value? (request : Request) (letter : Char) : Option Octets :=
  request.values.reverse.lookup letter

/-- The last value of an option, if it is a number. -/
def number? (request : Request) (letter : Char) : Option Nat :=
  (request.value? letter).bind fun digits => (String.ofList digits).toNat?

/-- The letters of one word of options, and the option at its end that takes a value, with as much
of the value as stands in the word. -/
def lettersIn (valued : List Char) : Octets → Octets × Option (Char × Octets)
  | [] => ([], none)
  | c :: rest =>
    if valued.contains c then ([], some (c, rest))
    else
      let (letters, value) := lettersIn valued rest
      (c :: letters, value)

/-- The request of arguments. Options may stand between operands. -/
def ofArguments (valued : List Char) (names : List (String × Char)) : List Octets → Request
  | [] => ⟨[], [], []⟩
  | ['-', '-'] :: rest => ⟨[], [], rest⟩
  | ('-' :: '-' :: long) :: rest =>
    let name := long.takeWhile (· ≠ '=')
    let request := ofArguments valued names rest
    match names.lookup (String.ofList name) with
    | some letter =>
      if valued.contains letter then
        { request with values := (letter, long.drop (name.length + 1)) :: request.values }
      else { request with letters := letter :: request.letters }
    | none => request
  | ('-' :: c :: cs) :: rest =>
    match lettersIn valued (c :: cs), rest with
    | (letters, some (letter, [])), value :: rest =>
      let request := ofArguments valued names rest
      { request with letters := letters ++ request.letters,
                     values := (letter, value) :: request.values }
    | (letters, some (letter, value)), rest =>
      let request := ofArguments valued names rest
      { request with letters := letters ++ request.letters,
                     values := (letter, value) :: request.values }
    | (letters, none), rest =>
      let request := ofArguments valued names rest
      { request with letters := letters ++ request.letters }
  | word :: rest =>
    let request := ofArguments valued names rest
    { request with operands := word :: request.operands }

end Request

namespace Call

/-- What the arguments of a program ask for. -/
def request (call : Call) (valued : List Char) (names : List (String × Char)) : Request :=
  Request.ofArguments valued names call.arguments

/-- The paths of operands. -/
def paths (operands : List Octets) : List String := operands.map Octets.toText

/-- The content of a file, or of the input for a dash. -/
def content (call : Call) (path : String) : Except String Octets :=
  if path = "-" || path = "/dev/stdin" then .ok call.input
  else if path = "/dev/null" then .ok []
  else
    match call.files.find? path with
    | some (.file bytes) => .ok (Octets.ofBytes bytes)
    | some .directory => .error (path ++ ": Is a directory")
    | none => .error (path ++ ": No such file or directory")

/-- Changes the lines of the operands together, or of the input. -/
def filter (call : Call) (operands : List Octets) (change : Octets → Octets) : Effect :=
  if operands.isEmpty then { call.prints (change call.input) with input := [] }
  else
    (paths operands).foldl (fun effect path =>
      match call.content path with
      | .ok octets => { effect with output := effect.output ++ change octets }
      | .error text =>
        { effect with errors := effect.errors ++ call.message text, status := 1 }) (call.prints [])

/-- Does something for each operand on the tree; a message means that it fails. -/
def forEach (call : Call) (operands : List Octets)
    (act : FileTree → String → Except String FileTree) : Effect :=
  (paths operands).foldl (fun effect path =>
    match act effect.files path with
    | .ok files => { effect with files := files }
    | .error text =>
      { effect with errors := effect.errors ++ (if text = "" then [] else call.message text),
                    status := if text = "" then effect.status else 1 }) (call.prints [])

/-- The place of a path whose directory is there. -/
def placeFor? (files : FileTree) (path : String) : Option Location :=
  match files.locate? path with
  | some place => if files.isDirectoryAt place.dropLast then some place else none
  | none => none

end Call

end Pipeline.Script
