import Pipeline.Double
import Pipeline.Script.Call

/-! Programs that work on lines of text. -/

namespace Pipeline.Script.Tool

/-- `head` and `tail`. -/
def ends (last : Bool) (call : Call) : Effect :=
  let arguments := call.arguments.map fun word =>
    match word with
    | '-' :: d :: digits => if d.isDigit then '-' :: 'n' :: d :: digits else word
    | word => word
  let request := Request.ofArguments ['n', 'c'] [("lines", 'n'), ("bytes", 'c'), ("quiet", 'q')]
    arguments
  let value := ((request.value? 'c').or (request.value? 'n')).getD "10".toList
  let digits := value.dropWhile fun c => c = '+' || c = '-'
  let count := (String.ofList digits).toNat?.getD 10
  let keep {α : Type} (items : List α) : List α :=
    if last then
      if value.head? = some '+' then items.drop (count - 1) else items.drop (items.length - count)
    else if value.head? = some '-' then items.take (items.length - count)
    else items.take count
  let part (octets : Octets) : Octets :=
    if (request.value? 'c').isSome then keep octets
    else
      let lines := Octets.lines octets
      let kept := keep lines
      let text := Octets.unlines kept
      let isCut := octets.getLast? ≠ some '\n' && kept.getLast? == lines.getLast? && !kept.isEmpty
      if isCut then text.dropLast else text
  if request.operands.length < 2 || request.has 'q' then call.filter request.operands part
  else
    let blocks := (Call.paths request.operands).map fun path =>
      (call.content path).map fun octets =>
        Octets.ofText ("==> " ++ path ++ " <==\n") ++ part octets
    let errors := (request.operands.zip blocks).flatMap fun (path, block) =>
      match block with
      | .ok _ => []
      | .error _ => call.message ("cannot open '" ++ path.toText ++
          "' for reading: No such file or directory")
    ⟨['\n'].intercalate (blocks.filterMap Except.toOption), errors,
      if errors.isEmpty then 0 else 1, call.files, call.input⟩

/-- The words between blanks. -/
def words (octets : Octets) : List Octets :=
  (octets.splitOnP fun c => c.isWhitespace).filter (!·.isEmpty)

/-- `wc`. -/
def count (call : Call) : Effect :=
  let (options, operands) := call.splitOptions
  let counts (octets : Octets) : List Nat :=
    let all := [('l', octets.count '\n'), ('w', (words octets).length), ('c', octets.length)]
    if options.isEmpty then all.map (·.2)
    else (all.filter fun (letter, _) => options.contains letter).map (·.2)
  let row (numbers : List Nat) (width : Nat) : Octets :=
    [' '].intercalate (numbers.map fun n =>
      let digits := (toString n).toList
      if numbers.length = 1 then digits else List.replicate (width - digits.length) ' ' ++ digits)
  if operands.isEmpty then
    { call.prints (row (counts call.input) 7 ++ ['\n']) with input := [] }
  else
    let contents := (Call.paths operands).map fun path => (path, call.content path)
    let found := contents.filterMap fun (path, content) => content.toOption.map (path, ·)
    let total := total (found.map fun (_, octets) => octets.length)
    let width := (toString total).length
    let pad (numbers : List Nat) : Octets :=
      if operands.length = 1 then row numbers width
      else [' '].intercalate (numbers.map fun n =>
        let digits := (toString n).toList
        List.replicate (width - digits.length) ' ' ++ digits)
    let errors := contents.flatMap fun (_, content) =>
      match content with
      | .ok _ => []
      | .error text => call.message text
    let sums := ((found.map fun (_, octets) => counts octets).foldl
      (fun sums numbers => (List.range numbers.length).map fun i =>
        sums[i]?.getD 0 + numbers[i]?.getD 0) [])
    let lines := found.map fun (path, octets) =>
      pad (counts octets) ++ ' ' :: Octets.ofText path
    let lines := if operands.length = 1 then lines else lines ++ [pad sums ++ " total".toList]
    ⟨Octets.unlines lines, errors, if errors.isEmpty then 0 else 1, call.files, call.input⟩

/-- The number at the front of a line. -/
def leadingNumber (line : Octets) : Int :=
  let (negative, rest) := match line.dropWhile (· = ' ') with
    | '-' :: rest => (true, rest)
    | rest => (false, rest)
  let n := (String.ofList (rest.takeWhile Char.isDigit)).toNat?.getD 0
  if negative then -(n : Int) else n

/-- The value of a line as a number with a fraction, in units small enough for nine digits. -/
def fineNumber (line : Octets) : Int :=
  let line := line.dropWhile (· = ' ')
  let body := if line.head? = some '-' then line.drop 1 else line
  let whole := body.takeWhile Char.isDigit
  let fraction := match body.drop whole.length with
    | '.' :: rest => (rest.takeWhile Char.isDigit).take 9
    | _ => []
  let digits := whole ++ fraction ++ List.replicate (9 - fraction.length) '0'
  let n : Int := (String.ofList digits).toNat?.getD 0
  if line.head? = some '-' then -n else n

/-- A key of `sort`: the fields from one to another, with the letters of its own order. -/
structure SortKey where
  first : Nat
  skipped : Nat
  final : Option Nat
  letters : Octets

/-- The key that a text writes. -/
def readSortKey (text : Octets) : SortKey :=
  let part (cs : Octets) : Nat × Nat × Octets :=
    let digits := cs.takeWhile Char.isDigit
    let rest := cs.drop digits.length
    let (inner, rest) := match rest with
      | '.' :: rest => (rest.takeWhile Char.isDigit, rest.dropWhile Char.isDigit)
      | rest => ([], rest)
    let number (digits : Octets) := (String.ofList digits).toNat?.getD 0
    (number digits, number inner, rest.filter Char.isAlpha)
  match text.splitOn ',' with
  | [first] =>
    let (n, inner, letters) := part first
    ⟨n, inner - 1, none, letters⟩
  | first :: last :: _ =>
    let (n, inner, letters) := part first
    let (m, _, more) := part last
    ⟨n, inner - 1, some m, letters ++ more⟩
  | [] => ⟨1, 0, none, []⟩

/-- The fields of a line; without a separator each one starts with its blanks. -/
def sortFields (separator : Option Char) (line : Octets) : List Octets :=
  match separator with
  | some mark => (line.splitOn mark).mapIdx fun i field => if i = 0 then field else mark :: field
  | none =>
    line.splitBy fun a b => !((b = ' ' || b = '\t') && !(a = ' ' || a = '\t'))

/-- The text of a key in a line. -/
def sortText (separator : Option Char) (key : SortKey) (line : Octets) : Octets :=
  let fields := (sortFields separator line).drop (key.first - 1)
  let fields := match key.final with
    | some n => fields.take (n + 1 - key.first)
    | none => fields
  let text := fields.flatten
  let text := if separator.isSome && key.first > 1 then text.drop 1 else text
  text.drop key.skipped

/-- The order of two texts that letters ask for. -/
def sortOrder (letters : Octets) (a b : Octets) : Ordering :=
  let plain (a b : Octets) : Ordering :=
    if a = b then .eq else if Octets.lessOrEqual a b then .lt else .gt
  let bare (o : Octets) : Octets :=
    let o := if letters.contains 'b' then o.dropWhile fun c => c = ' ' || c = '\t' else o
    if letters.contains 'f' then o.map Char.toUpper else o
  let order :=
    if letters.contains 'n' || letters.contains 'g' then compare (fineNumber a) (fineNumber b)
    else if letters.contains 'V' then
      let parts (o : Octets) : List (Octets × Nat) :=
        (o.splitBy fun a b => a.isDigit == b.isDigit).map fun part =>
          if part.head?.any Char.isDigit then ([], (String.ofList part).toNat?.getD 0)
          else (part, 0)
      let rec go : List (Octets × Nat) → List (Octets × Nat) → Ordering
        | [], [] => .eq
        | [], _ => .lt
        | _, [] => .gt
        | (s, m) :: rest, (t, n) :: others =>
          ((plain s t).then (compare m n)).then (go rest others)
      go (parts a) (parts b)
    else plain (bare a) (bare b)
  if letters.contains 'r' then order.swap else order

/-- `sort`. -/
def sort (call : Call) : Effect :=
  let request := call.request ['k', 't', 'o', 'S', 'T']
    [("numeric-sort", 'n'), ("reverse", 'r'), ("unique", 'u'), ("key", 'k'),
      ("field-separator", 't'), ("output", 'o'), ("ignore-case", 'f'), ("version-sort", 'V'),
      ("stable", 's'), ("check", 'c')]
  let separator := (request.value? 't').bind fun mark =>
    if mark = "\\t".toList then some '\t' else mark.head?
  let keys := ((request.values.filter (·.1 = 'k')).map (·.2)).map readSortKey
  let letters := request.letters.filter "nrfbgV".toList.contains
  let order (a b : Octets) : Ordering :=
    if keys.isEmpty then sortOrder letters a b
    else
      keys.foldl (fun found key =>
        let own := if key.letters.isEmpty then letters else key.letters
        found.then (sortOrder own (sortText separator key a) (sortText separator key b))) .eq
  let last (a b : Octets) : Ordering :=
    if request.has 's' || request.has 'u' then .eq
    else sortOrder (letters.filter (· = 'r')) a b
  let sorted (octets : Octets) : Octets :=
    let lines := (Octets.lines octets).mergeSort fun a b => ((order a b).then (last a b)).isLE
    let lines := if request.has 'u' then
        (lines.splitBy fun a b => order a b == .eq).filterMap List.head?
      else lines
    Octets.unlines lines
  let effect :=
    if request.operands.isEmpty then { call.prints (sorted call.input) with input := [] }
    else
      let contents := (Call.paths request.operands).map call.content
      match contents.mapM id with
      | .ok texts =>
        call.prints (sorted (texts.flatMap fun text => Octets.unlines (Octets.lines text)))
      | .error text => call.fails ("cannot read: " ++ text) 2
  match request.value? 'o' with
  | some path =>
    match Call.placeFor? effect.files path.toText with
    | some place =>
      { effect with output := [], files := effect.files.put place (.file effect.output.toBytes) }
    | none => effect
  | none => effect

/-- `uniq`. -/
def unique (call : Call) : Effect :=
  let request := call.request ['f', 's', 'w'] [("count", 'c'), ("repeated", 'd'), ("unique", 'u')]
  let key (line : Octets) : Octets :=
    let line := if request.has 'i' then line.map Char.toLower else line
    line.drop ((request.number? 's').getD 0)
  call.filter request.operands fun octets =>
    let groups := (Octets.lines octets).splitBy fun a b => key a == key b
    Octets.unlines (groups.filterMap fun group =>
      group.head?.bind fun line =>
        if request.has 'd' && group.length < 2 then none
        else if request.has 'u' && group.length > 1 then none
        else if request.has 'c' then
          let digits := (toString group.length).toList
          some (List.replicate (7 - digits.length) ' ' ++ digits ++ ' ' :: line)
        else some line)

/-- `seq`. -/
def sequence (call : Call) : Effect :=
  let isNumber (word : Octets) : Bool :=
    match word with
    | '-' :: c :: _ => c.isDigit || c = '.'
    | _ => true
  let options := call.arguments.takeWhile fun word => !isNumber word
  let request := Request.ofArguments ['s', 'f'] [("separator", 's')] call.arguments
  let operands := if options.isEmpty then call.arguments else request.operands
  let places (word : Octets) : Nat := ((word.dropWhile (· ≠ '.')).drop 1).length
  let decimals := (operands.map places).foldl max 0
  let number (word : Octets) : Int := fineNumber word
  let unit : Int := 1000000000
  let (first, distance, last) : Int × Int × Int := match operands with
    | [last] => (unit, unit, number last)
    | [first, last] => (number first, unit, number last)
    | first :: distance :: last :: _ => (number first, number distance, number last)
    | [] => (unit, unit, 0)
  let size : Int :=
    if distance > 0 then (last - first) / distance + 1
    else if distance < 0 then (first - last) / (-distance) + 1
    else 0
  let text (n : Int) : Octets :=
    let whole := (toString (n.natAbs / 1000000000)).toList
    let part := (toString (n.natAbs % 1000000000)).toList
    let fraction := (List.replicate (9 - part.length) '0' ++ part).take decimals
    (if n < 0 then ['-'] else []) ++ whole ++ (if decimals = 0 then [] else '.' :: fraction)
  let texts := (List.range size.toNat).map fun (i : Nat) => text (first + i * distance)
  let width := if request.has 'w' then (texts.map List.length).foldl max 0 else 0
  let texts := texts.map fun t => List.replicate (width - t.length) '0' ++ t
  let separator := (request.value? 's').getD ['\n']
  if operands.isEmpty then
    ⟨[], Octets.ofText "seq: missing operand\nTry 'seq --help' for more information.\n", 1,
      call.files, call.input⟩
  else if texts.isEmpty then call.prints []
  else call.prints (separator.intercalate texts ++ ['\n'])

/-- The characters from one to another. -/
def span (a b : Char) : Octets :=
  (List.range (b.toNat + 1 - a.toNat)).map fun i => Char.ofNat (a.toNat + i)

/-- The octets of a set of `tr`. -/
def characterSet : Nat → Octets → Octets
  | 0, _ => []
  | fuel + 1, cs =>
    match cs with
    | [] => []
    | '[' :: ':' :: rest =>
      let name := String.ofList (rest.takeWhile (· ≠ ':'))
      let found := match name with
        | "upper" => span 'A' 'Z'
        | "lower" => span 'a' 'z'
        | "digit" => span '0' '9'
        | "alpha" => span 'A' 'Z' ++ span 'a' 'z'
        | "alnum" => span '0' '9' ++ span 'A' 'Z' ++ span 'a' 'z'
        | "space" => span '\t' '\r' ++ [' ']
        | _ => []
      found ++ characterSet fuel (rest.drop (name.length + 2))
    | '\\' :: 'n' :: rest => '\n' :: characterSet fuel rest
    | '\\' :: 't' :: rest => '\t' :: characterSet fuel rest
    | '\\' :: 'r' :: rest => '\r' :: characterSet fuel rest
    | '\\' :: c :: rest => c :: characterSet fuel rest
    | a :: '-' :: b :: rest => span a b ++ characterSet fuel rest
    | c :: rest => c :: characterSet fuel rest

/-- `tr`. -/
def exchange (call : Call) : Effect :=
  let (options, operands) := call.splitOptions
  let set (i : Nat) : Octets := (operands[i]?.map fun o => characterSet (o.length + 1) o).getD []
  let isComplement := options.contains 'c' || options.contains 'C'
  let inFirst (c : Char) : Bool := (set 0).contains c != isComplement
  let squeezed (members : Char → Bool) (octets : Octets) : Octets :=
    (octets.splitBy fun a b => a == b && members a).flatMap fun group =>
      if group.head?.any members then group.take 1 else group
  let text :=
    if options.contains 'd' then call.input.filter (!inFirst ·)
    else if operands.length < 2 then call.input
    else
      call.input.map fun c =>
        if options.contains 'c' then if inFirst c then (set 1).getLast?.getD c else c
        else
          match (set 0).idxOf? c with
          | some i => ((set 1)[i]?.or (set 1).getLast?).getD c
          | none => c
  let text :=
    if options.contains 's' then
      squeezed (if operands.length < 2 then inFirst else (set 1).contains) text
    else text
  { call.prints text with input := [] }

/-- Is a column among those that `cut` keeps? -/
def keepsColumn (ranges : Octets) (column : Nat) : Bool :=
  (ranges.splitOn ',').any fun range =>
    let number (o : Octets) := (String.ofList o).toNat?
    match range.splitOn '-' with
    | [one] => number one = some column
    | [first, last] => (number first).getD 1 ≤ column && (number last).all (column ≤ ·)
    | _ => false

/-- `cut`. -/
def cut (call : Call) : Effect :=
  let request := call.request ['d', 'f', 'c', 'b']
    [("delimiter", 'd'), ("fields", 'f'), ("characters", 'c'), ("bytes", 'b'),
      ("only-delimited", 's'), ("complement", 'C'), ("output-delimiter", 'O')]
  let mark := ((request.value? 'd').bind (·.head?)).getD '\t'
  let keep {α : Type} (ranges : Octets) (items : List α) : List α :=
    (items.mapIdx fun i item => (i, item)).filterMap fun (i, item) =>
      if keepsColumn ranges (i + 1) != request.has 'C' then some item else none
  let fields := request.value? 'f'
  let characters := (request.value? 'c').or (request.value? 'b')
  if fields.isNone && characters.isNone then
    let text := "cut: you must specify a list of bytes, characters, or fields\n" ++
      "Try 'cut --help' for more information.\n"
    ⟨[], Octets.ofText text, 1, call.files, call.input⟩
  else
    call.filter request.operands fun octets =>
      Octets.unlines ((Octets.lines octets).filterMap fun line =>
        match fields, characters with
        | some ranges, _ =>
          let parts := line.splitOn mark
          if parts.length = 1 then if request.has 's' then none else some line
          else some ([mark].intercalate (keep ranges parts))
        | none, some ranges => some (keep ranges line)
        | none, none => some line)

/-- `nl`. -/
def numberLines (call : Call) : Effect :=
  let request := call.request ['b', 'w', 's', 'v', 'n'] []
  let all := request.value? 'b' = some ['a']
  let width := (request.number? 'w').getD 6
  let step (state : Nat × List Octets) (line : Octets) : Nat × List Octets :=
    let (n, shown) := state
    if line.isEmpty && !all then (n, List.replicate (width + 1) ' ' :: shown)
    else
      let digits := (toString n).toList
      (n + 1, (List.replicate (width - digits.length) ' ' ++ digits ++
        (request.value? 's').getD ['\t'] ++ line) :: shown)
  call.filter request.operands fun octets =>
    Octets.unlines ((Octets.lines octets).foldl step (1, [])).2.reverse

/-- `paste`. -/
def paste (call : Call) : Effect :=
  let request := call.request ['d'] [("serial", 's'), ("delimiters", 'd')]
  let mark := (request.value? 'd').getD ['\t']
  let mark := if mark = "\\n".toList then ['\n'] else mark.take 1
  let operands := if request.operands.isEmpty then [['-']] else request.operands
  match (Call.paths operands).mapM call.content with
  | .error text => call.fails text 1
  | .ok texts =>
    let columns := texts.map Octets.lines
    if request.has 's' then
      call.prints (Octets.unlines (columns.map fun lines => mark.intercalate lines))
    else
      let height := (columns.map List.length).foldl max 0
      call.prints (Octets.unlines ((List.range height).map fun i =>
        mark.intercalate (columns.map fun lines => lines[i]?.getD [])))

/-- `fold`. -/
def foldLines (call : Call) : Effect :=
  let request := call.request ['w'] [("width", 'w')]
  let width := max ((request.number? 'w').getD 80) 1
  let rec pieces : Nat → Octets → List Octets
    | 0, _ => []
    | fuel + 1, line =>
      if line.length ≤ width then [line] else line.take width :: pieces fuel (line.drop width)
  call.filter request.operands fun octets =>
    Octets.unlines ((Octets.lines octets).flatMap fun line => pieces (line.length + 1) line)

end Pipeline.Script.Tool
