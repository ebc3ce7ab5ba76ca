import Pipeline.Double
import Pipeline.Script.Octets
import Pipeline.Shell

/-! What `echo` and `printf` write. -/

namespace Pipeline.Script.Format

/-- The value of the octal digits at the front, at most `count`, and what follows them. -/
def splitOctal : Nat → Nat → Octets → Nat × Octets
  | 0, n, cs => (n, cs)
  | count + 1, n, c :: rest =>
    if '0' ≤ c && c ≤ '7' then splitOctal count (n * 8 + (c.toNat - '0'.toNat)) rest
    else (n, c :: rest)
  | _ + 1, n, [] => (n, [])

/-- The plain escapes. -/
def plainEscapes : List (Char × Char) :=
  [('a', '\x07'), ('b', '\x08'), ('f', '\x0c'), ('n', '\n'), ('r', '\r'), ('t', '\t'),
    ('v', '\x0b'),
    ('\\', '\\')]

/-- The octets of a text with escapes, and whether an escape ends all output. A zero may or has to
stand before octal digits. -/
def unescape (zeroNeeded : Bool) : Nat → Octets → Octets × Bool
  | 0, _ => ([], false)
  | _ + 1, [] => ([], false)
  | fuel + 1, '\\' :: e :: rest =>
    let write (front : Octets) (rest : Octets) : Octets × Bool :=
      let (text, ended) := unescape zeroNeeded fuel rest
      (front ++ text, ended)
    if e = 'c' then ([], true)
    else
      match plainEscapes.lookup e with
      | some c => write [c] rest
      | none =>
        if '0' ≤ e && e ≤ '7' && (!zeroNeeded || e = '0') then
          let (n, rest) := if zeroNeeded then splitOctal 3 0 rest else splitOctal 3 0 (e :: rest)
          write [Char.ofNat (n % 256)] rest
        else write ['\\', e] rest
  | fuel + 1, c :: rest =>
    let (text, ended) := unescape zeroNeeded fuel rest
    (c :: text, ended)

/-- Words with one blank between them. -/
def joinWords (words : List Octets) : Octets := [' '].intercalate words

/-- What `echo` writes. The plain shell follows escapes and knows only one option. -/
def echo (shell : Shell) (arguments : List Octets) : Octets :=
  let isOption (word : Octets) : Bool :=
    match word with
    | '-' :: c :: rest => (c :: rest).all fun c => c = 'n' || c = 'e' || c = 'E'
    | _ => false
  let options := match shell with
    | .bash => arguments.takeWhile isOption
    | _ => (arguments.take 1).filter (· = ['-', 'n'])
  let words := arguments.drop options.length
  let letters := options.flatMap (·.drop 1)
  let escapes : Bool := match shell with
    | .bash => (letters.filter (· ≠ 'n')).getLast? == some 'e'
    | _ => true
  let text := joinWords words
  let (text, ended) := if escapes then unescape true (text.length + 1) text else (text, false)
  if ended || letters.contains 'n' then text else text ++ ['\n']

/-- A directive of a format. -/
structure Directive where
  left : Bool
  zero : Bool
  sign : Option Char
  alternate : Bool
  width : Nat
  precision : Option Nat
  kind : Char

/-- The directive after a percent sign, and what follows it. -/
def readDirective (cs : Octets) : Option (Directive × Octets) :=
  let flags := cs.takeWhile "-0+ #".toList.contains
  let rest := cs.drop flags.length
  let width := rest.takeWhile Char.isDigit
  let rest := rest.drop width.length
  let number (digits : Octets) := (String.ofList digits).toNat?.getD 0
  let (precision, rest) := match rest with
    | '.' :: rest =>
      let digits := rest.takeWhile Char.isDigit
      (some (number digits), rest.drop digits.length)
    | rest => (none, rest)
  match rest with
  | [] => none
  | kind :: rest =>
    let sign := ['+', ' '].find? flags.contains
    let isSet (c : Char) : Bool := flags.contains c
    some (⟨isSet '-', isSet '0', sign, isSet '#', number width, precision, kind⟩, rest)

/-- A text filled up to the width of its directive. -/
def pad (d : Directive) (text : Octets) : Octets :=
  let fill := List.replicate (d.width - text.length) ' '
  if d.left then text ++ fill else fill ++ text

/-- The digits of a number in a base. -/
def digits (base n : Nat) : Octets := Nat.toDigits base n

/-- A number as its directive asks. -/
def formatNumber (d : Directive) (n : Int) : Octets :=
  let magnitude := match d.kind with
    | 'x' => digits 16 (n % twoTo 64).toNat
    | 'X' => (digits 16 (n % twoTo 64).toNat).map Char.toUpper
    | 'o' => digits 8 (n % twoTo 64).toNat
    | 'u' => digits 10 (n % twoTo 64).toNat
    | _ => digits 10 n.natAbs
  let signed := d.kind = 'd' || d.kind = 'i'
  let front : Octets :=
    if signed && n < 0 then ['-']
    else if signed then d.sign.toList
    else if d.alternate && n ≠ 0 then
      (match d.kind with
      | 'x' => ['0', 'x']
      | 'X' => ['0', 'X']
      | 'o' => ['0']
      | _ => [])
    else []
  let least := d.precision.getD
    (if d.zero && !d.left then d.width - front.length else 0)
  pad d (front ++ List.replicate (least - magnitude.length) '0' ++ magnitude)

/-- The number that an argument writes; the octet after a quotation mark stands for its number. -/
def argumentNumber? (argument : Octets) : Option Int :=
  let magnitude (word : Octets) : Option Int :=
    let value (base : Nat) (ds : Octets) : Option Int :=
      ds.foldlM (fun (n : Int) c =>
        let digit :=
          if c.isDigit then c.toNat - '0'.toNat
          else if c.isAlpha then c.toLower.toNat - 'a'.toNat + 10
          else base
        if digit < base then some (n * base + digit) else none) 0
    match word with
    | [] => none
    | '0' :: 'x' :: ds | '0' :: 'X' :: ds => value 16 ds
    | '0' :: ds => value 8 ds
    | ds => value 10 ds
  match argument with
  | [] => some 0
  | '\'' :: c :: _ | '"' :: c :: _ => some c.toNat
  | '-' :: rest => (magnitude rest).map (- ·)
  | '+' :: rest => magnitude rest
  | rest => magnitude rest

/-- A number with a point as its directive asks, rounded to the places that it shows. -/
def formatDecimal? (d : Directive) (argument : Octets) : Option Octets := do
  let (negative, magnitude) := match argument with
    | '-' :: rest => (true, rest)
    | '+' :: rest => (false, rest)
    | rest => (false, rest)
  let whole := magnitude.takeWhile Char.isDigit
  let fraction := (magnitude.drop whole.length).drop 1
  guard ((whole ++ fraction).all Char.isDigit)
  let places := d.precision.getD 6
  let value := (String.ofList (whole ++ fraction)).toNat?.getD 0
  let scaled := (value * tenTo places * 2 + tenTo fraction.length) / (2 * tenTo fraction.length)
  let shown := digits 10 scaled
  let shown := List.replicate (places + 1 - shown.length) '0' ++ shown
  let (front, back) := (shown.take (shown.length - places), shown.drop (shown.length - places))
  let text := if places = 0 then front else front ++ '.' :: back
  let sign : Octets := if negative then ['-'] else d.sign.toList
  let least := if d.zero && !d.left then d.width - sign.length else 0
  pure (pad d (sign ++ List.replicate (least - text.length) '0' ++ text))

/-- A text with backslashes, so that a script can hold it as one word. -/
def quote (text : Octets) : Octets :=
  let octal (n : Nat) : Octets := '\\' :: List.replicate (3 - (digits 8 n).length) '0' ++ digits 8 n
  let isPlain (c : Char) : Bool := Octets.isNameChar c || "%+-./:=@".toList.contains c
  if text.isEmpty then ['\'', '\'']
  else if text.any fun c => c.toNat < 32 || c.toNat > 126 then
    "$'".toList ++ text.flatMap (fun c =>
      match plainEscapes.find? (·.2 = c) with
      | some (letter, _) => ['\\', letter]
      | none =>
        if c = '\'' then ['\\', c]
        else if c.toNat < 32 || c.toNat > 126 then octal c.toNat
        else [c]) ++ ['\'']
  else
    (text.mapIdx fun i c => (i, c)).flatMap fun (i, c) =>
      if isPlain c || (i > 0 && (c = '~' || c = '#')) then [c] else ['\\', c]

/-- A text in single quotation marks. -/
def quoteWhole (text : Octets) : Octets :=
  '\'' :: text.flatMap (fun c => if c = '\'' then "'\\''".toList else [c]) ++ ['\'']

/-- What `printf` has written so far. -/
structure Printed where
  text : Octets
  /-- The arguments that are no numbers. -/
  bad : List Octets
  /-- The arguments that are left. -/
  left : List Octets
  /-- An escape has ended all output. -/
  ended : Bool
  /-- The directive that makes no sense and ends all output. -/
  fault : Option String

/-- One pass over a format. -/
def pass (shell : Shell) : Nat → Octets → List Octets → Printed
  | 0, _, arguments => ⟨[], [], arguments, false, none⟩
  | fuel + 1, cs, arguments =>
    let write (text : Octets) (bad : List Octets) (rest : Octets) (arguments : List Octets) :=
      let after := pass shell fuel rest arguments
      { after with text := text ++ after.text, bad := bad ++ after.bad }
    match cs with
    | [] => ⟨[], [], arguments, false, none⟩
    | '%' :: '%' :: rest => write ['%'] [] rest arguments
    | '%' :: rest =>
      match readDirective rest with
      | none => write ['%'] [] rest arguments
      | some (d, rest) =>
        let argument := arguments.head?.getD []
        let others := arguments.drop 1
        let cutTo (text : Octets) := d.precision.elim text text.take
        match d.kind with
        | 's' => write (pad d (cutTo argument)) [] rest others
        | 'c' => write (pad d (argument.take 1)) [] rest others
        | 'b' =>
          let (text, ended) := unescape (shell != .bash) (argument.length + 1) argument
          if ended then ⟨pad d text, [], [], true, none⟩
          else write (pad d (cutTo text)) [] rest others
        | 'd' | 'i' | 'u' | 'x' | 'X' | 'o' =>
          match argumentNumber? argument with
          | some n => write (formatNumber d n) [] rest others
          | none => write (formatNumber d 0) [argument] rest others
        | 'f' =>
          match formatDecimal? d argument with
          | some text => write text [] rest others
          | none => write ((formatDecimal? d []).getD []) [argument] rest others
        | 'q' =>
          if shell == .bash then write (pad d (quote argument)) [] rest others
          else ⟨[], [], arguments, true, some "%q"⟩
        | kind => ⟨[], [], arguments, true, some ("%" ++ kind.toString)⟩
    | '\\' :: e :: rest =>
      if e = '"' || e = '\'' then write [e] [] rest arguments
      else if e = 'e' && shell == .bash then write ['\x1b'] [] rest arguments
      else if e = 'x' && shell == .bash then
        let digits := (rest.take 2).takeWhile fun c =>
          c.isDigit || ('a' ≤ c.toLower && c.toLower ≤ 'f')
        let n := digits.foldl (fun n c => n * 16 +
          (if c.isDigit then c.toNat - '0'.toNat else c.toLower.toNat - 'a'.toNat + 10)) 0
        write [Char.ofNat n] [] (rest.drop digits.length) arguments
      else
        match plainEscapes.lookup e with
        | some c => write [c] [] rest arguments
        | none =>
          if '0' ≤ e && e ≤ '7' then
            let (n, rest) := splitOctal 3 0 (e :: rest)
            write [Char.ofNat (n % 256)] [] rest arguments
          else write ['\\', e] [] rest arguments
    | c :: rest => write [c] [] rest arguments

/-- What `printf` writes: the format again and again until no argument is left. -/
def printf (shell : Shell) (format : Octets) : Nat → List Octets → Printed
  | 0, arguments => ⟨[], [], arguments, false, none⟩
  | fuel + 1, arguments =>
    let once := pass shell (format.length + 1) format arguments
    if once.ended || once.left.isEmpty || once.left.length = arguments.length then once
    else
      let after := printf shell format fuel once.left
      { after with text := once.text ++ after.text, bad := once.bad ++ after.bad }

end Pipeline.Script.Format
