import Pipeline.Script.Machine
import Pipeline.Script.Pattern

/-! From the pieces of an expanded word to its fields, and from those to names of files. -/

namespace Pipeline.Script

/-- A piece of an expanded word. -/
inductive Piece where
  /-- Quoted text. -/
  | kept (octets : Octets)
  /-- Text of the script itself, which may be a pattern. -/
  | bare (octets : Octets)
  /-- The text of an expansion, which is also split. -/
  | loose (octets : Octets)
  /-- The border between two arguments. -/
  | border
  /-- No argument at all. -/
  | absent
  deriving Repr, DecidableEq

namespace Piece

/-- The octets of pieces that are not split. -/
def join (pieces : List Piece) : Marked :=
  pieces.flatMap fun
    | kept octets => Marked.of true octets
    | bare octets | loose octets => Marked.of false octets
    | border => [(' ', true)]
    | absent => []

/-- The octets of pieces that are not split, without their marks. -/
def text (pieces : List Piece) : Octets := (join pieces).octets

/-- The same pieces as part of an expansion. -/
def loosen : Piece → Piece
  | bare octets => loose octets
  | piece => piece

/-- A value inside or outside of quotation marks. -/
def ofValue (quoted : Bool) (octets : Octets) : Piece :=
  if quoted then kept octets else loose octets

/-- The fields that are complete, the last one first, and the one that is being filled. -/
abbrev Fields := List Marked × Option Marked

/-- The fields after more text. -/
def addText (fields : Fields) (text : Marked) : Fields :=
  (fields.1, some (fields.2.getD [] ++ text))

/-- The fields after an octet that may separate them: a blank ends the field that is being filled,
any other separator ends one in any case. -/
def addLoose (separators : Octets) (fields : Fields) (c : Char) : Fields :=
  if separators.contains c then
    if c = ' ' || c = '\t' || c = '\n' then (fields.2.toList ++ fields.1, none)
    else (fields.2.getD [] :: fields.1, none)
  else addText fields [(c, false)]

/-- The fields after a piece. -/
def add (separators : Octets) (fields : Fields) : Piece → Fields
  | kept octets => addText fields (Marked.of true octets)
  | bare octets => if octets.isEmpty then fields else addText fields (Marked.of false octets)
  | loose octets => octets.foldl (addLoose separators) fields
  | border => (fields.2.getD [] :: fields.1, none)
  | absent => fields

/-- The fields of pieces. A pair of quotation marks with no argument between them makes no field. -/
def split (separators : Octets) (pieces : List Piece) : List Marked :=
  if pieces.contains absent && pieces.all fun p => p == absent || p == kept [] then []
  else
    let (done, current) := pieces.foldl (add separators) ([], none)
    (current.toList ++ done).reverse

end Piece

/-! Choices in braces -/

/-- A sign of a word: a bare character, or a part that has none. -/
abbrev Sign := Char ⊕ Part

/-- The signs of a word. -/
def signsOf (word : Word) : List Sign :=
  word.flatMap fun
    | .text false octets => octets.map .inl
    | part => [.inr part]

/-- The word of signs. -/
def wordOf : List Sign → Word
  | [] => []
  | .inr part :: rest => part :: wordOf rest
  | .inl c :: rest =>
    match wordOf rest with
    | .text false octets :: parts => .text false (c :: octets) :: parts
    | parts => .text false [c] :: parts

/-- Is the sign this character? -/
def isSign (c : Char) : Sign → Bool
  | .inl d => c = d
  | .inr _ => false

/-- The parts between the commas outside of inner braces, up to the brace that closes them, and what
follows that. -/
def splitChoices :
    Nat → List Sign → List (List Sign) → List Sign → Option (List (List Sign) × List Sign)
  | _, _, _, [] => none
  | depth, current, done, c :: rest =>
    if isSign '\x7d' c then
      match depth with
      | 0 => some ((current.reverse :: done).reverse, rest)
      | depth + 1 => splitChoices depth (c :: current) done rest
    else if isSign ',' c && depth = 0 then splitChoices 0 [] (current.reverse :: done) rest
    else splitChoices (if isSign '\x7b' c then depth + 1 else depth) (c :: current) done rest

/-- The numbers from one to another, at some distance. -/
def rangeOf (first last : Int) (step : Nat) : List Int :=
  let step := max step 1
  (List.range ((last - first).natAbs / step + 1)).map fun (i : Nat) =>
    if first ≤ last then first + i * step else first - i * step

/-- A number with zeros in front up to a width. -/
def padded (width : Nat) (n : Int) : Octets :=
  let digits := Octets.ofInt n.natAbs
  let sign := if n < 0 then ['-'] else []
  sign ++ List.replicate (width - digits.length - sign.length) '0' ++ digits

/-- The numbers or letters of a range. -/
def rangeChoices? (text : Octets) : Option (List Octets) :=
  let number (digits : Octets) : Option Int := (String.ofList digits).toInt?
  let isPadded (digits : Octets) : Bool :=
    match digits with
    | '0' :: _ :: _ | '-' :: '0' :: _ => true
    | _ => false
  let range (first last : Octets) (step : Nat) : Option (List Octets) :=
    match number first, number last with
    | some a, some b =>
      let width := if isPadded first || isPadded last then max first.length last.length else 0
      some ((rangeOf a b step).map (padded width))
    | _, _ =>
      match first, last with
      | [a], [b] =>
        if a.isAlpha && b.isAlpha then
          some ((rangeOf a.toNat b.toNat step).map fun n => [Char.ofNat n.toNat])
        else none
      | _, _ => none
  match text.splitOn '.' with
  | [first, [], last] => range first last 1
  | [first, [], last, [], step] => (number step).bind fun n => range first last n.natAbs
  | _ => none

/-- The texts that signs with choices in braces stand for. -/
def braceChoices : Nat → List Sign → List (List Sign)
  | 0, signs => [signs]
  | fuel + 1, signs =>
    let front := signs.takeWhile (!isSign '\x7b' ·)
    match signs.drop front.length with
    | [] => [signs]
    | brace :: rest =>
      let choices := (splitChoices 0 [] [] rest).bind fun (parts, after) =>
        match parts with
        | [part] => do
          let text ← part.mapM fun
            | .inl c => some c
            | .inr _ => none
          (rangeChoices? text).map fun texts => (texts.map (·.map Sum.inl), after)
        | parts => some (parts, after)
      match choices with
      | some (parts, after) =>
        parts.flatMap fun part =>
          (braceChoices fuel part).flatMap fun part =>
            (braceChoices fuel after).map fun back => front ++ part ++ back
      | none => (braceChoices fuel rest).map fun back => front ++ brace :: back

/-- The words that a word with choices in braces stands for. -/
def braceWords (word : Word) : List Word :=
  let signs := signsOf word
  if signs.any (isSign '\x7b') then (braceChoices (signs.length + 1) signs).map wordOf else [word]

/-- The octets that separate fields, unless a script says otherwise. -/
def blankSeparators : Octets := [' ', '\t', '\n']

/-- The parts of a path pattern between slashes. -/
def pathParts (pattern : Marked) : List Marked :=
  pattern.splitOnP fun (c, _) => c = '/'

/-- The paths below a prefix that fit the parts of a pattern. -/
def pathsBelow (files : FileTree) (hidden : Bool) : Octets → List Marked → List Octets
  | _, [] => []
  | front, part :: rest =>
    let pattern := Pattern.of part
    let names : List Octets :=
      if pattern.isMagic then
        let place := files.locate? (if front.isEmpty then "." else front.toText)
        let names := (place.elim [] files.namesAt).map Octets.ofText
        names.filter fun name =>
          Pattern.matchesAll pattern name &&
            (hidden || name.head? ≠ some '.' || pattern.head? = some (.char '.'))
      else [part.octets]
    names.flatMap fun name =>
      let path := front ++ name
      if rest.isEmpty then if files.holds path.toText then [path] else []
      else pathsBelow files hidden (path ++ ['/']) rest

/-- The words that a field stands for: the files that it fits as a pattern, or itself. -/
def wordsOf (files : FileTree) (options : Options) (field : Marked) : List Octets :=
  if options.noglob || !(Pattern.of field).isMagic then [field.octets]
  else
    match pathsBelow files options.dotglob [] (pathParts field) with
    | [] => if options.nullglob then [] else [field.octets]
    | paths => paths

end Pipeline.Script
