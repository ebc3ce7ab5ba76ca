import Pipeline.Yaml.Cursor
import Pipeline.Yaml.Token

/-! Reading scalars: plain and quoted ones, whose line ends fold, and block scalars. -/

namespace Pipeline.Yaml

/-- The blanks and line ends between two pieces of a scalar. -/
structure Gap where
  /-- A line end has been met. -/
  broken : Bool
  /-- The blanks before the first line end. -/
  blanks : List Char
  /-- The first line end. -/
  first : List Char
  /-- The line ends after the first one. -/
  more : List Char

namespace Gap

/-- Nothing between two pieces. -/
def empty : Gap := ⟨false, [], [], []⟩

/-- What stands for the gap in the scalar: a single line end folds to a blank. -/
def text (gap : Gap) : List Char :=
  if gap.broken then
    if gap.first.head? = some '\n' then
      if gap.more.isEmpty then [' '] else gap.more
    else gap.first ++ gap.more
  else gap.blanks

/-- Takes blanks and line ends into a gap. A tab before the column `indent` of a new line is no
indentation. -/
def take (indent : Int) (gap : Gap) (c : Cursor) : Nat → Except SyntaxError (Gap × Cursor)
  | 0 => .ok (gap, c)
  | fuel + 1 =>
    match c.rest with
    | [] => .ok (gap, c)
    | char :: _ =>
      if isBlank char then
        if gap.broken && c.column < indent && char = '\t' then .error .tabInIndentation
        else if gap.broken then take indent gap (c.skip 1) fuel
        else take indent { gap with blanks := gap.blanks ++ [char] } (c.skip 1) fuel
      else if isBreak char then
        let (line, after) := c.takeBreak
        if gap.broken then take indent { gap with more := gap.more ++ line } after fuel
        else take indent ⟨true, [], line, gap.more⟩ after fuel
      else .ok (gap, c)

end Gap

/-- A character that has a meaning inside flow collections. -/
def isFlowIndicator (c : Char) : Bool :=
  c = ',' || c = '[' || c = ']' || c = '\x7b' || c = '\x7d'

/-- The characters of a plain scalar up to a blank, a line end or an indicator. -/
def plainPiece (flow : Bool) : List Char → Except SyntaxError (List Char)
  | [] => .ok []
  | c :: rest =>
    if isBlank c || isBreak c then .ok []
    else if flow && c = ':' && rest.head?.any (fun d => isFlowIndicator d || d = '?') then
      .error .colonInPlainText
    else if c = ':' && (rest.head?.all fun d => isBlank d || isBreak d) then .ok []
    else if flow && isFlowIndicator c then .ok []
    else
      match plainPiece flow rest with
      | .error e => .error e
      | .ok piece => .ok (c :: piece)

/-- A plain scalar from a gap on: its characters, whether a line end follows it, and the place after
it. Outside flow collections it goes on over lines that are indented by `indent` columns. -/
def plainFrom (flow : Bool) (indent : Int) (gap : Gap) (c : Cursor) :
    Nat → Except SyntaxError (List Char × Bool × Cursor)
  | 0 => .ok ([], gap.broken, c)
  | fuel + 1 =>
    if c.atAnyDocumentMark || c.sees 0 '#' then .ok ([], gap.broken, c)
    else
      match plainPiece flow c.rest with
      | .error e => .error e
      | .ok piece =>
        let after := c.skip piece.length
        let (front, gap) := if piece.isEmpty then ([], gap) else (gap.text ++ piece, .empty)
        if after.atEnd || !after.blankAt 0 then .ok (front, gap.broken, after)
        else
          match Gap.take indent gap after after.rest.length with
          | .error e => .error e
          | .ok (gap, after) =>
            if !flow && after.column < indent then .ok (front, gap.broken, after)
            else
              match plainFrom flow indent gap after fuel with
              | .error e => .error e
              | .ok (text, broken, after) => .ok (front ++ text, broken, after)

/-- A plain scalar inside a block indented by `indent`, and whether a line end follows it. -/
def plainScalar (flow : Bool) (indent : Int) (c : Cursor) :
    Except SyntaxError (List Char × Bool × Cursor) :=
  plainFrom flow (indent + 1) .empty c (c.rest.length + 1)

/-- The character that an escape of one letter stands for. -/
def simpleEscape? (c : Char) : Option Char :=
  [('0', Char.ofNat 0), ('a', Char.ofNat 7), ('b', Char.ofNat 8), ('t', '\t'), ('\t', '\t'),
    ('n', '\n'), ('v', Char.ofNat 11), ('f', Char.ofNat 12), ('r', '\r'), ('e', Char.ofNat 27),
    (' ', ' '), ('"', '"'), ('/', '/'), ('\\', '\\'), ('N', Char.ofNat 0x85),
    ('_', Char.ofNat 0xa0), ('L', Char.ofNat 0x2028), ('P', Char.ofNat 0x2029)].lookup c

/-- How many digits follow the letter of an escape by number. -/
def escapeLength? (c : Char) : Option Nat :=
  [('x', 2), ('u', 4), ('U', 8)].lookup c

/-- The number that digits write in base sixteen. -/
def hexValue? (digits : List Char) : Option Nat :=
  digits.foldlM (fun n c =>
    if c.isDigit then some (n * 16 + (c.toNat - '0'.toNat))
    else if 'a' ≤ c && c ≤ 'f' then some (n * 16 + (c.toNat - 'a'.toNat + 10))
    else if 'A' ≤ c && c ≤ 'F' then some (n * 16 + (c.toNat - 'A'.toNat + 10))
    else none) 0

/-- The character of an escape, after the backslash, and how long the escape is. -/
def readEscape (cs : List Char) : Except SyntaxError (Char × Nat) :=
  match cs with
  | [] => .error .badEscape
  | c :: rest =>
    match simpleEscape? c with
    | some char => .ok (char, 1)
    | none =>
      match escapeLength? c with
      | none => .error .badEscape
      | some length =>
        let digits := rest.take length
        match hexValue? digits with
        | none => .error .badEscape
        | some n =>
          if digits.length < length || (0xd800 ≤ n && n ≤ 0xdfff) || n > 0x10ffff then
            .error .badEscape
          else .ok (Char.ofNat n, 1 + length)

/-- A piece of a quoted scalar up to a blank, a line end or the closing quote: its characters,
whether it ends in an escaped line end, and the place after it. -/
def quotedPiece (double : Bool) (c : Cursor) : Nat → Except SyntaxError (List Char × Bool × Cursor)
  | 0 => .ok ([], false, c)
  | fuel + 1 =>
    if c.blankAt 0 then .ok ([], false, c)
    else if !double && c.sees 0 '\'' && c.sees 1 '\'' then
      match quotedPiece double (c.skip 2) fuel with
      | .error e => .error e
      | .ok (piece, rest) => .ok ('\'' :: piece, rest)
    else if c.sees 0 (if double then '"' else '\'') then .ok ([], false, c)
    else if double && c.sees 0 '\\' && (c.peek 1).any isBreak then
      .ok ([], true, (c.skip 1).skipBreak)
    else if double && c.sees 0 '\\' then
      match readEscape (c.rest.drop 1) with
      | .error e => .error e
      | .ok (char, length) =>
        match quotedPiece double (c.skip (1 + length)) fuel with
        | .error e => .error e
        | .ok (piece, rest) => .ok (char :: piece, rest)
    else
      match c.rest with
      | [] => .ok ([], false, c)
      | char :: _ =>
        match quotedPiece double (c.skip 1) fuel with
        | .error e => .error e
        | .ok (piece, rest) => .ok (char :: piece, rest)

/-- A quoted scalar after its opening quote, and the place after the closing one. -/
def quotedFrom (double : Bool) (c : Cursor) : Nat → Except SyntaxError (List Char × Cursor)
  | 0 => .error .endInQuotes
  | fuel + 1 =>
    if c.atAnyDocumentMark then .error .documentMarkInQuotes
    else if c.atEnd then .error .endInQuotes
    else
      match quotedPiece double c (c.rest.length + 1) with
      | .error e => .error e
      | .ok (piece, escaped, after) =>
        if after.sees 0 (if double then '"' else '\'') then .ok (piece, after.skip 1)
        else
          match Gap.take 0 { Gap.empty with broken := escaped } after after.rest.length with
          | .error e => .error e
          | .ok (gap, after) =>
            match quotedFrom double after fuel with
            | .error e => .error e
            | .ok (text, after) => .ok (piece ++ gap.text ++ text, after)

/-- A quoted scalar whose opening quote is here. -/
def quotedScalar (double : Bool) (c : Cursor) : Except SyntaxError (List Char × Cursor) :=
  quotedFrom double (c.skip 1) (c.rest.length + 1)

/-- What becomes of the line ends after a block scalar. -/
inductive Chomping where
  | strip
  | clip
  | keep
  deriving Repr, DecidableEq

/-- The mark of a treatment of the last line ends. -/
def chompingOf? : Option Char → Option Chomping
  | some '+' => some .keep
  | some '-' => some .strip
  | _ => none

/-- The header of a block scalar after its indicator: what becomes of the last line ends, the
indentation if it is given, and the place after the header. -/
def blockHeader (c : Cursor) : Except SyntaxError (Chomping × Option Nat × Cursor) :=
  let digitAt (c : Cursor) : Except SyntaxError (Option Nat) :=
    match c.peek 0 with
    | some d =>
      if d = '0' then .error .badBlockHeader
      else if d.isDigit then .ok (some (d.toNat - '0'.toNat))
      else .ok none
    | none => .ok none
  match chompingOf? (c.peek 0) with
  | some chomping =>
    match digitAt (c.skip 1) with
    | .error e => .error e
    | .ok (some n) => .ok (chomping, some n, c.skip 2)
    | .ok none => .ok (chomping, none, c.skip 1)
  | none =>
    match digitAt c with
    | .error e => .error e
    | .ok none => .ok (.clip, none, c)
    | .ok (some n) =>
      match chompingOf? (c.peek 1) with
      | some chomping => .ok (chomping, some n, c.skip 2)
      | none => .ok (.clip, some n, c.skip 1)

/-- The indentation and the empty lines before a line of a block scalar: the greatest column met,
the line ends, and the place after them. An indentation of zero is not known yet. -/
def blockBreaks (indent greatest : Nat) (c : Cursor) :
    Nat → Except SyntaxError (Nat × List Char × Cursor)
  | 0 => .ok (greatest, [], c)
  | fuel + 1 =>
    let blanks := (c.rest.takeWhile (· = ' ')).length
    let c := c.skip (if indent = 0 then blanks else min blanks (indent - c.column))
    let greatest := max greatest c.column
    if (indent = 0 || c.column < indent) && c.sees 0 '\t' then .error .tabInIndentation
    else if (c.peek 0).any isBreak then
      let (line, after) := c.takeBreak
      match blockBreaks indent greatest after fuel with
      | .error e => .error e
      | .ok (greatest, lines, after) => .ok (greatest, line ++ lines, after)
    else .ok (greatest, [], c)

/-- What comes before a line of a block scalar: the line end of the line before, the empty lines
after it, and whether the line before started with a blank. -/
structure LineGap where
  ending : List Char
  empties : List Char
  afterBlank : Bool

/-- The text between two lines. In a folded scalar a single line end between lines that do not start
with a blank is a blank. -/
def LineGap.text (folded : Bool) (gap : LineGap) (beforeBlank : Bool) : List Char :=
  if folded && gap.ending.head? = some '\n' && !gap.afterBlank && !beforeBlank then
    (if gap.empties.isEmpty then [' '] else []) ++ gap.empties
  else gap.ending ++ gap.empties

/-- The lines of a block scalar whose indentation is known: the text, the line end of the last line,
the empty lines after it, and the place after them. -/
def blockLines (folded : Bool) (indent : Nat) (gap : LineGap) (c : Cursor) :
    Nat → Except SyntaxError (List Char × LineGap × Cursor)
  | 0 => .ok ([], gap, c)
  | fuel + 1 =>
    if c.column != indent || c.atEnd then .ok ([], gap, c)
    else
      let beforeBlank := (c.peek 0).any isBlank
      let (line, after) := c.span fun char => !isBreak char
      let (ending, after) := after.takeBreak
      match blockBreaks indent 0 after (after.rest.length + 1) with
      | .error e => .error e
      | .ok (_, empties, after) =>
        match blockLines folded indent ⟨ending, empties, beforeBlank⟩ after fuel with
        | .error e => .error e
        | .ok (text, last, after) => .ok (gap.text folded beforeBlank ++ line ++ text, last, after)

/-- A block scalar whose indicator is here, inside a block indented by `parent`. -/
def blockScalar (folded : Bool) (parent : Int) (c : Cursor) :
    Except SyntaxError (List Char × Cursor) :=
  match blockHeader (c.skip 1) with
  | .error e => .error e
  | .ok (chomping, given, c) =>
    let c := (c.skipWhile isBlank).skipComment
    if !c.atLineEnd then .error .badBlockHeader
    else
      let c := c.skipBreak
      let fuel := c.rest.length + 1
      let known : Nat := match given with
        | some n => (max parent 0 + n).toNat
        | none => 0
      match blockBreaks known 0 c fuel with
      | .error e => .error e
      | .ok (greatest, empties, c) =>
        let indent := if known = 0 then max greatest (max (parent + 1) 1).toNat else known
        match blockLines folded indent ⟨[], empties, false⟩ c fuel with
        | .error e => .error e
        | .ok (text, last, c) =>
          let tail := match chomping with
            | .strip => []
            | .clip => last.ending
            | .keep => last.ending ++ last.empties
          .ok (text ++ tail, c)

end Pipeline.Yaml
