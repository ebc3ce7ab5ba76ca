/-! A place in the text of a document, and the characters that structure a document. -/

namespace Pipeline.Yaml

/-- A character that may occur in a document: control characters other than tab and line ends may
not. -/
def isAllowed (c : Char) : Bool :=
  let n := c.toNat
  n == 9 || n == 10 || n == 13 || (0x20 ≤ n && n ≤ 0x7e) || n == 0x85 ||
    (0xa0 ≤ n && n ≤ 0xfffd) || 0x10000 ≤ n

/-- A blank or a tab. -/
def isBlank (c : Char) : Bool := c = ' ' || c = '\t'

/-- A character that ends a line. -/
def isBreak (c : Char) : Bool :=
  c = '\n' || c = '\r' || c.toNat == 0x85 || c.toNat == 0x2028 || c.toNat == 0x2029

/-- A letter, a digit, an underscore or a hyphen, as in names of anchors. -/
def isNameChar (c : Char) : Bool :=
  c.isAlphanum || c = '_' || c = '-'

/-- A place in a text. The column counts characters from the start of the line. -/
structure Cursor where
  rest : List Char
  index : Nat
  line : Nat
  column : Nat

namespace Cursor

/-- The start of a text. -/
def start (text : List Char) : Cursor := ⟨text, 0, 0, 0⟩

/-- The character `n` places ahead. -/
def peek (c : Cursor) (n : Nat) : Option Char := c.rest[n]?

/-- Is the character `n` places ahead this one? -/
def sees (c : Cursor) (n : Nat) (char : Char) : Bool := c.peek n == some char

/-- Is the place `n` characters ahead a blank, a line end or the end of the text? -/
def blankAt (c : Cursor) (n : Nat) : Bool :=
  match c.peek n with
  | none => true
  | some char => isBlank char || isBreak char

/-- Past `n` characters of the line. -/
def skip (c : Cursor) (n : Nat) : Cursor :=
  ⟨c.rest.drop n, c.index + n, c.line, c.column + n⟩

/-- The characters of the line from here on that satisfy `p`, and the place after them. -/
def span (c : Cursor) (p : Char → Bool) : List Char × Cursor :=
  let taken := c.rest.takeWhile p
  (taken, c.skip taken.length)

/-- Past the characters of the line that satisfy `p`. -/
def skipWhile (c : Cursor) (p : Char → Bool) : Cursor := (c.span p).2

/-- The line end here as it counts in a text, and the place after it. -/
def takeBreak (c : Cursor) : List Char × Cursor :=
  match c.rest with
  | '\r' :: '\n' :: rest => (['\n'], ⟨rest, c.index + 2, c.line + 1, 0⟩)
  | char :: rest =>
    if isBreak char then
      let kept := if char.toNat == 0x2028 || char.toNat == 0x2029 then char else '\n'
      ([kept], ⟨rest, c.index + 1, c.line + 1, 0⟩)
    else ([], c)
  | [] => ([], c)

/-- Past the line end here, if there is one. -/
def skipBreak (c : Cursor) : Cursor := c.takeBreak.2

/-- Past a byte-order mark at the start of a line. It counts as a column. -/
def skipByteOrderMark (c : Cursor) : Cursor :=
  if c.column == 0 && c.sees 0 '\ufeff' then c.skip 1 else c

/-- Past a comment that starts here. -/
def skipComment (c : Cursor) : Cursor :=
  if c.sees 0 '#' then c.skipWhile fun char => !isBreak char else c

/-- Three equal characters at the start of a line that stand alone. -/
def atDocumentMark (c : Cursor) (char : Char) : Bool :=
  c.column == 0 && c.sees 0 char && c.sees 1 char && c.sees 2 char && c.blankAt 3

/-- A mark that starts or ends a document. -/
def atAnyDocumentMark (c : Cursor) : Bool :=
  c.atDocumentMark '-' || c.atDocumentMark '.'

/-- The end of the text. -/
def atEnd (c : Cursor) : Bool := c.rest.isEmpty

/-- A line end or the end of the text. -/
def atLineEnd (c : Cursor) : Bool :=
  match c.rest with
  | [] => true
  | char :: _ => isBreak char

end Cursor

end Pipeline.Yaml
