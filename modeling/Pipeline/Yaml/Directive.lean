import Pipeline.Yaml.Scalar

/-! Reading directives, tags and the names of anchors. -/

namespace Pipeline.Yaml

/-- A character that may stand in a tag. -/
def isTagChar (verbatim : Bool) (c : Char) : Bool :=
  isNameChar c || [';', '/', '?', ':', '@', '&', '=', '+', '$', '.', '!', '~', '*', '\'', '(', ')',
    '%'].contains c || (verbatim && [',', '[', ']'].contains c)

/-- Bytes decoded as UTF-8, where they are the encoding of a text. -/
def decodeBytes? (bytes : List Nat) : Option (List Char) :=
  (String.fromUTF8? (ByteArray.mk (bytes.map UInt8.ofNat).toArray)).map String.toList

/-- The characters of a tag with its escapes decoded. An escape is a percent sign and two digits in
base sixteen for a byte; the bytes of a row of escapes make up its characters. -/
def decodeTag (pending : List Nat) : List Char → Option (List Char)
  | [] => decodeBytes? pending.reverse
  | '%' :: a :: b :: rest =>
    match hexValue? [a, b] with
    | some byte => decodeTag (byte :: pending) rest
    | none => none
  | '%' :: _ => none
  | c :: rest => do
    let front ← decodeBytes? pending.reverse
    let tail ← decodeTag [] rest
    pure (front ++ c :: tail)

/-- The part of a tag that is read as an address, after characters that belong to it already. -/
def tagAddress (verbatim : Bool) (front : List Char) (c : Cursor) :
    Except SyntaxError (List Char × Cursor) :=
  let (text, after) := c.span (isTagChar verbatim)
  match decodeTag [] text with
  | none => .error .badTag
  | some decoded =>
    if front.isEmpty && decoded.isEmpty then .error .badTag else .ok (front ++ decoded, after)

/-- The handle of a tag, from its exclamation mark on. -/
def tagHandle (directive : Bool) (c : Cursor) : Except SyntaxError (List Char × Cursor) :=
  if !c.sees 0 '!' then .error .badTag
  else
    let (name, after) := (c.skip 1).span isNameChar
    if after.sees 0 '!' then .ok ('!' :: name ++ ['!'], after.skip 1)
    else if directive && !name.isEmpty then .error .badTag
    else .ok ('!' :: name, after)

/-- A tag whose exclamation mark is here: its handle and the rest of it. -/
def readTag (flow : Bool) (c : Cursor) : Except SyntaxError (Token × Cursor) :=
  let finish (handle suffix : List Char) (after : Cursor) : Except SyntaxError (Token × Cursor) :=
    if after.blankAt 0 || (flow && after.sees 0 ',') then
      .ok (.tag (String.ofList handle) (String.ofList suffix), after)
    else .error .badTag
  if c.sees 1 '<' then
    match tagAddress true [] (c.skip 2) with
    | .error e => .error e
    | .ok (suffix, after) =>
      if after.sees 0 '>' then finish [] suffix (after.skip 1) else .error .badTag
  else
    match tagHandle false c with
    | .error e => .error e
    | .ok (handle, after) =>
      if handle.length > 1 && handle.getLast? = some '!' then
        match tagAddress false [] after with
        | .error e => .error e
        | .ok (suffix, after) => finish handle suffix after
      else
        let (text, after) := after.span (isTagChar false)
        match decodeTag [] text with
        | none => .error .badTag
        | some decoded =>
          let suffix := handle.drop 1 ++ decoded
          if suffix.isEmpty then finish [] ['!'] after else finish ['!'] suffix after

/-- The name of an anchor or alias after its sign. -/
def readName (c : Cursor) : Except SyntaxError (String × Cursor) :=
  let (name, after) := c.span isNameChar
  let ended := after.blankAt 0 ||
    (after.peek 0).any fun d => ['?', ':', ',', ']', '\x7d', '%', '@', '\x60'].contains d
  if name.isEmpty || !ended then .error .badAnchor else .ok (String.ofList name, after)

/-- A version number of at most nine digits. -/
def readVersionNumber (c : Cursor) : Except SyntaxError (Nat × Cursor) :=
  let (digits, after) := c.span Char.isDigit
  if digits.isEmpty || digits.length > 9 then .error .badDirective
  else .ok (digits.foldl (fun n d => n * 10 + (d.toNat - '0'.toNat)) 0, after)

/-- The end of the line after a directive. -/
def endDirective (token : Token) (c : Cursor) : Except SyntaxError (Token × Cursor) :=
  let c := (c.skipWhile isBlank).skipComment
  if c.atLineEnd then .ok (token, c.skipBreak) else .error .badDirective

/-- A directive whose percent sign is here. -/
def readDirective (c : Cursor) : Except SyntaxError (Token × Cursor) :=
  let (name, c) := (c.skip 1).span isNameChar
  if name.isEmpty || !c.blankAt 0 then .error .badDirective
  else if name = ['Y', 'A', 'M', 'L'] then
    match readVersionNumber (c.skipWhile isBlank) with
    | .error e => .error e
    | .ok (major, c) =>
      if !c.sees 0 '.' then .error .badDirective
      else
        match readVersionNumber (c.skip 1) with
        | .error e => .error e
        | .ok (minor, c) => endDirective (.versionDirective major minor) c
  else if name = ['T', 'A', 'G'] then
    match tagHandle true (c.skipWhile isBlank) with
    | .error e => .error e
    | .ok (handle, c) =>
      if !(c.peek 0).any isBlank then .error .badDirective
      else
        match tagAddress true [] (c.skipWhile isBlank) with
        | .error e => .error e
        | .ok (stem, c) =>
          if !c.blankAt 0 then .error .badDirective
          else endDirective (.tagDirective (String.ofList handle) (String.ofList stem)) c
  else .error .badDirective

end Pipeline.Yaml
