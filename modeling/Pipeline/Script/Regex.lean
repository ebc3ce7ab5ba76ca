import Pipeline.Script.Pattern

/-! Regular expressions of the line tools. Of the places where an expression fits, the first one
counts, and there the longest text. -/

namespace Pipeline.Script

/-- What one octet is compared with. -/
inductive RegexAtom where
  | char (c : Char)
  | any
  | range (negated : Bool) (ranges : List (Char × Char))
  deriving Repr, DecidableEq

/-- What has to stand at a place of a line, without taking up any text. -/
inductive RegexEdge where
  | lineStart
  | lineEnd
  /-- A word starts here. -/
  | wordStart
  | wordEnd
  /-- A word starts or ends here. -/
  | border
  /-- No word starts or ends here. -/
  | inside
  /-- There is no letter of a word before this place. -/
  | free
  /-- There is no letter of a word after this place. -/
  | clear
  deriving Repr, DecidableEq

/-- A regular expression. -/
inductive Regex where
  | nothing
  | single (atom : RegexAtom)
  | edge (edge : RegexEdge)
  | sequence (first second : Regex)
  | choice (first second : Regex)
  | repeated (least : Nat) (most : Option Nat) (body : Regex)
  | group (number : Nat) (body : Regex)
  /-- The text that a group has taken up. -/
  | recall (number : Nat)
  deriving Repr, DecidableEq

namespace Regex

/-! Reading -/

/-- The letters of words. -/
def wordRanges : List (Char × Char) := [('a', 'z'), ('A', 'Z'), ('0', '9'), ('_', '_')]

/-- The ranges up to a closing bracket, and what follows it. -/
def readRanges : Nat → Octets → List (Char × Char) → Option (List (Char × Char) × Octets)
  | 0, _, _ => none
  | fuel + 1, cs, ranges =>
    match cs with
    | [] => none
    | ']' :: rest =>
      if ranges.isEmpty then readRanges fuel rest [(']', ']')] else some (ranges, rest)
    | '[' :: ':' :: rest =>
      let name := rest.takeWhile (· ≠ ':')
      match Pattern.classes.lookup (String.ofList name) with
      | some found => readRanges fuel (rest.drop (name.length + 2)) (ranges ++ found)
      | none => none
    | a :: '-' :: b :: rest =>
      if b = ']' then some (ranges ++ [(a, a), ('-', '-')], rest)
      else readRanges fuel rest (ranges ++ [(a, b)])
    | a :: rest => readRanges fuel rest (ranges ++ [(a, a)])

/-- What an escaped character stands for. -/
def escape (c : Char) : Regex :=
  match c with
  | 'n' => .single (.char '\n')
  | 't' => .single (.char '\t')
  | 'w' => .single (.range false wordRanges)
  | 'W' => .single (.range true wordRanges)
  | 's' => .single (.range false [(' ', ' '), ('\t', '\r')])
  | 'S' => .single (.range true [(' ', ' '), ('\t', '\r')])
  | 'b' => .edge .border
  | 'B' => .edge .inside
  | '<' => .edge .wordStart
  | '>' => .edge .wordEnd
  | c => if c.isDigit && c ≠ '0' then .recall (c.toNat - '0'.toNat) else .single (.char c)

/-- The bounds of a repetition up to its closing brace, and what follows it. -/
def bounds? (closing cs : Octets) : Option ((Nat × Option Nat) × Octets) :=
  let first := cs.takeWhile Char.isDigit
  let rest := cs.drop first.length
  let number (digits : Octets) : Nat := (String.ofList digits).toNat?.getD 0
  let close (bounds : Nat × Option Nat) (rest : Octets) : Option ((Nat × Option Nat) × Octets) :=
    if closing.isPrefixOf rest then some (bounds, rest.drop closing.length) else none
  match rest with
  | ',' :: rest =>
    let last := rest.takeWhile Char.isDigit
    close (number first, if last.isEmpty then none else some (number last)) (rest.drop last.length)
  | rest => if first.isEmpty then none else close (number first, some (number first)) rest

/-- The repetition at the front of a text, and what follows it. In the basic form some of them need
a backslash. -/
def repetition? (extended : Bool) (cs : Octets) : Option ((Nat × Option Nat) × Octets) :=
  match extended, cs with
  | _, '*' :: rest => some ((0, none), rest)
  | true, '+' :: rest | false, '\\' :: '+' :: rest => some ((1, none), rest)
  | true, '?' :: rest | false, '\\' :: '?' :: rest => some ((0, some 1), rest)
  | true, '\x7b' :: rest => bounds? ['\x7d'] rest
  | false, '\\' :: '\x7b' :: rest => bounds? ['\\', '\x7d'] rest
  | _, _ => none

/-- The text after a token that is written with a backslash in the basic form only. -/
def mark? (extended : Bool) (c : Char) (cs : Octets) : Option Octets :=
  match extended, cs with
  | true, d :: rest => if c = d then some rest else none
  | false, '\\' :: d :: rest => if c = d then some rest else none
  | _, _ => none

/-- What a reading step gives: an expression, how many groups have been opened, and the text that is
left. -/
abbrev Read := Option (Regex × Nat × Octets)

mutual

/-- Alternatives at the front of a text. -/
def readChoice (extended : Bool) : Nat → Nat → Octets → Read
  | 0, _, _ => none
  | fuel + 1, groups, cs => do
    let (first, groups, rest) ← readSequence extended fuel groups true cs
    match mark? extended '|' rest with
    | some rest =>
      let (second, groups, rest) ← readChoice extended fuel groups rest
      pure (.choice first second, groups, rest)
    | none => pure (first, groups, rest)

/-- Repeated items at the front of a text; `start` says that nothing stands before them. -/
def readSequence (extended : Bool) : Nat → Nat → Bool → Octets → Read
  | 0, _, _, _ => none
  | fuel + 1, groups, start, cs =>
    if cs.isEmpty || (mark? extended '|' cs).isSome || (mark? extended ')' cs).isSome then
      some (.nothing, groups, cs)
    else do
      let (first, groups, rest) ← readItem extended fuel groups start cs
      let isAnchor := first == .edge .lineStart
      let (first, rest) := readRepetitions extended fuel (isAnchor && !extended) first rest
      let (second, groups, rest) ← readSequence extended fuel groups (isAnchor && start) rest
      pure (.sequence first second, groups, rest)

/-- An item with the repetitions after it. -/
def readRepetitions (extended : Bool) : Nat → Bool → Regex → Octets → Regex × Octets
  | 0, _, item, cs => (item, cs)
  | fuel + 1, literal, item, cs =>
    match if literal then none else repetition? extended cs with
    | some ((least, most), rest) =>
      readRepetitions extended fuel literal (.repeated least most item) rest
    | none => (item, cs)

/-- One item at the front of a text. -/
def readItem (extended : Bool) : Nat → Nat → Bool → Octets → Read
  | 0, _, _, _ => none
  | fuel + 1, groups, start, cs =>
    match mark? extended '(' cs with
    | some rest => do
      let number := groups + 1
      let (body, groups, rest) ← readChoice extended fuel number rest
      let rest ← mark? extended ')' rest
      pure (.group number body, groups, rest)
    | none =>
      let one (atom : RegexAtom) (rest : Octets) : Read := some (.single atom, groups, rest)
      match cs with
      | [] => none
      | '.' :: rest => one .any rest
      | '^' :: rest =>
        if extended || start then some (.edge .lineStart, groups, rest) else one (.char '^') rest
      | '$' :: rest =>
        if extended || rest.isEmpty || (mark? extended '|' rest).isSome ||
            (mark? extended ')' rest).isSome then
          some (.edge .lineEnd, groups, rest)
        else one (.char '$') rest
      | '[' :: rest =>
        let (negated, inner) := match rest with
          | '^' :: inner => (true, inner)
          | inner => (false, inner)
        match readRanges (inner.length + 1) inner [] with
        | some (ranges, rest) => one (.range negated ranges) rest
        | none => none
      | '\\' :: c :: rest => some (escape c, groups, rest)
      | c :: rest => one (.char c) rest

end

/-- The expression that a text writes, if it writes one. -/
def read? (extended : Bool) (text : Octets) : Option Regex :=
  match readChoice extended (8 * text.length + 16) 0 text with
  | some (regex, _, []) => some regex
  | _ => none

/-- The expression that a text writes. A text that writes none fits itself. -/
def fixed (text : Octets) : Regex :=
  text.foldr (fun c rest => .sequence (.single (.char c)) rest) .nothing

/-- The expression for a whole line. -/
def wholeLine (regex : Regex) : Regex :=
  .sequence (.edge .lineStart) (.sequence regex (.edge .lineEnd))

/-- The expression for whole words. -/
def wholeWords (regex : Regex) : Regex :=
  .sequence (.edge .free) (.sequence regex (.edge .clear))

/-! Fitting -/

/-- A place that a part of an expression leads to, and what the groups have taken up, each from one
place to another. -/
structure Spot where
  place : Nat
  groups : List (Nat × Nat × Nat)

/-- The first of the spots at each place. -/
def distinct (spots : List Spot) : List Spot :=
  (spots.foldl (fun (kept, seen) (spot : Spot) =>
    if seen.contains spot.place then (kept, seen) else (spot :: kept, spot.place :: seen))
    (([], []) : List Spot × List Nat)).1.reverse

/-- Does an atom fit an octet? -/
def fits (fold : Bool) (atom : RegexAtom) (c : Char) : Bool :=
  let same (a b : Char) : Bool := if fold then a.toLower == b.toLower else a == b
  match atom with
  | .char d => same c d
  | .any => true
  | .range negated ranges =>
    (ranges.any fun (a, b) =>
      let holds (c : Char) : Bool := a ≤ c && c ≤ b
      holds c || (fold && (holds c.toLower || holds c.toUpper))) != negated

/-- Is there a letter of a word at a place? -/
def hasLetter (text : Array Char) (place : Nat) : Bool := (text[place]?).any Octets.isNameChar

/-- Does an edge stand at a place? -/
def holdsEdge (text : Array Char) (edge : RegexEdge) (place : Nat) : Bool :=
  let before := place > 0 && hasLetter text (place - 1)
  let after := hasLetter text place
  match edge with
  | .lineStart => place = 0
  | .lineEnd => place = text.size
  | .wordStart => !before && after
  | .wordEnd => before && !after
  | .border => before != after
  | .inside => before == after
  | .free => !before
  | .clear => !after

/-- Where more and more rounds of a step lead, those with the most rounds first. -/
def rounds (step : Spot → List Spot) : Nat → List Nat → List Spot → List Spot
  | 0, _, _ => []
  | count + 1, seen, spots =>
    let next := (distinct (spots.flatMap step)).filter fun spot => !seen.contains spot.place
    if next.isEmpty then []
    else rounds step count (next.map (·.place) ++ seen) next ++ next

/-- Where an expression leads from a spot, the preferred ones first. -/
def ahead (fold : Bool) (text : Array Char) : Regex → Spot → List Spot
  | .nothing, spot => [spot]
  | .single atom, spot =>
    if (text[spot.place]?).any (fits fold atom) then [{ spot with place := spot.place + 1 }] else []
  | .edge e, spot => if holdsEdge text e spot.place then [spot] else []
  | .sequence first second, spot =>
    distinct ((ahead fold text first spot).flatMap fun next => ahead fold text second next)
  | .choice first second, spot =>
    distinct (ahead fold text first spot ++ ahead fold text second spot)
  | .repeated least most body, spot =>
    let step (spot : Spot) : List Spot := ahead fold text body spot
    let base := (List.replicate least ()).foldl
      (fun (spots : List Spot) _ => distinct (spots.flatMap step)) [spot]
    let more := (most.map (· - least)).getD (text.size + 1)
    distinct (rounds step more (base.map (·.place)) base ++ base)
  | .group number body, spot =>
    (ahead fold text body spot).map fun next =>
      { next with groups := (number, spot.place, next.place) :: next.groups }
  | .recall number, spot =>
    match spot.groups.lookup number with
    | none => []
    | some (start, stop) =>
      let wanted := text.extract start stop
      if text.extract spot.place (spot.place + wanted.size) == wanted then
        [{ spot with place := spot.place + wanted.size }]
      else []

/-- A text that an expression fits: where it starts, how many octets it has, and what its groups
have taken up. -/
structure Found where
  start : Nat
  size : Nat
  groups : List (Nat × Octets)

/-- The text that a group has taken up; the group zero is the whole. -/
def Found.group (found : Found) (line : Octets) (number : Nat) : Octets :=
  if number = 0 then (line.drop found.start).take found.size
  else (found.groups.lookup number).getD []

/-- The first text from a place on that the expression fits. -/
def findFrom? (fold : Bool) (regex : Regex) (line : Octets) (origin : Nat) : Option Found :=
  let text := line.toArray
  ((List.range (text.size + 1)).drop origin).findSome? fun start =>
    let spots := ahead fold text regex ⟨start, []⟩
    let longest := (spots.map (·.place)).foldl max start
    (spots.find? (·.place = longest)).map fun spot =>
      ⟨start, longest - start,
        spot.groups.map fun (number, first, last) =>
          (number, (text.extract first last).toList)⟩

/-- The first text that the expression fits. -/
def find? (fold : Bool) (regex : Regex) (line : Octets) : Option Found :=
  findFrom? fold regex line 0

/-- Does the expression fit somewhere? -/
def occurs (fold : Bool) (regex : Regex) (line : Octets) : Bool := (find? fold regex line).isSome

end Regex

end Pipeline.Script
