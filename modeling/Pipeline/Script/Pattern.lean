import Pipeline.Script.Syntax

/-! Patterns of the shell, in branches, in parameters and in names of files. -/

namespace Pipeline.Script

/-- Octets, each with a mark whether it is quoted. -/
abbrev Marked := List (Char × Bool)

namespace Marked

/-- Octets that are all quoted, or all not. -/
def of (quoted : Bool) (octets : Octets) : Marked := octets.map (·, quoted)

/-- The octets without their marks. -/
def octets (marked : Marked) : Octets := marked.map (·.1)

end Marked

/-- One item of a pattern. -/
inductive PatternItem where
  | char (c : Char)
  /-- Any octet. -/
  | any
  /-- Any octets. -/
  | many
  /-- One of the octets in the ranges, or none of them. -/
  | range (negated : Bool) (ranges : List (Char × Char))
  deriving Repr, DecidableEq

/-- A pattern. -/
abbrev Pattern := List PatternItem

namespace Pattern

/-- The named sets of octets. -/
def classes : List (String × List (Char × Char)) :=
  [("alpha", [('a', 'z'), ('A', 'Z')]), ("digit", [('0', '9')]),
    ("alnum", [('a', 'z'), ('A', 'Z'), ('0', '9')]), ("upper", [('A', 'Z')]),
    ("lower", [('a', 'z')]), ("space", [(' ', ' '), ('\t', '\r')]),
    ("blank", [(' ', ' '), ('\t', '\t')]), ("xdigit", [('0', '9'), ('a', 'f'), ('A', 'F')]),
    ("punct", [('!', '/'), (':', '@'), ('[', '\x60'), ('\x7b', '~')])]

/-- The ranges up to a closing bracket, and what follows it. -/
def readRanges : Nat → Marked → List (Char × Char) → Option (List (Char × Char) × Marked)
  | 0, _, _ => none
  | fuel + 1, cs, ranges =>
    match cs with
    | [] => none
    | (']', false) :: rest =>
      if ranges.isEmpty then readRanges fuel rest [(']', ']')] else some (ranges, rest)
    | ('[', false) :: (':', _) :: rest =>
      let name := rest.takeWhile (·.1 ≠ ':')
      match classes.lookup (String.ofList (Marked.octets name)) with
      | some found => readRanges fuel (rest.drop (name.length + 2)) (ranges ++ found)
      | none => none
    | (a, _) :: ('-', false) :: (b, markedB) :: rest =>
      if b = ']' && !markedB then
        readRanges fuel ((b, markedB) :: rest) (ranges ++ [(a, a), ('-', '-')])
      else readRanges fuel rest (ranges ++ [(a, b)])
    | (a, _) :: rest => readRanges fuel rest (ranges ++ [(a, a)])

/-- The pattern that octets write; the quoted ones stand for themselves. -/
def read : Nat → Marked → Pattern
  | 0, _ => []
  | fuel + 1, cs =>
    match cs with
    | [] => []
    | ('*', false) :: rest => .many :: read fuel rest
    | ('?', false) :: rest => .any :: read fuel rest
    | ('[', false) :: rest =>
      let (negated, inner) := match rest with
        | ('!', false) :: inner => (true, inner)
        | ('^', false) :: inner => (true, inner)
        | inner => (false, inner)
      match readRanges (inner.length + 1) inner [] with
      | some (ranges, rest) => .range negated ranges :: read fuel rest
      | none => .char '[' :: read fuel rest
    | (c, _) :: rest => .char c :: read fuel rest

/-- The pattern that octets write. -/
def of (cs : Marked) : Pattern := read (cs.length + 1) cs

/-- Does the pattern hold anything that fits more than itself? -/
def isMagic (pattern : Pattern) : Bool :=
  pattern.any fun
    | .char _ => false
    | _ => true

/-- Does an item fit an octet? -/
def fits (item : PatternItem) (c : Char) : Bool :=
  match item with
  | .char d => c = d
  | .any | .many => true
  | .range negated ranges => (ranges.any fun (a, b) => a ≤ c && c ≤ b) != negated

/-- Does a pattern fit octets from end to end? -/
def matchesAll : Pattern → Octets → Bool
  | [], cs => cs.isEmpty
  | .many :: rest, [] => matchesAll rest []
  | .many :: rest, c :: cs => matchesAll rest (c :: cs) || matchesAll (.many :: rest) cs
  | _ :: _, [] => false
  | item :: rest, c :: cs => fits item c && matchesAll rest cs
termination_by pattern cs => pattern.length + cs.length

/-- The octets without the shortest or longest part at the front that the pattern fits. -/
def cutPrefix (pattern : Pattern) (longest : Bool) (cs : Octets) : Octets :=
  let sizes := List.range (cs.length + 1)
  let sizes := if longest then sizes.reverse else sizes
  match sizes.find? fun n => matchesAll pattern (cs.take n) with
  | some n => cs.drop n
  | none => cs

/-- The octets without the shortest or longest part at the end that the pattern fits. -/
def cutSuffix (pattern : Pattern) (longest : Bool) (cs : Octets) : Octets :=
  let starts := List.range (cs.length + 1)
  let starts := if longest then starts else starts.reverse
  match starts.find? fun n => matchesAll pattern (cs.drop n) with
  | some n => cs.take n
  | none => cs

/-- The octets with parts that the pattern fits replaced. Of the parts that start at one place the
longest is taken. -/
def replace (pattern : Pattern) (replacement : Octets) (occurrence : Occurrence) :
    Nat → Octets → Octets
  | 0, cs => cs
  | fuel + 1, cs =>
    let longest (sizes : List Nat) : Option Nat :=
      sizes.find? fun n => matchesAll pattern (cs.take n)
    match occurrence with
    | .front =>
      match longest (List.range (cs.length + 1)).reverse with
      | some n => replacement ++ cs.drop n
      | none => cs
    | .back =>
      match (List.range (cs.length + 1)).find? fun n => matchesAll pattern (cs.drop n) with
      | some n => cs.take n ++ replacement
      | none => cs
    | occurrence =>
      match longest ((List.range cs.length).reverse.map (· + 1)) with
      | some n =>
        replacement ++ (if occurrence = .every then
          replace pattern replacement occurrence fuel (cs.drop n) else cs.drop n)
      | none =>
        match cs with
        | [] => []
        | c :: rest => c :: replace pattern replacement occurrence fuel rest

end Pattern

end Pipeline.Script
