/-! Text as scripts see it: octets, each written as the character of its number. -/

namespace Pipeline.Script

/-- A row of octets. -/
abbrev Octets := List Char

namespace Octets

/-- The octets of a byte array. -/
def ofBytes (bytes : ByteArray) : Octets := bytes.toList.map fun b => Char.ofNat b.toNat

/-- The byte array of octets. -/
def toBytes (octets : Octets) : ByteArray :=
  ⟨(octets.map fun c => c.toNat.toUInt8).toArray⟩

/-- The octets of a text. -/
def ofText (text : String) : Octets := ofBytes text.toUTF8

/-- The text that octets encode, if they encode one. -/
def toText? (octets : Octets) : Option String := String.fromUTF8? octets.toBytes

/-- The text that octets encode. Octets that encode none are taken one by one. -/
def toText (octets : Octets) : String := octets.toText?.getD (String.ofList octets)

/-- The decimal digits of an integer. -/
def ofInt (n : Int) : Octets := (toString n).toList

/-- The lines, without their line feeds. A last line without one counts as a line. -/
def linesFrom (reversed : Octets) : Octets → List Octets
  | [] => if reversed.isEmpty then [] else [reversed.reverse]
  | '\n' :: rest => reversed.reverse :: linesFrom [] rest
  | c :: rest => linesFrom (c :: reversed) rest

/-- The lines, without their line feeds. -/
def lines (octets : Octets) : List Octets := linesFrom [] octets

/-- Lines, each with a line feed. -/
def unlines (lines : List Octets) : Octets := lines.flatMap (· ++ ['\n'])

/-- The octets without line feeds at their end. -/
def dropLineFeeds (octets : Octets) : Octets :=
  (octets.reverse.dropWhile (· = '\n')).reverse

/-- The order of octets. -/
def lessOrEqual : Octets → Octets → Bool
  | [], _ => true
  | _ :: _, [] => false
  | a :: as, b :: bs => a < b || (a = b && lessOrEqual as bs)

/-- A character that names may hold. -/
def isNameChar (c : Char) : Bool := c.isAlphanum || c = '_'

/-- Are the octets a name? -/
def isName : Octets → Bool
  | [] => false
  | c :: rest => (c.isAlpha || c = '_') && rest.all isNameChar

end Octets

end Pipeline.Script
