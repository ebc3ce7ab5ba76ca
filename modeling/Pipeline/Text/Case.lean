import Pipeline.Text.CaseTable
import Pipeline.Text.Letter

/-! Small and capital letters. ASCII folding touches the letters `A` to `Z` only; `lower` and
`upper` follow all scripts, with the small sigma that ends a word. -/

namespace Pipeline.Text

/-- The image of a code point under a table of runs. -/
def shiftByRuns (runs : List (Nat × Nat × Nat × Int)) (n : Nat) : Option Nat :=
  (runs.find? fun run => run.1 ≤ n && n ≤ run.2.1 && (n - run.1) % run.2.2.1 == 0).map
    fun run => ((n : Int) + run.2.2.2).toNat

/-- The letter's image under a table of runs and a table of sequences. -/
def mapLetter (runs : List (Nat × Nat × Nat × Int)) (sequences : List (Nat × List Nat))
    (c : Char) : List Char :=
  match shiftByRuns runs c.toNat with
  | some n => [Char.ofNat n]
  | none =>
    match sequences.lookup c.toNat with
    | some ns => ns.map Char.ofNat
    | none => [c]

/-- The small form of a letter, apart from its neighbours. -/
def lowerLetter (c : Char) : List Char :=
  if c.toNat < 0x80 then [c.toLower] else mapLetter lowerRuns lowerSequences c

/-- The capital form of a letter. -/
def upperLetter (c : Char) : List Char :=
  if c.toNat < 0x80 then [c.toUpper] else mapLetter upperRuns upperSequences c

/-- A character that has a letter case. -/
def isCased (c : Char) : Bool :=
  c.isAlpha || inRanges casedRanges c.toNat

/-- A character passed over when the neighbours of a letter are looked at. -/
def isCaseIgnorable (c : Char) : Bool :=
  inRanges caseIgnorableRanges c.toNat

/-- Is the first character that counts a cased one? -/
def startsCased (cs : List Char) : Bool :=
  match cs.dropWhile isCaseIgnorable with
  | [] => false
  | c :: _ => isCased c

/-- The small letters of `cs`, which follows the reversed text `before`. A capital sigma after a
cased letter and before none is the sigma that ends a word. -/
def lowerAfter (before : List Char) : List Char → List Char
  | [] => []
  | c :: rest =>
    (if c = 'Σ' then
        if startsCased before && !startsCased rest then ['ς'] else ['σ']
      else lowerLetter c) ++ lowerAfter (c :: before) rest

/-- The text in small letters. -/
def lower (s : String) : String :=
  String.ofList (lowerAfter [] s.toList)

/-- The text in capital letters. -/
def upper (s : String) : String :=
  String.ofList (s.toList.flatMap upperLetter)

/-- The text with `A` to `Z` made small. -/
def foldAscii (s : String) : String :=
  s.map Char.toLower

/-- Equality that does not tell `A` to `Z` from `a` to `z`. -/
def equalFoldingAscii (s t : String) : Bool :=
  foldAscii s == foldAscii t

end Pipeline.Text
