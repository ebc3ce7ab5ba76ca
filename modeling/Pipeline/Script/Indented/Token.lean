import Pipeline.Script.Format

/-! The tokens of the scripts of the `python` shell, whose blocks are indented. -/

namespace Pipeline.Script.Indented

/-- A token. -/
inductive Token where
  | name (text : String)
  | number (value : Int)
  | text (octets : Octets)
  /-- A text with expressions in braces. -/
  | template (octets : Octets)
  | operator (text : String)
  /-- The start of a line. -/
  | line (number indent : Nat)
  deriving Repr, DecidableEq

/-- The operators, the longer ones first. -/
def operators : List String :=
  ["**", "//", "==", "!=", "<=", ">=", "+=", "-=", "*=", "+", "-", "*", "/", "%", "=", "<", ">",
    "(", ")", "[", "]", "\x7b", "\x7d", ",", ".", ":", ";", "|", "&"]

/-- The octets of a string literal up to its closing mark, and the text after it. -/
def readString (mark : Octets) (raw : Bool) : Nat → Octets → Option (Octets × Octets)
  | 0, _ => none
  | fuel + 1, cs =>
    if mark.isPrefixOf cs then some ([], cs.drop mark.length)
    else
      let put (front rest : Octets) : Option (Octets × Octets) :=
        (readString mark raw fuel rest).map fun (text, rest) => (front ++ text, rest)
      match cs with
      | [] => none
      | '\\' :: e :: rest =>
        if raw then put ['\\', e] rest
        else
          match e with
          | '\n' => put [] rest
          | '\'' | '"' => put [e] rest
          | 'x' =>
            let value (c : Char) := ("0123456789abcdef".toList.idxOf? c.toLower).getD 0
            match rest with
            | a :: b :: rest =>
              put (Octets.ofText (String.singleton (Char.ofNat (value a * 16 + value b)))) rest
            | _ => none
          | e =>
            match Format.plainEscapes.lookup e with
            | some c => put [c] rest
            | none =>
              if '0' ≤ e && e ≤ '7' then
                let (n, rest) := Format.splitOctal 3 0 (e :: rest)
                put (Octets.ofText (String.singleton (Char.ofNat n))) rest
              else put ['\\', e] rest
      | c :: rest => if c = '\n' && mark.length = 1 then none else put [c] rest

/-- The tokens of a script. Inside brackets line ends do not count. -/
def tokens : Nat → Nat → Nat → Octets → Option (List Token)
  | 0, _, _, _ => none
  | fuel + 1, depth, line, cs =>
    match cs with
    | [] => some []
    | '\n' :: rest =>
      if depth > 0 then tokens fuel depth (line + 1) rest
      else
        let indent := (rest.takeWhile fun c => c = ' ' || c = '\t').length
        (tokens fuel depth (line + 1) (rest.drop indent)).map (.line (line + 1) indent :: ·)
    | '#' :: rest => tokens fuel depth line (rest.dropWhile (· ≠ '\n'))
    | '\\' :: '\n' :: rest => tokens fuel depth (line + 1) rest
    | c :: rest =>
      if c = ' ' || c = '\t' || c = '\r' then tokens fuel depth line rest
      else
        let word := cs.takeWhile Octets.isNameChar
        let after := cs.drop word.length
        let quote : Octets :=
          match after with
          | '\'' :: '\'' :: '\'' :: _ => ['\'', '\'', '\'']
          | '"' :: '"' :: '"' :: _ => ['"', '"', '"']
          | '\'' :: _ => ['\'']
          | '"' :: _ => ['"']
          | _ => []
        if !quote.isEmpty && word.length ≤ 2 && word.all "rbufRBUF".toList.contains then do
          let raw := word.contains 'r' || word.contains 'R'
          let (text, rest) ← readString quote raw (after.length + 1) (after.drop quote.length)
          let template := word.contains 'f' || word.contains 'F'
          let others ← tokens fuel depth (line + text.count '\n') rest
          pure ((if template then .template text else .text text) :: others)
        else if Octets.isName word then
          (tokens fuel depth line after).map (.name (String.ofList word) :: ·)
        else if c.isDigit then
          (tokens fuel depth line after).map
            (.number ((String.ofList (word.filter (· ≠ '_'))).toNat?.getD 0) :: ·)
        else do
          let operator ← operators.find? fun o => o.toList.isPrefixOf cs
          let depth := if ["(", "[", "\x7b"].contains operator then depth + 1
            else if [")", "]", "\x7d"].contains operator then depth - 1 else depth
          let others ← tokens fuel depth line (cs.drop operator.length)
          pure (.operator operator :: others)

end Pipeline.Script.Indented
