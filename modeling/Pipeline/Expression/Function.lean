import Pipeline.Expression.Error
import Pipeline.Expression.Value

/-! The functions of the language. Their names are read in any case of ASCII letters. -/

namespace Pipeline.Expression

/-- What a step knows of the steps before it. -/
structure JobFlags where
  failed : Bool
  cancelled : Bool
  deriving Repr, DecidableEq

namespace JobFlags

/-- Nothing has failed and nothing was cancelled. -/
def ok : JobFlags := ⟨false, false⟩

instance : Inhabited JobFlags := ⟨ok⟩

/-- No earlier step failed or was cancelled. -/
def succeeds (flags : JobFlags) : Bool := !flags.failed && !flags.cancelled

/-- The status as a word. -/
def word (flags : JobFlags) : String :=
  if flags.cancelled then "cancelled" else if flags.failed then "failure" else "success"

end JobFlags

/-- A function of the language. -/
inductive Builtin where
  | success
  | failure
  | cancelled
  | always
  | contains
  | startsWith
  | endsWith
  | format
  | join
  | toJson
  | fromJson
  deriving Repr, DecidableEq

/-- The function of a name in small letters. -/
def Builtin.ofName? (name : String) : Option Builtin :=
  [("success", success), ("failure", failure), ("cancelled", cancelled), ("always", always),
    ("contains", contains), ("startswith", startsWith), ("endswith", endsWith),
    ("format", format), ("join", join), ("tojson", toJson), ("fromjson", fromJson)].lookup name

/-- The other list occurs in the list. -/
def containsChars (part : List Char) : List Char → Bool
  | [] => part.isEmpty
  | c :: rest => part.isPrefixOf (c :: rest) || containsChars part rest

/-- A number of an argument as `format` reads it: digits after an optional plus sign, within 64
bits. -/
def argumentNumber? (text : List Char) : Option Nat :=
  let digits := match text with
    | '+' :: rest => rest
    | cs => cs
  if digits.isEmpty then none
  else
    match digitsValue? 10 digits with
    | some n => if n < twoTo 64 then some n else none
    | none => none

/-- A template of `format` with its arguments put in. A brace written twice is that brace. -/
def formatTemplate (args : List Json) : List Char → Except EvalError (List Char)
  | [] => .ok []
  | '\x7b' :: '\x7b' :: rest => do pure ('\x7b' :: (← formatTemplate args rest))
  | '\x7d' :: '\x7d' :: rest => do pure ('\x7d' :: (← formatTemplate args rest))
  | '\x7b' :: rest =>
    let name := rest.takeWhile (· != '\x7d')
    match argumentNumber? name with
    | none => .error (.formatPlaceholder (String.ofList name))
    | some n =>
      match args[n]? with
      | none => .error (.formatArgument n)
      | some arg => do
        let text ← formatTemplate args ((rest.dropWhile (· != '\x7d')).drop 1)
        pure ((toText arg).toList ++ text)
  | c :: rest => do pure (c :: (← formatTemplate args rest))
termination_by cs => cs.length
decreasing_by
  all_goals simp only [List.length_cons, List.length_drop]
  · omega
  · omega
  · have h : (rest.dropWhile fun c => c != '\x7d').length ≤ rest.length :=
      (List.dropWhile_suffix _).length_le
    omega
  · omega

/-- The small letters of the texts of two values. -/
def loweredPair (a b : Json) : List Char × List Char :=
  ((Text.lower (toText a)).toList, (Text.lower (toText b)).toList)

/-- The value of a call. A wrong number of arguments is reported under the name of the call. -/
def Builtin.call (builtin : Builtin) (name : String) (args : List Json) (flags : JobFlags) :
    Except EvalError Json :=
  let wrongCount (expected : Nat) : Except EvalError Json :=
    .error (.argumentCount name expected args.length)
  match builtin, args with
  | success, [] => .ok (.bool flags.succeeds)
  | success, _ => wrongCount 0
  | failure, [] => .ok (.bool (flags.failed && !flags.cancelled))
  | failure, _ => wrongCount 0
  | cancelled, [] => .ok (.bool flags.cancelled)
  | cancelled, _ => wrongCount 0
  | always, [] => .ok (.bool true)
  | always, _ => wrongCount 0
  | contains, [.array items, needle] => .ok (.bool (items.any (looseEqual · needle)))
  | contains, [haystack, needle] =>
    let (haystack, needle) := loweredPair haystack needle
    .ok (.bool (containsChars needle haystack))
  | contains, _ => .error (.argumentCount "contains" 2 args.length)
  | startsWith, [text, front] =>
    let (text, front) := loweredPair text front
    .ok (.bool (front.isPrefixOf text))
  | startsWith, _ => wrongCount 2
  | endsWith, [text, tail] =>
    let (text, tail) := loweredPair text tail
    .ok (.bool (tail.isSuffixOf text))
  | endsWith, _ => wrongCount 2
  | format, template :: args => do
    let text ← formatTemplate args (toText template).toList
    pure (.string (String.ofList text))
  | format, [] => .error .formatWithoutTemplate
  | join, [.array items] => .ok (.string (",".intercalate (items.map toText)))
  | join, [.array items, separator] =>
    .ok (.string ((toText separator).intercalate (items.map toText)))
  | join, [value] | join, [value, _] => .ok (.string (toText value))
  | join, _ => .error .joinArgumentCount
  | toJson, [value] => .ok (.string value.pretty)
  | toJson, _ => wrongCount 1
  | fromJson, [value] =>
    match Json.parse (toText value) with
    | .ok value => .ok value
    | .error error => .error (.badJson error)
  | fromJson, _ => wrongCount 1

end Pipeline.Expression
