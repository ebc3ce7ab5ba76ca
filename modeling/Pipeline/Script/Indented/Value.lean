import Pipeline.Files.Tree
import Pipeline.Script.Octets

/-! The values of indented scripts, and their texts. -/

namespace Pipeline.Script.Indented

/-- A value. -/
inductive Value where
  | none
  | boolean (value : Bool)
  | number (value : Int)
  | text (octets : Octets)
  | list (items : List Value)
  /-- A module, or something in one. -/
  | part (path : List String)
  /-- A file that is open. -/
  | file (place : Location)
  /-- An error that can be raised. -/
  | error (kind : String) (message : Octets) (code : Option Int)
  deriving Inhabited

namespace Value

mutual

/-- The text of a value inside a list. -/
def quoted : Value → Octets
  | .text octets =>
    let mark := if octets.contains '\'' && !octets.contains '"' then '"' else '\''
    mark :: octets.flatMap (fun c =>
      if c = '\n' then ['\\', 'n'] else if c = '\t' then ['\\', 't']
      else if c = '\\' then ['\\', '\\'] else [c]) ++ [mark]
  | .none => "None".toList
  | .boolean b => (if b then "True" else "False").toList
  | .number n => Octets.ofInt n
  | .list items => '[' :: quotedAll items ++ [']']
  | .part path => ("<" ++ ".".intercalate path ++ ">").toList
  | .file _ => "<file>".toList
  | .error kind message _ => Octets.ofText kind ++ '(' :: message ++ [')']

/-- The texts of the values of a list. -/
def quotedAll : List Value → Octets
  | [] => []
  | [item] => quoted item
  | item :: rest => quoted item ++ ", ".toList ++ quotedAll rest

end

/-- The text of a value. -/
def shown : Value → Octets
  | .text octets => octets
  | .error _ message _ => message
  | value => quoted value

/-- Does a value count as true? -/
def isTrue : Value → Bool
  | .none => false
  | .boolean b => b
  | .number n => n ≠ 0
  | .text octets => !octets.isEmpty
  | .list items => !items.isEmpty
  | _ => true

end Value

end Pipeline.Script.Indented
