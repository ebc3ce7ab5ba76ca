import Pipeline.Text.Blank

/-! References to actions: `./path` in the workspace, or `owner/repo[/path]@version`. -/

namespace Pipeline

/-- A reference to an action. -/
inductive ActionRef where
  | workspace (path : String)
  | external (owner repo : String) (path : Option String) (version : String)
  deriving Repr, DecidableEq

namespace ActionRef

/-- Why a text is no reference. -/
inductive Error where
  | empty
  | container (text : String)
  | missingVersion (text : String)
  | emptyVersion (text : String)
  | malformed (text : String)
  deriving Repr, DecidableEq

/-- The wording of a mistake. -/
def Error.message : Error → String
  | empty => "empty action reference"
  | container text => "container actions are not supported: '" ++ text ++ "'"
  | missingVersion text =>
    "action reference '" ++ text ++ "' is missing a version (expected owner/repo@version)"
  | emptyVersion text => "action reference '" ++ text ++ "' has an empty version"
  | malformed text => "action reference '" ++ text ++ "' must be owner/repo[/path]@version"

/-- The characters without the slashes at the end. -/
def dropLastSlashes (cs : List Char) : List Char :=
  (cs.reverse.dropWhile (· = '/')).reverse

/-- The parts before and after the last occurrence of a character. -/
def splitAtLast (mark : Char) (cs : List Char) : Option (List Char × List Char) :=
  let after := cs.reverse.takeWhile (· != mark)
  match cs.reverse.dropWhile (· != mark) with
  | [] => none
  | _ :: before => some (before.reverse, after.reverse)

/-- The parts before and after the first occurrence of a character; without one the second part is
missing. -/
def splitAtFirst (mark : Char) (cs : List Char) : List Char × Option (List Char) :=
  let before := cs.takeWhile (· != mark)
  match cs.dropWhile (· != mark) with
  | [] => (before, none)
  | _ :: after => (before, some after)

/-- The reference to an external action from its location and version. -/
def ofLocation (text : String) (location version : List Char) : Except Error ActionRef :=
  if version.isEmpty then .error (.emptyVersion text)
  else
    let (owner, rest) := splitAtFirst '/' location
    let (repo, rest) := splitAtFirst '/' (rest.getD [])
    let path := dropLastSlashes ((rest.getD []).dropWhile (· = '/'))
    if owner.isEmpty || repo.isEmpty then .error (.malformed text)
    else
      .ok (.external (String.ofList owner) (String.ofList repo)
        (if path.isEmpty then none else some (String.ofList path)) (String.ofList version))

/-- The mark in front of container images. -/
def containerMark : List Char := "docker://".toList

/-- Reads a reference; blanks at the ends do not count. -/
def parse (text : String) : Except Error ActionRef :=
  let cs := Text.trimChars text.toList
  let trimmed := String.ofList cs
  if cs.isEmpty then .error .empty
  else if containerMark.isPrefixOf cs then .error (.container trimmed)
  else if ['.', '/'].isPrefixOf cs || cs = ['.'] then
    .ok (.workspace (String.ofList (dropLastSlashes cs)))
  else
    match splitAtLast '@' cs with
    | none => .error (.missingVersion trimmed)
    | some (location, version) => ofLocation trimmed location version

/-- Does the reference point into the workspace? -/
def isLocal : ActionRef → Bool
  | workspace _ => true
  | external .. => false

/-- The reference without its version. -/
def name : ActionRef → String
  | workspace path => path
  | external owner repo none _ => owner ++ "/" ++ repo
  | external owner repo (some path) _ => owner ++ "/" ++ repo ++ "/" ++ path

/-- The text of a reference. -/
def render : ActionRef → String
  | workspace path => path
  | external owner repo path version => (external owner repo path version).name ++ "@" ++ version

end ActionRef

end Pipeline
