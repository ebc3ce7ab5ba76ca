import Pipeline.Text.Blank

/-! Events and the rules that decide which of them start a workflow. In a pattern of branch names
`*` stands for any text within a path segment, `**` for any text and `?` for one character within a
segment. -/

namespace Pipeline

namespace Glob

/-- An item of a pattern. -/
inductive Item where
  | anything
  | segment
  | single
  | char (c : Char)
  deriving Repr, DecidableEq

/-- The items of a pattern, read from the left; two stars together are one item. -/
def items : List Char → List Item
  | [] => []
  | '*' :: '*' :: rest => .anything :: items rest
  | '*' :: rest => .segment :: items rest
  | '?' :: rest => .single :: items rest
  | c :: rest => .char c :: items rest

/-- Can the text be cut into pieces that fit the items in turn? -/
def fits : List Item → List Char → Bool
  | [], text => text.isEmpty
  | .anything :: items, [] => fits items []
  | .anything :: items, c :: text => fits items (c :: text) || fits (.anything :: items) text
  | .segment :: items, [] => fits items []
  | .segment :: items, c :: text =>
    fits items (c :: text) || (c != '/' && fits (.segment :: items) text)
  | .single :: _, [] => false
  | .single :: items, c :: text => c != '/' && fits items text
  | .char _ :: _, [] => false
  | .char d :: items, c :: text => c == d && fits items text
termination_by items text => items.length + text.length

/-- Does a text match a pattern? -/
def matchText (pattern text : String) : Bool :=
  fits (items pattern.toList) text.toList

end Glob

/-- Something that happened to a repository. -/
structure Event where
  /-- What happened, such as `push` or `pull_request`. -/
  kind : String
  /-- The activity, such as `opened`. -/
  subtype : Option String
  /-- The branch or ref that the event is about. -/
  ref : String
  headRef : Option String
  baseRef : Option String
  sha : Option String
  actor : Option String
  deriving Repr, DecidableEq

namespace Event

/-- An event of a kind on a ref, about which nothing else is known. -/
def of (kind ref : String) : Event := ⟨kind, none, ref, none, none, none, none⟩

/-- A ref without the mark of branches in front. -/
def branchOf (ref : String) : String :=
  let mark := "refs/heads/"
  if ref.startsWith mark then String.ofList (ref.toList.drop mark.length) else ref

/-- The branch that filters look at: the target branch of a pull request, else that of the ref. -/
def filterBranch (event : Event) : String :=
  if event.kind.startsWith "pull_request" then branchOf (event.baseRef.getD event.ref)
  else branchOf event.ref

end Event

namespace Trigger

/-- A kind of event with filters. An empty list does not filter. -/
structure Rule where
  kind : String
  subtypes : List String
  branches : List String
  branchesIgnore : List String
  deriving Repr, DecidableEq

/-- A rule without filters. -/
def Rule.of (kind : String) : Rule := ⟨kind, [], [], []⟩

/-- Why a set of rules decides nothing. -/
inductive Error where
  | noRules
  | emptyKind
  deriving Repr, DecidableEq

/-- The wording of a mistake. -/
def Error.message : Error → String
  | noRules => "workflow has no triggers"
  | emptyKind => "trigger with an empty event kind"

/-- The decision of a filter list on a branch after the patterns so far: each pattern that matches
overrides the ones before it, and a leading `!` makes it a refusal. -/
def filterFrom (decision : Bool) (branch : String) : List String → Bool
  | [] => decision
  | pattern :: rest =>
    let decision :=
      match pattern.toList with
      | '!' :: negated =>
        if Glob.fits (Glob.items negated) branch.toList then false else decision
      | _ => if Glob.matchText pattern branch then true else decision
    filterFrom decision branch rest

/-- The decision of a filter list on a branch. -/
def filterMatches (patterns : List String) (branch : String) : Bool :=
  filterFrom false branch patterns

/-- Does the rule accept an event of its kind? -/
def Rule.accepts (rule : Rule) (event : Event) : Bool :=
  let branch := event.filterBranch
  (rule.subtypes.isEmpty || event.subtype.any rule.subtypes.contains) &&
    (rule.branches.isEmpty || filterMatches rule.branches branch) &&
    (rule.branchesIgnore.isEmpty || !filterMatches rule.branchesIgnore branch)

/-- The first mistake of a set of event kinds. -/
def checkKinds (kinds : List String) : Except Error Unit :=
  if kinds.isEmpty then .error .noRules
  else if kinds.any Text.isAllBlank then .error .emptyKind
  else .ok ()

/-- Does an event start a workflow with these rules? -/
def accepts (event : Event) (rules : List Rule) : Except Error Bool :=
  match checkKinds (rules.map (·.kind)) with
  | .error e => .error e
  | .ok () => .ok (rules.any fun rule => rule.kind == event.kind && rule.accepts event)

end Trigger

end Pipeline
