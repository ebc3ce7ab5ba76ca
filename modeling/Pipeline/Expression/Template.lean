import Pipeline.Expression.Eval

/-! Texts with expressions between `${{` and `}}`, and the conditions of steps. A `}}` inside a
quoted text of an expression does not end it. A condition that does not ask for the status of the
job holds only while no step has failed or was cancelled. -/

namespace Pipeline.Expression

/-- A piece of a template: text as it stands, or the source of an expression without the blanks at
its ends. -/
inductive Segment where
  | literal (text : String)
  | expression (source : String)
  deriving Repr, DecidableEq

/-- The characters before the first `}}` that stands outside quotes, and those after it. -/
def splitClosing (quoted : Bool) : List Char → Option (List Char × List Char)
  | [] => none
  | c :: rest =>
    if !quoted && c = '\x7d' && rest.head? = some '\x7d' then some ([], rest.drop 1)
    else
      match splitClosing (if c = '\'' then !quoted else quoted) rest with
      | some (body, after) => some (c :: body, after)
      | none => none

theorem splitClosing_length {quoted : Bool} {cs body after : List Char}
    (h : splitClosing quoted cs = some (body, after)) : after.length < cs.length := by
  induction cs generalizing quoted body with
  | nil => simp [splitClosing] at h
  | cons c rest ih =>
    simp only [splitClosing] at h
    split at h
    · cases h; simp only [List.length_drop, List.length_cons]; omega
    · split at h
      · next _ _ hrest => cases h; have := ih hrest; simp only [List.length_cons]; omega
      · cases h

/-- The literal piece of reversed characters, if there are any. -/
def literalOf (reversed : List Char) : List Segment :=
  if reversed.isEmpty then [] else [.literal (String.ofList reversed.reverse)]

/-- The pieces of the text `cs` at a byte position, after the reversed characters of a literal piece
that has not ended yet. -/
def splitFrom (position : Nat) (reversed : List Char) (cs : List Char) :
    Except LexError (List Segment) :=
  match cs with
  | [] => .ok (literalOf reversed)
  | '$' :: '\x7b' :: '\x7b' :: rest =>
    match _h : splitClosing false rest with
    | none => .error ⟨.unterminatedExpression, position⟩
    | some (body, after) =>
      match splitFrom (position + 5 + byteSize body) [] after with
      | .error e => .error e
      | .ok segments =>
        .ok (literalOf reversed ++
          .expression (String.ofList (Text.trimChars body)) :: segments)
  | c :: rest => splitFrom (position + c.utf8Size) (c :: reversed) rest
termination_by cs.length
decreasing_by
  · have := splitClosing_length _h; simp only [List.length_cons]; omega
  · simp only [List.length_cons]; omega

/-- The pieces of a template. -/
def split (template : String) : Except LexError (List Segment) :=
  splitFrom 0 [] template.toList

/-- The mark at which an expression starts. -/
def openMark : List Char := ['$', '\x7b', '\x7b']

/-- Does the text hold the mark of an expression? -/
def hasMark (text : String) : Bool :=
  containsChars openMark text.toList

/-- The text of a row of pieces. -/
def renderSegments (context : Context) : List Segment → Except EvalError String
  | [] => .ok ""
  | .literal text :: rest => do pure (text ++ (← renderSegments context rest))
  | .expression source :: rest => do
    let value ← evaluate source context
    pure (toText value ++ (← renderSegments context rest))

/-- The template with its expressions replaced by the texts of their values. -/
def interpolate (template : String) (context : Context) : Except EvalError String :=
  if hasMark template then
    match split template with
    | .error e => .error (.template e)
    | .ok segments => renderSegments context segments
  else .ok template

/-- Do all expressions of the pieces parse? -/
def checkSegments : List Segment → Except EvalError Unit
  | [] => .ok ()
  | .literal _ :: rest => checkSegments rest
  | .expression source :: rest =>
    match parse source with
    | .error e => .error (.parse e)
    | .ok _ => checkSegments rest

/-- Do all expressions of a template parse? -/
def checkTemplate (template : String) : Except EvalError Unit :=
  match split template with
  | .error e => .error (.template e)
  | .ok segments => checkSegments segments

/-- The body of a text that is one whole expression, and any other text without the blanks at its
ends. -/
def stripWrapper (text : String) : String :=
  let trimmed := Text.trimChars text.toList
  let body :=
    match trimmed with
    | '$' :: '\x7b' :: '\x7b' :: rest =>
      if ['\x7d', '\x7d'].isSuffixOf rest then
        let inner := rest.take (rest.length - 2)
        if containsChars openMark inner then none else some inner
      else none
    | _ => none
  match body with
  | some inner => String.ofList (Text.trimChars inner)
  | none => String.ofList trimmed

/-! ### Conditions -/

/-- The condition with `success()` in front, unless it asks for the status of the job itself. -/
def guardStatus (expr : Expr) : Expr :=
  if expr.hasStatusCheck then expr else .binary .and (.call "success" []) expr

/-- Does the condition of a step hold? No condition and an empty one ask for success. -/
def evaluateCondition (condition : Option String) (context : Context) : Except EvalError Bool :=
  let source := (condition.map stripWrapper).getD ""
  if source = "" then .ok context.job.succeeds
  else
    match parse source with
    | .error e => .error (.parse e)
    | .ok expr =>
      match (guardStatus expr).eval context with
      | .error e => .error e
      | .ok value => .ok (isTruthy value)

end Pipeline.Expression
