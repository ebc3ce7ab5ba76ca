import Pipeline.Expression.Lexer
import Pipeline.Expression.Syntax

/-! From tokens to an expression. From the loosest to the tightest the operators are `||`, `&&`,
equality, comparison, `!` and access by `.` and `[]`; operators of one level associate to the
left. -/

namespace Pipeline.Expression

/-- Why a row of tokens is no expression. -/
inductive ParseCause where
  | lexical (cause : LexCause)
  | unexpected (found : String)
  | expectedProperty (found : String)
  | expectedBracket
  | expectedParen
  | expectedArgumentEnd (found : String)
  deriving Repr, DecidableEq

/-- The wording of a failure. -/
def ParseCause.message : ParseCause → String
  | lexical cause => cause.message
  | unexpected found => "unexpected token '" ++ found ++ "'"
  | expectedProperty found => "expected property name after '.', found '" ++ found ++ "'"
  | expectedBracket => "expected ']'"
  | expectedParen => "expected ')'"
  | expectedArgumentEnd found =>
    "expected ',' or ')' in argument list, found '" ++ found ++ "'"

/-- A failure and its place: the number of tokens taken so far, or the byte position of a failure to
read tokens. -/
structure ParseError where
  cause : ParseCause
  position : Nat
  deriving Repr, DecidableEq

/-- The wording of a failure with its place. -/
def ParseError.message (e : ParseError) : String :=
  "parse error at token " ++ toString e.position ++ ": " ++ e.cause.message

/-- A failure while tokens are left: `unread` counts them, with one more for the end of the text
until that has been taken too. -/
structure Failure where
  cause : ParseCause
  unread : Nat
  deriving Repr, DecidableEq

/-- What is left of a row of tokens after an expression. -/
abbrev Remaining (ts : List Token) := { rest : List Token // rest.length < ts.length }

/-- The result of reading an expression, and the tokens after it. -/
abbrev Parsed (α : Type) (ts : List Token) := Except Failure (α × Remaining ts)

/-- The levels of the operators between two expressions, by how tightly they bind. -/
inductive Level where
  | or
  | and
  | equality
  | comparison
  deriving Repr, DecidableEq

namespace Level

/-- The level that binds more tightly, if there is one. -/
def tighter? : Level → Option Level
  | or => some and
  | and => some equality
  | equality => some comparison
  | comparison => none

/-- How many levels bind more tightly. -/
def rank : Level → Nat
  | or => 3
  | and => 2
  | equality => 1
  | comparison => 0

theorem rank_lt_of_tighter? {level next : Level} (h : level.tighter? = some next) :
    next.rank < level.rank := by
  cases level <;> cases h <;> decide

/-- The operator of this level that a token stands for. -/
def operator? : Level → Token → Option BinaryOp
  | or, .symbol .or => some .or
  | and, .symbol .and => some .and
  | equality, .symbol .equal => some .equal
  | equality, .symbol .notEqual => some .notEqual
  | comparison, .symbol .less => some .less
  | comparison, .symbol .lessEqual => some .lessEqual
  | comparison, .symbol .greater => some .greater
  | comparison, .symbol .greaterEqual => some .greaterEqual
  | _, _ => none

end Level

/-- The name that may follow a point: a name or a keyword. -/
def propertyName? : Token → Option String
  | .name value => some value
  | .keyword word => some word.render
  | _ => none

/-- The tokens after a sign, if they start with it. -/
def afterSymbol? (symbol : Symbol) : (ts : List Token) → Option (Remaining ts)
  | [] => none
  | t :: rest => if t = .symbol symbol then some ⟨rest, Nat.lt_succ_self _⟩ else none

/-- The failure at a token that does not fit, after it has been taken. -/
def failAt (ts : List Token) (cause : String → ParseCause) : Failure :=
  ⟨cause (renderFront ts), ts.length⟩

/-- The failure at a missing token; what stands there is not taken. -/
def failBefore (ts : List Token) (cause : ParseCause) : Failure :=
  ⟨cause, ts.length + 1⟩

mutual

/-- An expression whose operators bind at least as tightly as a level. -/
def parseLevel (level : Level) (ts : List Token) : Parsed Expr ts :=
  match h : level.tighter? with
  | some next =>
    match parseLevel next ts with
    | .error e => .error e
    | .ok (left, ⟨rest, hrest⟩) =>
      match parseChain level left rest with
      | .error e => .error e
      | .ok (expr, ⟨rest', hrest'⟩) => .ok (expr, ⟨rest', by omega⟩)
  | none =>
    match parseUnary ts with
    | .error e => .error e
    | .ok (left, ⟨rest, hrest⟩) =>
      match parseChain level left rest with
      | .error e => .error e
      | .ok (expr, ⟨rest', hrest'⟩) => .ok (expr, ⟨rest', by omega⟩)
termination_by (ts.length, level.rank + 3)
decreasing_by
  · exact Prod.Lex.right _ (by have := Level.rank_lt_of_tighter? h; omega)
  · exact Prod.Lex.left _ _ hrest
  · exact Prod.Lex.right _ (by omega)
  · exact Prod.Lex.left _ _ hrest

/-- The operators of a level and their right sides, after a left side. -/
def parseChain (level : Level) (left : Expr) (ts : List Token) :
    Except Failure (Expr × { rest : List Token // rest.length ≤ ts.length }) :=
  match ts with
  | [] => .ok (left, ⟨[], Nat.le_refl _⟩)
  | t :: ts =>
    match level.operator? t with
    | none => .ok (left, ⟨t :: ts, Nat.le_refl _⟩)
    | some op =>
      let right : Parsed Expr ts :=
        match level.tighter? with
        | some next => parseLevel next ts
        | none => parseUnary ts
      match right with
      | .error e => .error e
      | .ok (right, ⟨rest, hrest⟩) =>
        match parseChain level (.binary op left right) rest with
        | .error e => .error e
        | .ok (expr, ⟨rest', hrest'⟩) =>
          .ok (expr, ⟨rest', by simp only [List.length_cons]; omega⟩)
termination_by (ts.length, 0)
decreasing_by
  all_goals exact Prod.Lex.left _ _ (by simp only [List.length_cons]; omega)

/-- An expression that starts with `!`, or one without operators in front. -/
def parseUnary (ts : List Token) : Parsed Expr ts :=
  match ts with
  | .symbol .not :: ts =>
    match parseUnary ts with
    | .error e => .error e
    | .ok (inner, ⟨rest, hrest⟩) => .ok (.not inner, ⟨rest, by simp only [List.length_cons]; omega⟩)
  | ts =>
    match parsePrimary ts with
    | .error e => .error e
    | .ok (object, ⟨rest, hrest⟩) =>
      match parseAccess object rest with
      | .error e => .error e
      | .ok (expr, ⟨rest', hrest'⟩) => .ok (expr, ⟨rest', by omega⟩)
termination_by (ts.length, 2)
decreasing_by
  · exact Prod.Lex.left _ _ (by simp only [List.length_cons]; omega)
  · exact Prod.Lex.right _ (by omega)
  · exact Prod.Lex.left _ _ hrest

/-- The accesses that follow an expression. -/
def parseAccess (object : Expr) (ts : List Token) :
    Except Failure (Expr × { rest : List Token // rest.length ≤ ts.length }) :=
  match ts with
  | .symbol .dot :: ts =>
    match ts with
    | [] => .error (failAt [] .expectedProperty)
    | t :: ts =>
      match propertyName? t with
      | none => .error (failAt (t :: ts) .expectedProperty)
      | some property =>
        match parseAccess (.member object property) ts with
        | .error e => .error e
        | .ok (expr, ⟨rest, hrest⟩) => .ok (expr, ⟨rest, by simp only [List.length_cons]; omega⟩)
  | .symbol .openBracket :: ts =>
    match parseLevel .or ts with
    | .error e => .error e
    | .ok (key, ⟨rest, hrest⟩) =>
      match afterSymbol? .closeBracket rest with
      | none => .error (failBefore rest .expectedBracket)
      | some ⟨after, hafter⟩ =>
        match parseAccess (.index object key) after with
        | .error e => .error e
        | .ok (expr, ⟨rest', hrest'⟩) =>
          .ok (expr, ⟨rest', by simp only [List.length_cons]; omega⟩)
  | ts => .ok (object, ⟨ts, Nat.le_refl _⟩)
termination_by (ts.length, 0)
decreasing_by
  all_goals exact Prod.Lex.left _ _ (by simp only [List.length_cons] at *; omega)

/-- A literal, a context, a call or an expression in parentheses. -/
def parsePrimary (ts : List Token) : Parsed Expr ts :=
  match ts with
  | [] => .error (failAt [] .unexpected)
  | .keyword .null :: ts => .ok (.null, ⟨ts, Nat.lt_succ_self _⟩)
  | .keyword .yes :: ts => .ok (.bool true, ⟨ts, Nat.lt_succ_self _⟩)
  | .keyword .no :: ts => .ok (.bool false, ⟨ts, Nat.lt_succ_self _⟩)
  | .number value :: ts => .ok (.number value, ⟨ts, Nat.lt_succ_self _⟩)
  | .text value :: ts => .ok (.text value, ⟨ts, Nat.lt_succ_self _⟩)
  | .symbol .openParen :: ts =>
    match parseLevel .or ts with
    | .error e => .error e
    | .ok (inner, ⟨rest, hrest⟩) =>
      match afterSymbol? .closeParen rest with
      | none => .error (failBefore rest .expectedParen)
      | some ⟨after, hafter⟩ =>
        .ok (inner, ⟨after, by simp only [List.length_cons]; omega⟩)
  | .name name :: ts =>
    match afterSymbol? .openParen ts with
    | none => .ok (.context name, ⟨ts, Nat.lt_succ_self _⟩)
    | some ⟨inside, hinside⟩ =>
      match afterSymbol? .closeParen inside with
      | some ⟨after, hafter⟩ =>
        .ok (.call name [], ⟨after, by simp only [List.length_cons]; omega⟩)
      | none =>
        match parseArguments inside with
        | .error e => .error e
        | .ok (args, ⟨rest, hrest⟩) =>
          .ok (.call name args, ⟨rest, by simp only [List.length_cons]; omega⟩)
  | .symbol found :: ts => .error (failAt (.symbol found :: ts) .unexpected)
termination_by (ts.length, 1)
decreasing_by
  all_goals exact Prod.Lex.left _ _ (by simp only [List.length_cons]; omega)

/-- One argument or more, up to the closing parenthesis. -/
def parseArguments (ts : List Token) : Parsed (List Expr) ts :=
  match parseLevel .or ts with
  | .error e => .error e
  | .ok (arg, ⟨rest, hrest⟩) =>
    match afterSymbol? .closeParen rest with
    | some ⟨after, hafter⟩ => .ok ([arg], ⟨after, by omega⟩)
    | none =>
      match afterSymbol? .comma rest with
      | none => .error (failAt rest .expectedArgumentEnd)
      | some ⟨after, hafter⟩ =>
        match parseArguments after with
        | .error e => .error e
        | .ok (args, ⟨rest', hrest'⟩) => .ok (arg :: args, ⟨rest', by omega⟩)
termination_by (ts.length, 7)
decreasing_by
  · exact Prod.Lex.right _ (by decide)
  · exact Prod.Lex.left _ _ (by omega)

end

/-- Reads a whole row of tokens as one expression. -/
def parseTokens (ts : List Token) : Except ParseError Expr :=
  match parseLevel .or ts with
  | .error e => .error ⟨e.cause, ts.length + 1 - e.unread⟩
  | .ok (expr, ⟨[], _⟩) => .ok expr
  | .ok (_, ⟨t :: rest, _⟩) =>
    .error ⟨.unexpected (renderFront (t :: rest)), ts.length - (t :: rest).length⟩

/-- Reads a text as one expression. -/
def parse (text : String) : Except ParseError Expr :=
  match tokenize text with
  | .error e => .error ⟨.lexical e.cause, e.position⟩
  | .ok ts => parseTokens ts

end Pipeline.Expression
