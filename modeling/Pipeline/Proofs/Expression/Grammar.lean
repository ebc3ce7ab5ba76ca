import Pipeline.Expression.Parser

/-! The grammar of expressions, and what the procedures of the parser do with the tokens before
them, one equation for each way they go. -/

namespace Pipeline.Expression

/-! ### The grammar -/

/-- The signs of the operators between two expressions. -/
inductive Sign : Level → Symbol → BinaryOp → Prop where
  | or : Sign .or .or .or
  | and : Sign .and .and .and
  | equal : Sign .equality .equal .equal
  | notEqual : Sign .equality .notEqual .notEqual
  | less : Sign .comparison .less .less
  | lessEqual : Sign .comparison .lessEqual .lessEqual
  | greater : Sign .comparison .greater .greater
  | greaterEqual : Sign .comparison .greaterEqual .greaterEqual

/-- The tokens that may name a property. -/
inductive Property : Token → String → Prop where
  | name (value : String) : Property (.name value) value
  | null : Property (.keyword .null) "null"
  | yes : Property (.keyword .yes) "true"
  | no : Property (.keyword .no) "false"

/-- The kinds of phrases. Those of a level have operators of that level or tighter ones outside
parentheses. -/
inductive Phrase where
  | level (level : Level)
  | unary
  | selection
  | primary

/-- The phrases between the operators of a level. -/
def Level.operand : Level → Phrase
  | or => .level .and
  | and => .level .equality
  | equality => .level .comparison
  | comparison => .unary

mutual

/-- The tokens are a phrase of a kind that stands for the expression:

* `or := and ('||' and)*`, and so on down to
  `comparison := unary (('<' | '<=' | '>' | '>=') unary)*`
* `unary := '!' unary | selection`
* `selection := primary ('.' name | '[' or ']')*`
* `primary := null | true | false | number | text | name | name '(' [or (',' or)*] ')' | '(' or ')'`

A repetition is read from the left: what stands before its last item is a phrase of the same
kind. -/
inductive Derives : Phrase → List Token → Expr → Prop where
  | operand {level : Level} {ts : List Token} {e : Expr} (h : Derives level.operand ts e) :
      Derives (.level level) ts e
  | binary {level : Level} {sign : Symbol} {op : BinaryOp} {ts us : List Token} {left right : Expr}
      (hleft : Derives (.level level) ts left) (hsign : Sign level sign op)
      (hright : Derives level.operand us right) :
      Derives (.level level) (ts ++ .symbol sign :: us) (.binary op left right)
  | not {ts : List Token} {e : Expr} (h : Derives .unary ts e) :
      Derives .unary (.symbol .not :: ts) (.not e)
  | positive {ts : List Token} {e : Expr} (h : Derives .selection ts e) : Derives .unary ts e
  | primary {ts : List Token} {e : Expr} (h : Derives .primary ts e) : Derives .selection ts e
  | member {ts : List Token} {e : Expr} {t : Token} {property : String}
      (h : Derives .selection ts e) (hproperty : Property t property) :
      Derives .selection (ts ++ [.symbol .dot, t]) (.member e property)
  | index {ts us : List Token} {e key : Expr} (h : Derives .selection ts e)
      (hkey : Derives (.level .or) us key) :
      Derives .selection (ts ++ .symbol .openBracket :: (us ++ [.symbol .closeBracket]))
        (.index e key)
  | null : Derives .primary [.keyword .null] .null
  | yes : Derives .primary [.keyword .yes] (.bool true)
  | no : Derives .primary [.keyword .no] (.bool false)
  | number (value : Double) : Derives .primary [.number value] (.number value)
  | text (value : String) : Derives .primary [.text value] (.text value)
  | context (name : String) : Derives .primary [.name name] (.context name)
  | callEmpty (name : String) :
      Derives .primary [.name name, .symbol .openParen, .symbol .closeParen] (.call name [])
  | call (name : String) {ts : List Token} {args : List Expr} (h : DerivesArguments ts args) :
      Derives .primary (.name name :: .symbol .openParen :: (ts ++ [.symbol .closeParen]))
        (.call name args)
  | parens {ts : List Token} {e : Expr} (h : Derives (.level .or) ts e) :
      Derives .primary (.symbol .openParen :: (ts ++ [.symbol .closeParen])) e

/-- The tokens are expressions with commas between them. -/
inductive DerivesArguments : List Token → List Expr → Prop where
  | last {ts : List Token} {e : Expr} (h : Derives (.level .or) ts e) : DerivesArguments ts [e]
  | next {ts us : List Token} {e : Expr} {args : List Expr} (h : Derives (.level .or) ts e)
      (hrest : DerivesArguments us args) :
      DerivesArguments (ts ++ .symbol .comma :: us) (e :: args)

end

variable {level : Level} {t : Token} {op : BinaryOp} {property : String}

theorem operator?_eq_some_iff :
    level.operator? t = some op ↔ ∃ sign, t = .symbol sign ∧ Sign level sign op := by
  constructor
  · intro h
    unfold Level.operator? at h
    split at h <;> cases h <;> exact ⟨_, rfl, by constructor⟩
  · rintro ⟨sign, rfl, h⟩
    cases h <;> rfl

theorem propertyName?_eq_some_iff : propertyName? t = some property ↔ Property t property := by
  constructor
  · intro h
    unfold propertyName? at h
    split at h
    · cases h
      exact .name _
    · next word =>
      cases h
      cases word with
      | null => exact .null
      | yes => exact .yes
      | no => exact .no
    · cases h
  · intro h
    cases h <;> rfl

/-! ### What the parser reads -/

section Reading

variable {α : Type} {p : List Token → Prop} {left object : Expr} {ts rest : List Token}

/-- What was read and the tokens after it, without the bound on their number. -/
def bare (parsed : Except Failure (α × { rest : List Token // p rest })) :
    Except Failure (α × List Token) :=
  parsed.map fun read => (read.1, read.2.val)

def readChain (level : Level) (left : Expr) (ts : List Token) :
    Except Failure (Expr × List Token) :=
  bare (parseChain level left ts)

def readAccess (object : Expr) (ts : List Token) : Except Failure (Expr × List Token) :=
  bare (parseAccess object ts)

def readArguments (ts : List Token) : Except Failure (List Expr × List Token) :=
  bare (parseArguments ts)

/-- Reads a phrase at the front of the tokens. -/
def Phrase.read : Phrase → List Token → Except Failure (Expr × List Token)
  | .level level, ts => bare (parseLevel level ts)
  | .unary, ts => bare (parseUnary ts)
  | .selection, ts => (bare (parsePrimary ts)).bind fun read => readAccess read.1 read.2
  | .primary, ts => bare (parsePrimary ts)

theorem readSelection (ts : List Token) : Phrase.selection.read ts =
    (Phrase.primary.read ts).bind fun read => readAccess read.1 read.2 := rfl

theorem operand_of_tighter? {next : Level} (h : level.tighter? = some next) :
    level.operand = .level next := by
  cases level <;> cases h <;> rfl

theorem operand_of_tightest (h : level.tighter? = none) : level.operand = .unary := by
  cases level <;> cases h
  rfl

theorem readLevel (level : Level) (ts : List Token) : (Phrase.level level).read ts =
    (level.operand.read ts).bind fun read => readChain level read.1 read.2 := by
  rw [Phrase.read, parseLevel]
  split
  · next next htighter =>
    rw [operand_of_tighter? htighter, Phrase.read]
    rcases parseLevel next ts with e | ⟨left, rest, hrest⟩
    · rfl
    · dsimp only [bare, Except.map, Except.bind, readChain]
      rcases parseChain level left rest with e | ⟨expr, rest', hrest'⟩ <;> rfl
  · next htighter =>
    rw [operand_of_tightest htighter, Phrase.read]
    rcases parseUnary ts with e | ⟨left, rest, hrest⟩
    · rfl
    · dsimp only [bare, Except.map, Except.bind, readChain]
      rcases parseChain level left rest with e | ⟨expr, rest', hrest'⟩ <;> rfl

theorem readChain_nil (level : Level) (left : Expr) : readChain level left [] = .ok (left, []) := by
  rw [readChain, parseChain]
  rfl

theorem readChain_none (h : level.operator? t = none) :
    readChain level left (t :: ts) = .ok (left, t :: ts) := by
  rw [readChain, parseChain]
  split
  · rfl
  · next hsome => rw [h] at hsome; cases hsome

theorem readChain_some (h : level.operator? t = some op) :
    readChain level left (t :: ts) = (level.operand.read ts).bind fun read =>
      readChain level (.binary op left read.1) read.2 := by
  rw [readChain, parseChain]
  split
  · next hnone =>
    rw [h] at hnone
    cases hnone
  · next hsome =>
    cases h.symm.trans hsome
    cases htighter : level.tighter? with
    | some next =>
      rw [operand_of_tighter? htighter, Phrase.read]
      dsimp only
      rcases parseLevel next ts with e | ⟨right, rest, hrest⟩
      · rfl
      · dsimp only [bare, Except.map, Except.bind, readChain]
        rcases parseChain level (.binary op left right) rest with e | ⟨expr, rest', hrest'⟩ <;> rfl
    | none =>
      rw [operand_of_tightest htighter, Phrase.read]
      dsimp only
      rcases parseUnary ts with e | ⟨right, rest, hrest⟩
      · rfl
      · dsimp only [bare, Except.map, Except.bind, readChain]
        rcases parseChain level (.binary op left right) rest with e | ⟨expr, rest', hrest'⟩ <;> rfl

theorem readUnary_not (ts : List Token) : Phrase.unary.read (.symbol .not :: ts) =
    (Phrase.unary.read ts).map fun read => (.not read.1, read.2) := by
  simp only [Phrase.read]
  rw [parseUnary]
  rcases parseUnary ts with e | ⟨inner, rest, hrest⟩ <;> rfl

theorem readUnary (h : ts.head? ≠ some (.symbol .not)) :
    Phrase.unary.read ts = Phrase.selection.read ts := by
  simp only [Phrase.read]
  rw [parseUnary]
  · rcases parsePrimary ts with e | ⟨object, rest, hrest⟩
    · rfl
    · dsimp only [bare, Except.map, Except.bind, readAccess]
      rcases parseAccess object rest with e | ⟨expr, rest', hrest'⟩ <;> rfl
  · rintro rest rfl
    exact h rfl

/-- The tokens after a sign, if they start with it. -/
def skip? (symbol : Symbol) (ts : List Token) : Option (List Token) :=
  (afterSymbol? symbol ts).map Subtype.val

theorem skip?_eq_some_iff {symbol : Symbol} :
    skip? symbol ts = some rest ↔ ts = .symbol symbol :: rest := by
  cases ts with
  | nil => simp [skip?, afterSymbol?]
  | cons t ts =>
    by_cases h : t = .symbol symbol <;> simp [skip?, afterSymbol?, h]

theorem skip?_eq_none_iff {symbol : Symbol} :
    skip? symbol ts = none ↔ ts.head? ≠ some (.symbol symbol) := by
  rw [Option.eq_none_iff_forall_ne_some]
  simp only [ne_eq, skip?_eq_some_iff, List.head?_eq_some_iff, not_exists]

theorem readAccess_dot (h : propertyName? t = some property) :
    readAccess object (.symbol .dot :: t :: ts) = readAccess (.member object property) ts := by
  rw [readAccess, parseAccess]
  simp only [h]
  rw [readAccess]
  rcases parseAccess (.member object property) ts with e | ⟨expr, rest, hrest⟩ <;> rfl

theorem readAccess_dot_nil (object : Expr) :
    readAccess object [.symbol .dot] = .error (failAt [] .expectedProperty) := by
  rw [readAccess, parseAccess]
  rfl

theorem readAccess_dot_none (h : propertyName? t = none) :
    readAccess object (.symbol .dot :: t :: ts) =
      .error (failAt (t :: ts) .expectedProperty) := by
  rw [readAccess, parseAccess]
  simp only [h]
  rfl

theorem readAccess_bracket (object : Expr) (ts : List Token) :
    readAccess object (.symbol .openBracket :: ts) =
      ((Phrase.level .or).read ts).bind fun read =>
        match skip? .closeBracket read.2 with
        | none => .error (failBefore read.2 .expectedBracket)
        | some after => readAccess (.index object read.1) after := by
  rw [readAccess, parseAccess, Phrase.read]
  rcases parseLevel .or ts with e | ⟨key, rest, hrest⟩
  · rfl
  · dsimp only [bare, Except.map, Except.bind, skip?, readAccess]
    rcases afterSymbol? .closeBracket rest with _ | ⟨after, hafter⟩
    · rfl
    · dsimp only [Option.map]
      rcases parseAccess (.index object key) after with e | ⟨expr, rest', hrest'⟩ <;> rfl

theorem readAccess_other (hdot : ts.head? ≠ some (.symbol .dot))
    (hbracket : ts.head? ≠ some (.symbol .openBracket)) :
    readAccess object ts = .ok (object, ts) := by
  rw [readAccess, parseAccess]
  · rfl
  · rintro rest rfl
    exact hdot rfl
  · rintro rest rfl
    exact hbracket rfl

theorem readPrimary_parens (ts : List Token) : Phrase.primary.read (.symbol .openParen :: ts) =
    ((Phrase.level .or).read ts).bind fun read =>
      match skip? .closeParen read.2 with
      | none => .error (failBefore read.2 .expectedParen)
      | some after => .ok (read.1, after) := by
  simp only [Phrase.read]
  rw [parsePrimary]
  rcases parseLevel .or ts with e | ⟨inner, rest, hrest⟩
  · rfl
  · dsimp only [bare, Except.map, Except.bind, skip?]
    rcases afterSymbol? .closeParen rest with _ | ⟨after, hafter⟩ <;> rfl

theorem readPrimary_name (name : String) (ts : List Token) :
    Phrase.primary.read (.name name :: ts) =
      match skip? .openParen ts with
      | none => .ok (.context name, ts)
      | some inside =>
        match skip? .closeParen inside with
        | some after => .ok (.call name [], after)
        | none => (readArguments inside).map fun read => (.call name read.1, read.2) := by
  rw [Phrase.read, parsePrimary]
  dsimp only [skip?, readArguments]
  rcases afterSymbol? .openParen ts with _ | ⟨inside, hinside⟩
  · rfl
  · dsimp only [Option.map]
    rcases afterSymbol? .closeParen inside with _ | ⟨after, hafter⟩
    · rcases parseArguments inside with e | ⟨args, rest, hrest⟩ <;> rfl
    · rfl

theorem readPrimary_nil : Phrase.primary.read [] = .error (failAt [] .unexpected) := by
  rw [Phrase.read, parsePrimary]
  rfl

theorem readPrimary_symbol {sign : Symbol} (h : sign ≠ .openParen) (ts : List Token) :
    Phrase.primary.read (.symbol sign :: ts) =
      .error (failAt (.symbol sign :: ts) .unexpected) := by
  rw [Phrase.read, parsePrimary]
  · rfl
  · rintro rfl
    exact h rfl

theorem readArguments_eq (ts : List Token) : readArguments ts =
    ((Phrase.level .or).read ts).bind fun read =>
      match skip? .closeParen read.2 with
      | some after => .ok ([read.1], after)
      | none =>
        match skip? .comma read.2 with
        | none => .error (failAt read.2 .expectedArgumentEnd)
        | some after => (readArguments after).map fun others => (read.1 :: others.1, others.2) := by
  rw [readArguments, parseArguments, Phrase.read]
  rcases parseLevel .or ts with e | ⟨arg, rest, hrest⟩
  · rfl
  · dsimp only [bare, Except.map, Except.bind, skip?, readArguments]
    rcases afterSymbol? .closeParen rest with _ | ⟨after, hafter⟩
    · dsimp only [Option.map]
      rcases afterSymbol? .comma rest with _ | ⟨after, hafter⟩
      · rfl
      · dsimp only [Option.map]
        rcases parseArguments after with e | ⟨args, rest', hrest'⟩ <;> rfl
    · rfl

theorem bind_eq_ok_iff {β : Type} {x : Except Failure α} {f : α → Except Failure β} {b : β} :
    x.bind f = .ok b ↔ ∃ a, x = .ok a ∧ f a = .ok b := by
  cases x with
  | error e => simp [Except.bind]
  | ok a => simp [Except.bind]

theorem map_eq_ok_iff {β : Type} {x : Except Failure α} {f : α → β} {b : β} :
    x.map f = .ok b ↔ ∃ a, x = .ok a ∧ f a = b := by
  cases x with
  | error e => simp [Except.map]
  | ok a => simp [Except.map]

theorem of_bare_eq_ok {parsed : Except Failure (α × { rest : List Token // p rest })} {a : α}
    (h : bare parsed = .ok (a, rest)) : p rest := by
  obtain ⟨⟨found, after⟩, -, heq⟩ := map_eq_ok_iff.mp h
  cases heq
  exact after.property

/-- Reading a phrase takes at least one token. -/
theorem length_of_read {phrase : Phrase} {e : Expr} (h : phrase.read ts = .ok (e, rest)) :
    rest.length < ts.length := by
  cases phrase with
  | level level => exact of_bare_eq_ok h
  | unary => exact of_bare_eq_ok h
  | primary => exact of_bare_eq_ok h
  | selection =>
    obtain ⟨⟨object, mid⟩, hprimary, haccess⟩ := bind_eq_ok_iff.mp h
    exact Nat.lt_of_le_of_lt (of_bare_eq_ok haccess) (of_bare_eq_ok hprimary)

end Reading

end Pipeline.Expression
