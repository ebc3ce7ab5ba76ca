import Mathlib.Logic.ExistsUnique
import Pipeline.Proofs.Expression.Grammar

/-! The parser accepts the phrases of the grammar and no other tokens, and gives the one expression
that the grammar gives them. -/

namespace Pipeline.Expression

/-! ### What is read is a phrase -/

def Phrase.rank : Phrase → Nat
  | .primary => 0
  | .selection => 1
  | .unary => 2
  | .level tier => tier.rank + 3

theorem Phrase.rank_lt (phrase : Phrase) : phrase.rank < 7 := by
  cases phrase with
  | level tier => cases tier <;> decide
  | _ => decide

theorem Level.rank_operand_lt (level : Level) : level.operand.rank < (Phrase.level level).rank := by
  cases level <;> decide

mutual

-- The recursion is the parser's own: on the tokens that are left, and then on the kind of phrase.
theorem derives_of_read {phrase : Phrase} {ts rest : List Token} {e : Expr}
    (h : phrase.read ts = .ok (e, rest)) : ∃ used, ts = used ++ rest ∧ Derives phrase used e := by
  match phrase with
  | .level level =>
    rw [readLevel] at h
    obtain ⟨⟨left, mid⟩, hleft, hchain⟩ := bind_eq_ok_iff.mp h
    have hlength := length_of_read hleft
    have hrank := level.rank_operand_lt
    obtain ⟨before, hts, hbefore⟩ := derives_of_read hleft
    obtain ⟨used, rfl, hused⟩ := derives_of_chain (.operand hbefore) hchain
    exact ⟨before ++ used, by rw [hts, List.append_assoc], hused⟩
  | .unary =>
    by_cases hnot : ts.head? = some (.symbol .not)
    · obtain ⟨inside, hts⟩ := List.head?_eq_some_iff.mp hnot
      have hlength : ts.length = inside.length + 1 := by rw [hts, List.length_cons]
      rw [hts, readUnary_not] at h
      obtain ⟨⟨inner, mid⟩, hinner, heq⟩ := map_eq_ok_iff.mp h
      cases heq
      obtain ⟨used, rfl, hused⟩ := derives_of_read hinner
      exact ⟨.symbol .not :: used, hts, .not hused⟩
    · rw [readUnary hnot] at h
      obtain ⟨used, hts, hused⟩ := derives_of_read h
      exact ⟨used, hts, .positive hused⟩
  | .selection =>
    rw [readSelection] at h
    obtain ⟨⟨object, mid⟩, hobject, haccess⟩ := bind_eq_ok_iff.mp h
    have hlength := length_of_read hobject
    obtain ⟨before, hts, hbefore⟩ := derives_of_read hobject
    obtain ⟨used, rfl, hused⟩ := derives_of_access (.primary hbefore) haccess
    exact ⟨before ++ used, by rw [hts, List.append_assoc], hused⟩
  | .primary =>
    match ts with
    | [] =>
      rw [readPrimary_nil] at h
      cases h
    | .keyword .null :: ts | .keyword .yes :: ts | .keyword .no :: ts | .number value :: ts
    | .text value :: ts =>
      rw [Phrase.read, parsePrimary] at h
      cases h
      exact ⟨[_], rfl, by constructor⟩
    | .name name :: ts =>
      rw [readPrimary_name] at h
      split at h
      · cases h
        exact ⟨_, rfl, .context name⟩
      · next inside hinside =>
        rw [skip?_eq_some_iff] at hinside
        have hlength : ts.length = inside.length + 1 := by rw [hinside, List.length_cons]
        split at h
        · next after hafter =>
          cases h
          rw [skip?_eq_some_iff] at hafter
          exact ⟨_, by rw [hinside, hafter]; rfl, .callEmpty name⟩
        · obtain ⟨⟨args, mid⟩, hargs, heq⟩ := map_eq_ok_iff.mp h
          cases heq
          obtain ⟨used, hused, hderives⟩ := derives_of_arguments hargs
          exact ⟨_, by rw [hinside, hused]; simp, .call name hderives⟩
    | .symbol sign :: inside =>
      by_cases hsign : sign = .openParen
      · subst hsign
        rw [readPrimary_parens] at h
        obtain ⟨⟨inner, mid⟩, hinner, hclose⟩ := bind_eq_ok_iff.mp h
        obtain ⟨used, hinside, hused⟩ := derives_of_read hinner
        dsimp only at hclose
        split at hclose
        · cases hclose
        · next after hafter =>
          cases hclose
          rw [skip?_eq_some_iff] at hafter
          exact ⟨_, by rw [hinside, hafter]; simp, .parens hused⟩
      · rw [readPrimary_symbol hsign] at h
        cases h
termination_by 10 * ts.length + phrase.rank
decreasing_by all_goals grind [Phrase.rank, Level.rank]

theorem derives_of_chain {level : Level} {before ts rest : List Token} {left e : Expr}
    (hleft : Derives (.level level) before left) (h : readChain level left ts = .ok (e, rest)) :
    ∃ used, ts = used ++ rest ∧ Derives (.level level) (before ++ used) e := by
  match ts with
  | [] =>
    rw [readChain_nil] at h
    cases h
    exact ⟨[], rfl, by rwa [List.append_nil]⟩
  | t :: ts =>
    cases hoperator : level.operator? t with
    | none =>
      rw [readChain_none hoperator] at h
      cases h
      exact ⟨[], rfl, by rwa [List.append_nil]⟩
    | some op =>
      rw [readChain_some hoperator] at h
      obtain ⟨sign, rfl, hsign⟩ := operator?_eq_some_iff.mp hoperator
      obtain ⟨⟨right, mid⟩, hright, hchain⟩ := bind_eq_ok_iff.mp h
      have hlength := length_of_read hright
      have hrank := level.operand.rank_lt
      obtain ⟨between, hts, hbetween⟩ := derives_of_read hright
      obtain ⟨used, rfl, hused⟩ := derives_of_chain (.binary hleft hsign hbetween) hchain
      exact ⟨.symbol sign :: between ++ used, by rw [hts]; simp, by simpa using hused⟩
termination_by 10 * ts.length
decreasing_by all_goals simp only [List.length_cons]; omega

theorem derives_of_access {before ts rest : List Token} {object e : Expr}
    (hobject : Derives .selection before object) (h : readAccess object ts = .ok (e, rest)) :
    ∃ used, ts = used ++ rest ∧ Derives .selection (before ++ used) e := by
  by_cases hdot : ts.head? = some (.symbol .dot)
  · obtain ⟨named, hts⟩ := List.head?_eq_some_iff.mp hdot
    rw [hts] at h
    cases named with
    | nil =>
      rw [readAccess_dot_nil] at h
      cases h
    | cons t after =>
      have hlength : ts.length = after.length + 2 := by rw [hts]; rfl
      cases hname : propertyName? t with
      | none =>
        rw [readAccess_dot_none hname] at h
        cases h
      | some property =>
        rw [readAccess_dot hname] at h
        have hproperty := propertyName?_eq_some_iff.mp hname
        obtain ⟨used, rfl, hused⟩ := derives_of_access (.member hobject hproperty) h
        exact ⟨.symbol .dot :: t :: used, hts, by simpa using hused⟩
  by_cases hbracket : ts.head? = some (.symbol .openBracket)
  · obtain ⟨inside, hts⟩ := List.head?_eq_some_iff.mp hbracket
    have hlength : ts.length = inside.length + 1 := by rw [hts]; rfl
    rw [hts, readAccess_bracket] at h
    obtain ⟨⟨key, mid⟩, hkey, hclose⟩ := bind_eq_ok_iff.mp h
    have hshorter := length_of_read hkey
    obtain ⟨between, hinside, hbetween⟩ := derives_of_read hkey
    dsimp only at hclose
    split at hclose
    · cases hclose
    · next after hafter =>
      rw [skip?_eq_some_iff] at hafter
      have hbehind : mid.length = after.length + 1 := by rw [hafter]; rfl
      obtain ⟨used, rfl, hused⟩ := derives_of_access (.index hobject hbetween) hclose
      exact ⟨.symbol .openBracket :: (between ++ .symbol .closeBracket :: used),
        by rw [hts, hinside, hafter]; simp, by simpa using hused⟩
  · rw [readAccess_other hdot hbracket] at h
    cases h
    exact ⟨[], rfl, by rwa [List.append_nil]⟩
termination_by 10 * ts.length
decreasing_by all_goals grind [Phrase.rank, Level.rank]

theorem derives_of_arguments {ts rest : List Token} {args : List Expr}
    (h : readArguments ts = .ok (args, rest)) :
    ∃ used, ts = used ++ .symbol .closeParen :: rest ∧ DerivesArguments used args := by
  rw [readArguments_eq] at h
  obtain ⟨⟨arg, mid⟩, harg, hend⟩ := bind_eq_ok_iff.mp h
  have hlength := length_of_read harg
  obtain ⟨before, hts, hbefore⟩ := derives_of_read harg
  dsimp only at hend
  split at hend
  · next after hafter =>
    cases hend
    rw [skip?_eq_some_iff] at hafter
    exact ⟨before, by rw [hts, hafter], .last hbefore⟩
  · split at hend
    · cases hend
    · next after hafter =>
      rw [skip?_eq_some_iff] at hafter
      have hshorter : mid.length = after.length + 1 := by rw [hafter, List.length_cons]
      obtain ⟨⟨others, rest'⟩, hothers, heq⟩ := map_eq_ok_iff.mp hend
      cases heq
      obtain ⟨used, hused, hderives⟩ := derives_of_arguments hothers
      exact ⟨before ++ .symbol .comma :: used, by rw [hts, hafter, hused]; simp,
        .next hbefore hderives⟩
termination_by 10 * ts.length + 7
decreasing_by all_goals grind [Phrase.rank, Level.rank]

end

/-! ### A phrase is read -/

/-- The signs of the operators of a level and of tighter ones. -/
def Level.signs : Level → List Symbol
  | comparison => [.less, .lessEqual, .greater, .greaterEqual]
  | equality => [.equal, .notEqual, .less, .lessEqual, .greater, .greaterEqual]
  | and => [.and, .equal, .notEqual, .less, .lessEqual, .greater, .greaterEqual]
  | or => [.or, .and, .equal, .notEqual, .less, .lessEqual, .greater, .greaterEqual]

/-- The signs that go on with a phrase they stand behind. -/
def Phrase.onwards : Phrase → List Symbol
  | .primary => [.openParen]
  | .selection | .unary => [.openParen, .dot, .openBracket]
  | .level tier => [.openParen, .dot, .openBracket] ++ tier.signs

/-- A phrase does not go on into the tokens. -/
def Stops (phrase : Phrase) (rest : List Token) : Prop :=
  ∀ sign ∈ phrase.onwards, rest.head? ≠ some (.symbol sign)

/-- What is read once a phrase has been. -/
def Phrase.goOn : Phrase → Expr → List Token → Except Failure (Expr × List Token)
  | .level tier, e, rest => readChain tier e rest
  | .selection, e, rest => readAccess e rest
  | .unary, e, rest | .primary, e, rest => .ok (e, rest)

/-- The kind of the last part of a phrase. -/
def Phrase.last : Phrase → Phrase
  | .level tier => tier.operand
  | .selection => .primary
  | .unary => .unary
  | .primary => .primary

section Stops

variable {phrase : Phrase} {level : Level} {sign : Symbol} {op : BinaryOp} {ts rest : List Token}
  {e : Expr}

theorem stops_nil (phrase : Phrase) : Stops phrase [] :=
  fun _ _ => nofun

theorem stops_cons (h : sign ∉ phrase.onwards) (rest : List Token) :
    Stops phrase (.symbol sign :: rest) := by
  rintro other hother heq
  cases heq
  exact h hother

theorem stops_closing (phrase : Phrase) (rest : List Token)
    (h : sign ∈ [Symbol.closeParen, .closeBracket, .comma]) :
    Stops phrase (.symbol sign :: rest) := by
  refine stops_cons (fun hmem => ?_) rest
  cases phrase with
  | level tier => cases tier <;> revert sign <;> decide
  | _ => revert sign; decide

theorem stops_sign (h : Sign level sign op) (rest : List Token) :
    Stops level.operand (.symbol sign :: rest) := by
  refine stops_cons ?_ rest
  cases h <;> decide

theorem Stops.last (h : Stops phrase rest) : Stops phrase.last rest := by
  intro sign hsign
  refine h sign ?_
  revert sign
  cases phrase with
  | level tier => cases tier <;> decide
  | _ => decide

theorem goOn_of_stops (h : Stops phrase rest) (e : Expr) :
    phrase.goOn e rest = .ok (e, rest) := by
  cases phrase with
  | level level =>
    cases rest with
    | nil => exact readChain_nil level e
    | cons t rest =>
      refine readChain_none ?_
      cases hoperator : level.operator? t with
      | none => rfl
      | some op =>
        obtain ⟨sign, rfl, hsign⟩ := operator?_eq_some_iff.mp hoperator
        refine absurd rfl (h sign ?_)
        cases hsign <;> decide
  | selection => exact readAccess_other (h .dot (by decide)) (h .openBracket (by decide))
  | unary => rfl
  | primary => rfl

end Stops

/-- No phrase starts with a sign other than an opening parenthesis and a negation. -/
theorem read_symbol (phrase : Phrase) {sign : Symbol} (ts : List Token) (hparen : sign ≠ .openParen)
    (hnot : sign ≠ .not) : ∃ failure, phrase.read (.symbol sign :: ts) = .error failure := by
  have hprimary : ∃ failure, Phrase.primary.read (.symbol sign :: ts) = .error failure :=
    ⟨_, readPrimary_symbol hparen ts⟩
  have hselection : ∃ failure, Phrase.selection.read (.symbol sign :: ts) = .error failure := by
    rw [readSelection, readPrimary_symbol hparen]
    exact ⟨_, rfl⟩
  have hunary : ∃ failure, Phrase.unary.read (.symbol sign :: ts) = .error failure := by
    rwa [readUnary (by simpa using hnot)]
  have hlevel (level : Level)
      (h : ∃ failure, level.operand.read (.symbol sign :: ts) = .error failure) :
      ∃ failure, (Phrase.level level).read (.symbol sign :: ts) = .error failure := by
    obtain ⟨failure, h⟩ := h
    exact ⟨failure, by rw [readLevel, h]; rfl⟩
  have hcomparison := hlevel .comparison hunary
  have hequality := hlevel .equality hcomparison
  have hand := hlevel .and hequality
  cases phrase with
  | primary => exact hprimary
  | selection => exact hselection
  | unary => exact hunary
  | level level =>
    cases level with
    | comparison => exact hcomparison
    | equality => exact hequality
    | and => exact hand
    | or => exact hlevel .or hand

mutual

-- A repetition is read up to its last item, and the parser goes on behind it: this is what lets the
-- loops of the parser follow derivations that grow to the left.
theorem read_of_derives {phrase : Phrase} {used rest : List Token} {e : Expr}
    (h : Derives phrase used e) (hrest : Stops phrase.last rest) :
    phrase.read (used ++ rest) = phrase.goOn e rest := by
  match h with
  | .operand h =>
    have hread := (read_of_derives h hrest.last).trans (goOn_of_stops hrest _)
    rw [readLevel, hread]
    rfl
  | @Derives.binary level sign op ts us left right hleft hsign hright =>
    have hoperator : level.operator? (.symbol sign) = some op :=
      operator?_eq_some_iff.mpr ⟨sign, rfl, hsign⟩
    have hbefore := read_of_derives hleft (stops_sign hsign (us ++ rest))
    have hbehind := (read_of_derives hright hrest.last).trans (goOn_of_stops hrest _)
    rw [List.append_assoc, List.cons_append, hbefore, Phrase.goOn, readChain_some hoperator,
      hbehind]
    rfl
  | @Derives.not ts e h =>
    have hread := read_of_derives h hrest
    rw [List.cons_append, readUnary_not, hread]
    rfl
  | .positive h =>
    have hselection : Stops .selection rest := hrest
    have hread := (read_of_derives h hselection.last).trans (goOn_of_stops hselection _)
    have hnot : (used ++ rest).head? ≠ some (.symbol .not) := by
      intro hhead
      obtain ⟨ts, hts⟩ := List.head?_eq_some_iff.mp hhead
      rw [hts, readSelection, readPrimary_symbol (by decide)] at hread
      cases hread
    rw [readUnary hnot, hread]
    rfl
  | .primary h =>
    have hread := read_of_derives h hrest
    rw [readSelection, hread]
    rfl
  | @Derives.member ts e t property h hproperty =>
    have hdot : Stops .primary (.symbol .dot :: t :: rest) := stops_cons (by decide) _
    have hread := read_of_derives h hdot
    have hname := propertyName?_eq_some_iff.mpr hproperty
    rw [List.append_assoc, List.cons_append, List.cons_append, List.nil_append, hread, Phrase.goOn,
      readAccess_dot hname]
    rfl
  | @Derives.index ts us e key h hkey =>
    have hopen : Stops .primary (.symbol .openBracket :: (us ++ .symbol .closeBracket :: rest)) :=
      stops_cons (by decide) _
    have hclose : Stops (.level .or) (.symbol .closeBracket :: rest) :=
      stops_closing _ rest (by decide)
    have hobject := read_of_derives h hopen
    have hinside := (read_of_derives hkey hclose.last).trans (goOn_of_stops hclose _)
    rw [List.append_assoc, List.cons_append, List.append_assoc, List.singleton_append, hobject,
      Phrase.goOn, readAccess_bracket, hinside]
    dsimp only [Except.bind]
    rw [skip?_eq_some_iff.mpr rfl]
    rfl
  | .null | .yes | .no | .number _ | .text _ =>
    rw [List.singleton_append, Phrase.read, parsePrimary]
    rfl
  | .context name =>
    have hcontext : skip? .openParen rest = none := by
      rw [skip?_eq_none_iff]
      exact hrest .openParen (by decide)
    rw [List.singleton_append, readPrimary_name, hcontext]
    rfl
  | .callEmpty name =>
    rw [List.cons_append, readPrimary_name]
    rfl
  | @Derives.call name ts args h =>
    have hargs := readArguments_of_derives h rest
    have hfull : skip? .closeParen (ts ++ .symbol .closeParen :: rest) = none := by
      rw [skip?_eq_none_iff]
      intro hhead
      obtain ⟨after, hafter⟩ := List.head?_eq_some_iff.mp hhead
      obtain ⟨failure, hfailure⟩ := read_symbol (.level .or) after
        (show Symbol.closeParen ≠ .openParen by decide) (by decide)
      rw [hafter, readArguments_eq, hfailure] at hargs
      cases hargs
    have hopen : skip? .openParen (.symbol .openParen :: (ts ++ .symbol .closeParen :: rest)) =
        some (ts ++ .symbol .closeParen :: rest) := skip?_eq_some_iff.mpr rfl
    rw [List.cons_append, readPrimary_name, List.cons_append, List.append_assoc,
      List.singleton_append, hopen]
    dsimp only
    rw [hfull, hargs]
    rfl
  | @Derives.parens ts e h =>
    have hclose : Stops (.level .or) (.symbol .closeParen :: rest) :=
      stops_closing _ rest (by decide)
    have hinside := (read_of_derives h hclose.last).trans (goOn_of_stops hclose _)
    rw [List.cons_append, List.append_assoc, List.singleton_append, readPrimary_parens, hinside]
    dsimp only [Except.bind]
    rw [skip?_eq_some_iff.mpr rfl]
    rfl

theorem readArguments_of_derives {used : List Token} {args : List Expr}
    (h : DerivesArguments used args) (rest : List Token) :
    readArguments (used ++ .symbol .closeParen :: rest) = .ok (args, rest) := by
  match h with
  | .last h =>
    have hclose : Stops (.level .or) (.symbol .closeParen :: rest) :=
      stops_closing _ rest (by decide)
    have hread := (read_of_derives h hclose.last).trans (goOn_of_stops hclose _)
    rw [readArguments_eq, hread]
    rfl
  | @DerivesArguments.next ts us e args h hrest =>
    have hcomma : Stops (.level .or) (.symbol .comma :: (us ++ .symbol .closeParen :: rest)) :=
      stops_closing _ _ (by decide)
    have hread := (read_of_derives h hcomma.last).trans (goOn_of_stops hcomma _)
    have hothers := readArguments_of_derives hrest rest
    rw [List.append_assoc, List.cons_append, readArguments_eq, hread]
    dsimp only [Except.bind]
    rw [skip?_eq_none_iff.mpr (by simp), skip?_eq_some_iff.mpr rfl]
    dsimp only
    rw [hothers]
    rfl

end

/-! ### The whole row of tokens -/

variable {ts : List Token} {e e' : Expr}

theorem parseTokens_eq_ok_iff_read :
    parseTokens ts = .ok e ↔ (Phrase.level .or).read ts = .ok (e, []) := by
  rw [parseTokens, Phrase.read]
  rcases parseLevel .or ts with failure | ⟨expr, _ | ⟨t, rest⟩, hrest⟩ <;> simp [bare, Except.map]

theorem parseTokens_eq_ok_iff : parseTokens ts = .ok e ↔ Derives (.level .or) ts e := by
  rw [parseTokens_eq_ok_iff_read]
  constructor
  · intro h
    obtain ⟨used, hts, hused⟩ := derives_of_read h
    rw [List.append_nil] at hts
    rwa [hts]
  · intro h
    have hread := read_of_derives h (stops_nil _)
    rw [List.append_nil] at hread
    exact hread.trans (readChain_nil .or e)

/-- The grammar gives a row of tokens one tree at most. -/
theorem Derives.unique (h : Derives (.level .or) ts e) (h' : Derives (.level .or) ts e') :
    e = e' := by
  have heq := (parseTokens_eq_ok_iff.mpr h).symm.trans (parseTokens_eq_ok_iff.mpr h')
  exact Except.ok.inj heq

/-- A row of tokens is read as an expression just when the grammar gives it that tree. The grammar
gives it one tree, and that is what the parser answers, or none, and the parser answers with an
error. -/
theorem parser_accepts_grammar (ts : List Token) :
    (∀ e, parseTokens ts = .ok e ↔ Derives (.level .or) ts e) ∧
      ((∃! e, Derives (.level .or) ts e) ∨
        (∃ error, parseTokens ts = .error error) ∧ ∀ e, ¬ Derives (.level .or) ts e) := by
  refine ⟨fun _ => parseTokens_eq_ok_iff, ?_⟩
  cases hparse : parseTokens ts with
  | ok e =>
    have hderives := parseTokens_eq_ok_iff.mp hparse
    exact .inl ⟨e, hderives, fun _ h => h.unique hderives⟩
  | error error =>
    refine .inr ⟨⟨error, rfl⟩, fun e h => ?_⟩
    rw [← parseTokens_eq_ok_iff, hparse] at h
    cases h

end Pipeline.Expression
