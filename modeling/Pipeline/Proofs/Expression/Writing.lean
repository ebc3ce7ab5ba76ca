import Mathlib.Data.List.TakeWhile
import Pipeline.Expression.Lexer

/-! Tokens are read back as they were written: a text in quotes with every quote in it twice, the
other tokens as they are shown, and blanks between any two of them. -/

namespace Pipeline.Expression

variable {c : Char} {cs tail rest : List Char} {token : Token} {tokens : List Token}
  {text front back : String}

/-! ### Kinds of characters -/

/-- The code points of blanks. -/
def blankCodes : List Nat :=
  List.range' 9 5 ++ List.range' 0x2000 11 ++
    [0x20, 0x85, 0xa0, 0x1680, 0x2028, 0x2029, 0x202f, 0x205f, 0x3000]

theorem of_code {p : Char → Prop} {codes : List Nat} (h : ∀ n ∈ codes, p (Char.ofNat n))
    (hc : c.toNat ∈ codes) : p c := by
  have hcode := h c.toNat hc
  rwa [Char.ofNat_toNat] at hcode

theorem not_isNameChar_of_isBlank (h : Text.isBlank c = true) : isNameChar c = false := by
  have hcode : c.toNat ∈ blankCodes := by
    simp only [Text.isBlank, Bool.or_eq_true, Bool.and_eq_true, decide_eq_true_eq, beq_iff_eq] at h
    simp only [blankCodes, List.mem_append, List.mem_range'_1, List.mem_cons, List.not_mem_nil]
    omega
  exact of_code (p := fun c => isNameChar c = false) (by decide +kernel) hcode

theorem not_isNameStart_of_isDigit (h : c.isDigit = true) : isNameStart c = false := by
  have hcode : c.toNat ∈ List.range' 48 10 := by
    have hbounds := Char.isDigit_iff_toNat.mp h
    simp only [Char.reduceToNat] at hbounds
    rw [List.mem_range'_1]
    omega
  exact of_code (p := fun c => isNameStart c = false) (by decide +kernel) hcode

theorem not_isBlank_of_isNameStart (h : isNameStart c = true) : Text.isBlank c = false := by
  rw [Bool.eq_false_iff]
  intro hblank
  have hchar := not_isNameChar_of_isBlank hblank
  rw [isNameChar_of_isNameStart h] at hchar
  cases hchar

/-! ### Where a token ends -/

/-- The characters behind a token, if there are any, begin with a blank. -/
def Parted (rest : List Char) : Prop :=
  ∀ c ∈ rest.head?, Text.isBlank c = true

theorem Parted.head?_ne (h : Parted rest) (hc : Text.isBlank c = false) : rest.head? ≠ some c := by
  intro hhead
  rw [h c hhead] at hc
  cases hc

theorem Parted.takeWhile_append (h : Parted rest) (hcs : ∀ c ∈ cs, isNameChar c = true) :
    (cs ++ rest).takeWhile isNameChar = cs := by
  rw [List.takeWhile_append_of_pos hcs]
  cases rest with
  | nil => exact List.append_nil cs
  | cons c rest =>
    rw [List.takeWhile_cons_of_neg (by simp [not_isNameChar_of_isBlank (h c rfl)]), List.append_nil]

theorem Parted.dropWhile_append (h : Parted rest) (hcs : ∀ c ∈ cs, isNameChar c = true) :
    (cs ++ rest).dropWhile isNameChar = rest := by
  rw [List.dropWhile_append_of_pos hcs]
  cases rest with
  | nil => rfl
  | cons c rest => exact List.dropWhile_cons_of_neg (by simp [not_isNameChar_of_isBlank (h c rfl)])

/-! ### One token -/

/-- A character of a text as it is written between quotes. -/
def escaped (c : Char) : List Char :=
  if c = '\'' then [c, c] else [c]

theorem readText_escaped (h : rest.head? ≠ some '\'') (cs : List Char) :
    readText (cs.flatMap escaped ++ '\'' :: rest) = some (cs, rest) := by
  induction cs with
  | nil =>
    show readText ('\'' :: rest) = some ([], rest)
    rw [readText]
    rintro following rfl
    exact h rfl
  | cons c cs ih =>
    rw [List.flatMap_cons, List.append_assoc, escaped]
    split
    · next hquote =>
      subst hquote
      show readText ('\'' :: '\'' :: (cs.flatMap escaped ++ '\'' :: rest)) = _
      rw [readText, ih]
      rfl
    · next hquote =>
      rw [List.singleton_append, readText, ih]
      · rfl
      · exact fun _ heq => absurd heq hquote
      · exact hquote

theorem readToken_escaped (h : rest.head? ≠ some '\'') (cs : List Char) :
    readToken '\'' (cs.flatMap escaped ++ '\'' :: rest) = .ok (.text (String.ofList cs), rest) := by
  rw [readToken, if_pos rfl, readText_escaped h]

theorem readToken_word (h : Parted rest) (hstart : isNameStart c = true)
    (htail : ∀ d ∈ tail, isNameChar d = true) :
    readToken c (tail ++ rest) = .ok (.ofWord (String.ofList (c :: tail)), rest) := by
  have hquote : c ≠ '\'' := by
    rintro rfl
    exact absurd hstart (by decide +kernel)
  have hminus : c ≠ '-' := by
    rintro rfl
    exact absurd hstart (by decide +kernel)
  have hdigit : c.isDigit ≠ true := fun hdigit => by
    rw [not_isNameStart_of_isDigit hdigit] at hstart
    cases hstart
  rw [readToken, if_neg hquote, if_neg (by simp [hminus, hdigit]), if_pos hstart,
    h.takeWhile_append htail, h.dropWhile_append htail]

theorem readSymbol_render (h : rest.head? ≠ some '=') (symbol : Symbol) :
    readSymbol (symbol.render.toList ++ rest) = .ok (symbol, rest) := by
  have hsecond (following : List Char) : rest ≠ '=' :: following := by
    rintro rfl
    exact h rfl
  cases symbol
  case less =>
    show readSymbol ('<' :: rest) = _
    rw [readSymbol]
    exact hsecond
  case greater =>
    show readSymbol ('>' :: rest) = _
    rw [readSymbol]
    exact hsecond
  case not =>
    show readSymbol ('!' :: rest) = _
    rw [readSymbol]
    exact hsecond
  all_goals rfl

theorem readToken_symbol {symbol : Symbol} (h : rest.head? ≠ some '=')
    (hsymbol : symbol.render.toList = c :: tail) :
    readToken c (tail ++ rest) = .ok (.symbol symbol, rest) := by
  have hread := readSymbol_render h symbol
  have hkind : c ≠ '\'' ∧ (c = '-' || c.isDigit) = false ∧ isNameStart c = false := by
    cases symbol <;> cases hsymbol <;> decide +kernel
  rw [hsymbol, List.cons_append] at hread
  rw [readToken, if_neg hkind.1, hkind.2.1, if_neg Bool.false_ne_true, hkind.2.2,
    if_neg Bool.false_ne_true, hread]

/-- A word in its own right: it is made of letters, numerals, `_` and `-`, begins with a letter or
`_`, and stands for no value. -/
structure IsName (name : String) : Prop where
  head : ∃ c ∈ name.toList.head?, Text.isLetter c = true ∨ c = '_'
  tail : ∀ c ∈ name.toList.tail, Text.isWordChar c = true ∨ c = '_' ∨ c = '-'
  unreserved : ∀ keyword : Keyword, name ≠ keyword.render

/-- A token that is no number, and that is a name only if it is one by its spelling. -/
def Token.IsPlain : Token → Prop
  | .number _ => False
  | .name value => IsName value
  | _ => True

/-- How a token is written: a quote in a text twice, everything else as it is shown. -/
def Token.written : Token → String
  | .text value => "'" ++ String.ofList (value.toList.flatMap escaped) ++ "'"
  | token => token.render

theorem IsName.ofWord_eq {name : String} (h : IsName name) : Token.ofWord name = .name name := by
  have hnull : name ≠ "null" := h.unreserved .null
  have htrue : name ≠ "true" := h.unreserved .yes
  have hfalse : name ≠ "false" := h.unreserved .no
  rw [Token.ofWord, if_neg hnull, if_neg htrue, if_neg hfalse]

theorem Keyword.ofWord_render (keyword : Keyword) :
    Token.ofWord keyword.render = .keyword keyword := by
  cases keyword <;> decide

theorem Keyword.chars_render (keyword : Keyword) : ∃ c tail, keyword.render.toList = c :: tail ∧
    isNameStart c = true ∧ ∀ d ∈ tail, isNameChar d = true := by
  cases keyword
  case null => exact ⟨'n', _, rfl, by decide +kernel, List.all_eq_true.mp (by decide +kernel)⟩
  case yes => exact ⟨'t', _, rfl, by decide +kernel, List.all_eq_true.mp (by decide +kernel)⟩
  case no => exact ⟨'f', _, rfl, by decide +kernel, List.all_eq_true.mp (by decide +kernel)⟩

theorem IsName.chars {name : String} (h : IsName name) : ∃ c tail, name.toList = c :: tail ∧
    isNameStart c = true ∧ ∀ d ∈ tail, isNameChar d = true := by
  obtain ⟨c, hc, hstart⟩ := h.head
  obtain ⟨tail, hname⟩ := List.head?_eq_some_iff.mp hc
  refine ⟨c, tail, hname, by simpa [isNameStart] using hstart, fun d hd => ?_⟩
  have hchar := h.tail d (by rwa [hname])
  simpa [isNameChar, or_assoc] using hchar

theorem Symbol.chars_render (symbol : Symbol) : ∃ c tail, symbol.render.toList = c :: tail ∧
    Text.isBlank c = false := by
  cases symbol <;> exact ⟨_, _, rfl, by decide⟩

/-- A token is read off the front of the characters, exactly as far as it is written. -/
theorem readToken_written (h : token.IsPlain) (hrest : Parted rest) :
    ∃ c tail, token.written.toList = c :: tail ∧ Text.isBlank c = false ∧
      readToken c (tail ++ rest) = .ok (token, rest) := by
  cases token with
  | number => exact h.elim
  | text value =>
    refine ⟨'\'', value.toList.flatMap escaped ++ ['\''], by simp [Token.written], by decide, ?_⟩
    rw [List.append_assoc, List.singleton_append,
      readToken_escaped (hrest.head?_ne (by decide)), String.ofList_toList]
  | name value =>
    obtain ⟨c, tail, hvalue, hstart, htail⟩ := h.chars
    refine ⟨c, tail, hvalue, not_isBlank_of_isNameStart hstart, ?_⟩
    rw [readToken_word hrest hstart htail, ← hvalue, String.ofList_toList, h.ofWord_eq]
  | keyword value =>
    obtain ⟨c, tail, hvalue, hstart, htail⟩ := value.chars_render
    refine ⟨c, tail, hvalue, not_isBlank_of_isNameStart hstart, ?_⟩
    rw [readToken_word hrest hstart htail, ← hvalue, String.ofList_toList, value.ofWord_render]
  | symbol value =>
    obtain ⟨c, tail, hvalue, hblank⟩ := value.chars_render
    exact ⟨c, tail, hvalue, hblank, readToken_symbol (hrest.head?_ne (by decide)) hvalue⟩

/-! ### Rows of tokens -/

/-- The characters are read as the tokens, wherever they stand and with any fuel that is enough, so
that the step for one token does not depend on what was read before. -/
def Scans (cs : List Char) (tokens : List Token) : Prop :=
  ∀ position fuel, cs.length ≤ fuel → scan position cs fuel = .ok tokens

theorem Scans.nil : Scans [] [] := by
  intro position fuel _
  cases fuel <;> rfl

theorem Scans.blank (h : Scans cs tokens) (hc : Text.isBlank c = true) :
    Scans (c :: cs) tokens := by
  intro position fuel hfuel
  cases fuel with
  | zero => exact absurd hfuel (Nat.not_succ_le_zero _)
  | succ fuel =>
    rw [scan, if_pos hc]
    exact h _ fuel (Nat.le_of_succ_le_succ hfuel)

theorem Scans.blanks (h : Scans rest tokens) (hcs : ∀ c ∈ cs, Text.isBlank c = true) :
    Scans (cs ++ rest) tokens := by
  induction cs with
  | nil => exact h
  | cons c cs ih =>
    obtain ⟨hc, hcs⟩ := List.forall_mem_cons.mp hcs
    exact (ih hcs).blank hc

theorem Scans.read (h : Scans rest tokens) (hc : Text.isBlank c = false)
    (hread : readToken c (tail ++ rest) = .ok (token, rest)) :
    Scans (c :: tail ++ rest) (token :: tokens) := by
  intro position fuel hfuel
  cases fuel with
  | zero => exact absurd hfuel (Nat.not_succ_le_zero _)
  | succ fuel =>
    have hrest : rest.length ≤ fuel := by
      simp only [List.cons_append, List.length_cons, List.length_append] at hfuel
      omega
    rw [List.cons_append, scan, hc, if_neg Bool.false_ne_true, hread]
    dsimp only
    rw [h _ fuel hrest]
    rfl

/-- The text shows the tokens one behind the other, with blanks between any two of them. -/
inductive Shows : List Token → String → Prop
  | none : Shows [] ""
  | last (token : Token) : Shows [token] token.written
  | next (token : Token) {blanks text : String} {following : Token} {tokens : List Token}
      (hsome : blanks ≠ "") (hblank : Text.isAllBlank blanks = true)
      (hrest : Shows (following :: tokens) text) :
      Shows (token :: following :: tokens) (token.written ++ blanks ++ text)

theorem Parted.of_blanks (h : ∀ c ∈ cs, Text.isBlank c = true) (hne : cs ≠ []) (rest : List Char) :
    Parted (cs ++ rest) := by
  cases cs with
  | nil => exact absurd rfl hne
  | cons c cs =>
    intro d hd
    cases hd
    exact h c List.mem_cons_self

theorem Shows.scans (h : Shows tokens text) (htokens : ∀ token ∈ tokens, token.IsPlain)
    (hback : ∀ c ∈ rest, Text.isBlank c = true) : Scans (text.toList ++ rest) tokens := by
  have hend : Scans rest [] := by
    have hblanks := Scans.nil.blanks hback
    rwa [List.append_nil] at hblanks
  induction h with
  | none => exact hend
  | last token =>
    have hrest : Parted rest := fun c hc => hback c (List.mem_of_mem_head? hc)
    obtain ⟨c, tail, htext, hc, hread⟩ :=
      readToken_written (htokens token List.mem_cons_self) hrest
    rw [htext]
    exact hend.read hc hread
  | @next token blanks text following tokens hsome hblank _ ih =>
    obtain ⟨htoken, htokens⟩ := List.forall_mem_cons.mp htokens
    have hblanks := List.all_eq_true.mp hblank
    have hrest : Parted (blanks.toList ++ (text.toList ++ rest)) :=
      .of_blanks hblanks (by simpa using hsome) _
    obtain ⟨c, tail, htext, hc, hread⟩ := readToken_written htoken hrest
    rw [String.toList_append, String.toList_append, List.append_assoc, List.append_assoc, htext]
    exact ((ih htokens).blanks hblanks).read hc hread

/-- Tokens in a row are read back one by one, whatever the texts among them hold and however wide
the blanks between them are, and nothing is read behind them. -/
theorem tokenize_of_shows (h : Shows tokens text) (htokens : ∀ token ∈ tokens, token.IsPlain)
    (hfront : Text.isAllBlank front = true) (hback : Text.isAllBlank back = true) :
    tokenize (front ++ text ++ back) = .ok tokens := by
  have hscans := (h.scans htokens (List.all_eq_true.mp hback)).blanks (List.all_eq_true.mp hfront)
  rw [← List.append_assoc, ← String.toList_append, ← String.toList_append] at hscans
  exact hscans 0 _ le_rfl

/-- A text that begins with a quote and an empty one, a sign that another one begins with, a name
that begins like a keyword, and blanks of several scripts. -/
theorem tokenize_of_shows_sample :
    tokenize (" " ++ "'''it''s'\t!\u3000!= nullé-1\nnull  ''" ++ "\n") =
      .ok [.text "'it's", .symbol .not, .symbol .notEqual, .name "nullé-1", .keyword .null,
        .text ""] := by
  have hchars : ∀ c ∈ "nullé-1".toList.tail, isNameChar c = true :=
    List.all_eq_true.mp (by decide +kernel)
  have hname : IsName "nullé-1" := by
    refine ⟨⟨'n', by decide +kernel, .inl (by decide +kernel)⟩, fun c hc => ?_, ?_⟩
    · simpa [isNameChar, or_assoc] using hchars c hc
    · rintro (_ | _ | _) <;> decide
  have hshows : Shows [.text "'it's", .symbol .not, .symbol .notEqual, .name "nullé-1",
      .keyword .null, .text ""] "'''it''s'\t!\u3000!= nullé-1\nnull  ''" := by
    have htext : "'''it''s'\t!\u3000!= nullé-1\nnull  ''" =
        (Token.text "'it's").written ++ "\t" ++ ((Token.symbol .not).written ++ "\u3000" ++
          ((Token.symbol .notEqual).written ++ " " ++ ((Token.name "nullé-1").written ++ "\n" ++
            ((Token.keyword .null).written ++ "  " ++ (Token.text "").written)))) := by
      decide +kernel
    rw [htext]
    iterate 5 refine .next _ (by decide) (by decide) ?_
    exact .last _
  refine tokenize_of_shows hshows ?_ (by decide) (by decide)
  simp [Token.IsPlain, hname]

end Pipeline.Expression
