import Mathlib.Data.List.Chain
import Mathlib.Data.List.Forall2
import Pipeline.Proofs.Expression.Segments
import Pipeline.Proofs.Text.Trimming

/-! A template is split into the very pieces it was written from. The search for the end of an
expression only counts quotes, while the lexer knows quotes that are written twice; they agree on
every source that has tokens. -/

namespace Pipeline.Expression

variable {quoted quoted' behind : Bool} {c : Char} {cs ds body text after rest : List Char}
  {source : String} {tokens : List Token}

/-! ### Quotes -/

/-- The search for the end of an expression goes over the characters. It starts inside quotes or
outside and is inside or outside behind them. -/
def Passes (quoted : Bool) (cs : List Char) (quoted' : Bool) : Prop :=
  ∀ rest, splitClosing quoted (cs ++ rest) =
    (splitClosing quoted' rest).map fun found => (cs ++ found.1, found.2)

/-- Neither a quote nor a closing brace. -/
def IsPlain (c : Char) : Prop :=
  c ≠ '\'' ∧ c ≠ '\x7d'

theorem Passes.nil (quoted : Bool) : Passes quoted [] quoted := by
  intro rest
  cases h : splitClosing quoted rest <;> simp [h]

theorem Passes.append (h : Passes quoted cs quoted') (h' : Passes quoted' ds behind) :
    Passes quoted (cs ++ ds) behind := by
  intro rest
  rw [List.append_assoc, h, h', Option.map_map]
  refine congrArg (Option.map · _) (funext fun found => ?_)
  rw [Function.comp, List.append_assoc]

theorem splitClosing_cons (h : quoted = false → c = '\x7d' → rest.head? ≠ some '\x7d') :
    splitClosing quoted (c :: rest) =
      (splitClosing (if c = '\'' then !quoted else quoted) rest).map fun found =>
        (c :: found.1, found.2) := by
  have hopen : (!quoted && c = '\x7d' && rest.head? = some '\x7d') = false := by
    cases quoted <;> simp_all
  rw [splitClosing, hopen, if_neg Bool.false_ne_true]
  cases splitClosing (if c = '\'' then !quoted else quoted) rest <;> rfl

theorem passes_quote (quoted : Bool) : Passes quoted ['\''] !quoted :=
  fun _ => splitClosing_cons fun _ hbrace => absurd hbrace (by decide)

theorem passes_other (hquote : c ≠ '\'') (hbrace : quoted = false → c ≠ '\x7d') :
    Passes quoted [c] quoted := by
  intro rest
  rw [List.singleton_append, splitClosing_cons fun hquoted heq => absurd heq (hbrace hquoted),
    if_neg hquote]
  rfl

theorem passes_plain (h : ∀ c ∈ cs, IsPlain c) : Passes false cs false := by
  induction cs with
  | nil => exact .nil false
  | cons c cs ih =>
    obtain ⟨⟨hquote, hbrace⟩, hrest⟩ := List.forall_mem_cons.mp h
    exact (passes_other hquote fun _ => hbrace).append (ih hrest)

theorem Passes.closes (h : Passes false body false) : Closes body := by
  intro rest
  rw [List.append_assoc, h]
  show some (body ++ [], rest) = some (body, rest)
  rw [List.append_nil]

/-! ### The end of an expression -/

theorem isPlain_of_pred {p : Char → Bool} (hquote : p '\'' = false) (hbrace : p '\x7d' = false)
    (h : p c = true) : IsPlain c := by
  constructor <;> rintro rfl
  · exact absurd h (Bool.eq_false_iff.mp hquote)
  · exact absurd h (Bool.eq_false_iff.mp hbrace)

theorem isPlain_of_isBlank (h : Text.isBlank c = true) : IsPlain c :=
  isPlain_of_pred (by decide) (by decide) h

theorem isPlain_of_isNumberChar (h : isNumberChar c = true) : IsPlain c :=
  isPlain_of_pred (by decide) (by decide) h

theorem isPlain_of_isNameChar (h : isNameChar c = true) : IsPlain c :=
  isPlain_of_pred (by decide) (by decide) h

/-- A quote written twice closes the quotes and opens them again. -/
theorem passes_of_readText {value : List Char} (h : readText cs = some (value, after)) :
    ∃ used, cs = used ++ after ∧ Passes true used false := by
  fun_induction readText cs generalizing value with
  | case1 => cases h
  | case2 rest ih =>
    obtain ⟨⟨value', after'⟩, hrest, heq⟩ := Option.map_eq_some_iff.mp h
    cases heq
    obtain ⟨used, rfl, hused⟩ := ih hrest
    exact ⟨'\'' :: '\'' :: used, rfl,
      (passes_quote true).append ((passes_quote false).append hused)⟩
  | case3 rest hsingle =>
    cases h
    exact ⟨['\''], rfl, passes_quote true⟩
  | case4 c rest _ hquote ih =>
    obtain ⟨⟨value', after'⟩, hrest, heq⟩ := Option.map_eq_some_iff.mp h
    cases heq
    obtain ⟨used, rfl, hused⟩ := ih hrest
    have hfirst : Passes true [c] true := passes_other hquote nofun
    exact ⟨c :: used, rfl, hfirst.append hused⟩

theorem plain_of_readSymbol {sign : Symbol} (h : readSymbol (c :: rest) = .ok (sign, after)) :
    ∃ used, rest = used ++ after ∧ ∀ d ∈ c :: used, IsPlain d := by
  have hplain : ∀ d ∈ ".,()[]=!<>&|".toList, IsPlain d := by
    simp [IsPlain]
  obtain ⟨hc, rfl | ⟨d, hd, rfl⟩⟩ : c ∈ ".,()[]=!<>&|".toList ∧
      (rest = after ∨ ∃ d ∈ ".,()[]=!<>&|".toList, rest = d :: after) := by
    unfold readSymbol at h
    split at h <;> cases h
    all_goals
      next heq =>
        cases heq
        simp
  · exact ⟨[], rfl, by simpa using hplain c hc⟩
  · exact ⟨[d], rfl, by simpa using ⟨hplain c hc, hplain d hd⟩⟩

theorem numberText_cons (h : c = '-' ∨ c.isDigit = true) :
    numberText (c :: rest) = c :: rest.takeWhile isNumberChar := by
  by_cases hminus : c = '-'
  · subst hminus
    rfl
  · have hnumber : isNumberChar c = true := by simp [isNumberChar, h.resolve_left hminus]
    rw [numberText, List.takeWhile_cons_of_pos hnumber]
    intro rest heq
    cases heq
    exact absurd rfl hminus

theorem passes_of_readToken {token : Token} (h : readToken c rest = .ok (token, after)) :
    ∃ used, rest = used ++ after ∧ Passes false (c :: used) false := by
  unfold readToken at h
  split at h
  · next hquote =>
    subst hquote
    split at h
    · next hread =>
      cases h
      obtain ⟨used, hrest, hused⟩ := passes_of_readText hread
      exact ⟨used, hrest, (passes_quote false).append hused⟩
    · cases h
  split at h
  · next hstart =>
    rw [numberText_cons (by simpa using hstart)] at h
    dsimp only at h
    split at h
    · cases h
      refine ⟨rest.takeWhile isNumberChar, ?_, passes_plain fun d hd => ?_⟩
      · exact (List.prefix_iff_eq_append.mp (List.takeWhile_prefix _)).symm
      · obtain rfl | hd := List.mem_cons.mp hd
        · exact isPlain_of_pred (p := fun c => c = '-' || c.isDigit) (by decide) (by decide) hstart
        · exact isPlain_of_isNumberChar (List.all_eq_true.mp List.all_takeWhile d hd)
    · cases h
  split at h
  · next hname =>
    cases h
    refine ⟨rest.takeWhile isNameChar, List.takeWhile_append_dropWhile.symm,
      passes_plain fun d hd => isPlain_of_isNameChar ?_⟩
    obtain rfl | hd := List.mem_cons.mp hd
    · exact isNameChar_of_isNameStart hname
    · exact List.all_eq_true.mp List.all_takeWhile d hd
  · split at h
    · next hsymbol =>
      cases h
      obtain ⟨used, hrest, hplain⟩ := plain_of_readSymbol hsymbol
      exact ⟨used, hrest, passes_plain hplain⟩
    · cases h

theorem passes_of_scan {position fuel : Nat} (h : scan position cs fuel = .ok tokens)
    (hfuel : cs.length ≤ fuel) : Passes false cs false := by
  induction fuel generalizing position cs tokens with
  | zero =>
    cases List.length_eq_zero_iff.mp (Nat.le_zero.mp hfuel)
    exact .nil false
  | succ fuel ih =>
    cases cs with
    | nil => exact .nil false
    | cons c rest =>
      rw [List.length_cons, Nat.succ_le_succ_iff] at hfuel
      rw [scan] at h
      split at h
      · next hblank =>
        have hfirst : Passes false [c] false :=
          passes_plain (List.forall_mem_singleton.mpr (isPlain_of_isBlank hblank))
        exact hfirst.append (ih h hfuel)
      · split at h
        · cases h
        · next token after hread =>
          obtain ⟨used, rfl, hused⟩ := passes_of_readToken hread
          rw [List.length_append] at hfuel
          generalize position + (byteSize (c :: (used ++ after)) - byteSize after) = start at h
          cases hscan : scan start after fuel with
          | error e =>
            rw [hscan] at h
            cases h
          | ok others => exact hused.append (ih hscan (by omega))

theorem passes_of_tokenize (h : tokenize source = .ok tokens) : Passes false source.toList false :=
  passes_of_scan h le_rfl

/-! ### Templates as they are written -/

/-- How a piece may be written: an expression with blanks inside its marks or without. -/
inductive Spells : Segment → String → Prop where
  | literal (text : String) : Spells (.literal text) text
  | expression {front source back : String} (hfront : Text.isAllBlank front = true)
      (hback : Text.isAllBlank back = true) :
      Spells (.expression source) ("$\x7b\x7b" ++ front ++ source ++ back ++ "\x7d\x7d")

/-- Text that is not empty and holds no mark, or the source of an expression that has tokens and no
blanks at its ends. -/
def Segment.IsSound : Segment → Prop
  | .literal text => text ≠ "" ∧ ¬openMark <:+: text.toList
  | .expression source => Text.trim source = source ∧ ∃ tokens, tokenize source = .ok tokens

/-- The pieces are not both literal. -/
def Segment.Apart : Segment → Segment → Prop
  | .literal _, .literal _ => False
  | _, _ => True

/-- The texts are the pieces of a template as they are written. -/
structure Writes (segments : List Segment) (texts : List String) : Prop where
  spelled : List.Forall₂ Spells segments texts
  sound : ∀ segment ∈ segments, segment.IsSound
  apart : segments.IsChain Segment.Apart

variable {segments : List Segment} {texts : List String}

theorem byteSize_append (cs ds : List Char) : byteSize (cs ++ ds) = byteSize cs + byteSize ds := by
  rw [byteSize, List.map_append, total_append]
  rfl

theorem byteSize_toList (text : String) : byteSize text.toList = text.utf8ByteSize := by
  have hlist (cs : List Char) : byteSize cs = (String.ofList cs).utf8ByteSize := by
    induction cs with
    | nil => rfl
    | cons c cs ih =>
      rw [String.ofList_cons, String.utf8ByteSize_append, String.utf8ByteSize_singleton, ← ih]
      rfl
  rw [hlist, String.ofList_toList]

/-- A mark without an end is reported at its place. -/
theorem splitFrom_unclosed (position : Nat) (reversed : List Char)
    (h : splitClosing false cs = none) :
    splitFrom position reversed (openMark ++ cs) = .error ⟨.unterminatedExpression, position⟩ := by
  show splitFrom position reversed ('$' :: '\x7b' :: '\x7b' :: cs) = _
  rw [splitFrom]
  split
  · rfl
  · next hsome => rw [h] at hsome; cases hsome

/-- What was read before an expression or the end is a piece of its own. -/
theorem splitFrom_reversed (position : Nat) (reversed : List Char)
    (hrest : rest = [] ∨ openMark <+: rest) :
    splitFrom position reversed rest =
      (splitFrom position [] rest).map (literalOf reversed ++ ·) := by
  obtain rfl | ⟨cs, rfl⟩ := hrest
  · rw [splitFrom, splitFrom]
    show Except.ok (literalOf reversed) = Except.ok (literalOf reversed ++ [])
    rw [List.append_nil]
  · cases hclosing : splitClosing false cs with
    | none =>
      rw [splitFrom_unclosed position reversed hclosing, splitFrom_unclosed position [] hclosing]
      rfl
    | some found =>
      obtain ⟨body, after⟩ := found
      rw [splitFrom_mark position reversed hclosing, splitFrom_mark position [] hclosing]
      cases splitFrom (position + 5 + byteSize body) [] after <;> rfl

/-- A piece is split off, and what follows it is split at the place where it stands. -/
theorem splitFrom_spelled {segment : Segment} {text : String} (h : Spells segment text)
    (hsound : segment.IsSound) (position : Nat)
    (hseam : segment = .literal text → rest = [] ∨ openMark <+: rest) :
    splitFrom position [] (text.toList ++ rest) =
      (splitFrom (position + text.utf8ByteSize) [] rest).map (segment :: ·) := by
  rw [← byteSize_toList]
  cases h with
  | literal =>
    obtain ⟨hne, hunmarked⟩ := hsound
    have hliteral : literalOf text.toList.reverse = [.literal text] := by
      rw [literalOf_reverse, if_neg (by simpa using hne), String.ofList_toList]
    rw [splitFrom_text position [] hunmarked (hseam rfl), List.append_nil,
      splitFrom_reversed _ _ (hseam rfl), hliteral]
    rfl
  | @expression front source back hfront hback =>
    obtain ⟨htrim, tokens, htokens⟩ := hsound
    have hfront := List.all_eq_true.mp hfront
    have hback := List.all_eq_true.mp hback
    generalize hbody : front.toList ++ source.toList ++ back.toList = body
    have htext : ("$\x7b\x7b" ++ front ++ source ++ back ++ "\x7d\x7d").toList =
        openMark ++ body ++ closeMark := by
      simp only [String.toList_append, List.append_assoc, ← hbody]
      rfl
    have hcloses : Closes body := by
      have hinside := (passes_plain fun c hc => isPlain_of_isBlank (hfront c hc)).append
        (passes_of_tokenize htokens)
      rw [← hbody]
      exact (hinside.append (passes_plain fun c hc => isPlain_of_isBlank (hback c hc))).closes
    have hsource : String.ofList (Text.trimChars body) = source := by
      rw [← hbody, Text.trimChars_append hfront hback]
      exact htrim
    have hsize : byteSize (openMark ++ body ++ closeMark) = 5 + byteSize body := by
      rw [byteSize_append, byteSize_append, Nat.add_right_comm]
      rfl
    rw [htext, hsize, ← Nat.add_assoc, List.append_assoc, List.append_assoc,
      ← List.append_assoc body, splitFrom_mark position [] (hcloses rest), hsource]
    cases splitFrom (position + 5 + byteSize body) [] rest <;> rfl

theorem Writes.tail {segment : Segment} {text : String}
    (h : Writes (segment :: segments) (text :: texts)) : Writes segments texts where
  spelled := by
    cases h.spelled with
    | cons _ hrest => exact hrest
  sound := fun segment hmem => h.sound segment (List.mem_cons_of_mem _ hmem)
  apart := h.apart.tail

/-- Behind a literal piece stands an expression or the end. -/
theorem Writes.seam {text : String} (h : Writes (.literal text :: segments) (text :: texts))
    (hrest : rest = [] ∨ openMark <+: rest) :
    (String.join texts).toList ++ rest = [] ∨ openMark <+: (String.join texts).toList ++ rest := by
  have hspelled := h.tail.spelled
  cases segments with
  | nil =>
    cases hspelled
    exact hrest
  | cons segment segments =>
    have hapart := (List.isChain_cons_cons.mp h.apart).1
    cases hspelled with
    | cons hfirst _ =>
      cases hfirst with
      | literal => exact hapart.elim
      | expression hfront hback =>
        right
        rw [String.join_cons]
        simp only [String.toList_append, List.append_assoc]
        exact List.prefix_append _ _

/-- A template is split at the seams between its pieces, and what follows it is split at the place
where it stands. -/
theorem splitFrom_of_writes (h : Writes segments texts) (hrest : rest = [] ∨ openMark <+: rest)
    (position : Nat) : splitFrom position [] ((String.join texts).toList ++ rest) =
      (splitFrom (position + (String.join texts).utf8ByteSize) [] rest).map (segments ++ ·) := by
  induction segments generalizing texts position with
  | nil =>
    cases h.spelled
    show splitFrom position [] rest = (splitFrom position [] rest).map id
    cases splitFrom position [] rest <;> rfl
  | cons segment segments ih =>
    obtain ⟨hsound, -⟩ := List.forall_mem_cons.mp h.sound
    cases h.spelled with
    | @cons _ text _ texts hfirst =>
      have htail := ih h.tail (position + text.utf8ByteSize)
      rw [Nat.add_assoc, ← String.utf8ByteSize_append] at htail
      have hseam (heq : segment = .literal text) := (heq ▸ h).seam hrest
      rw [String.join_cons, String.toList_append, List.append_assoc,
        splitFrom_spelled hfirst hsound position hseam, htail]
      cases splitFrom (position + (text ++ String.join texts).utf8ByteSize) [] rest <;> rfl

/-- Without two braces outside quotes an expression has no end. -/
theorem splitClosing_eq_none {quoted : Bool} (h : ∀ before after,
    cs = before ++ closeMark ++ after → (before.count '\'' % 2 = 1 ↔ quoted = false)) :
    splitClosing quoted cs = none := by
  induction cs generalizing quoted with
  | nil => rfl
  | cons c rest ih =>
    have hopen (hquoted : quoted = false) (hbrace : c = '\x7d') : rest.head? ≠ some '\x7d' := by
      intro hhead
      obtain ⟨after, rfl⟩ := List.head?_eq_some_iff.mp hhead
      subst hbrace
      exact absurd ((h [] after rfl).mpr hquoted) (by decide)
    rw [splitClosing_cons hopen, ih]
    · rfl
    rintro before after rfl
    have hcount := h (c :: before) after rfl
    rw [List.count_cons] at hcount
    by_cases hquote : c = '\''
    · rw [if_pos (by simpa using hquote)] at hcount
      rw [if_pos hquote, Bool.not_eq_false', ← Bool.not_eq_false, ← hcount]
      omega
    · rw [if_neg (by simpa using hquote)] at hcount
      rwa [if_neg hquote]

/-- A template is split into the pieces it was written from. Where a mark without an end follows it,
the failure has the place of that mark. -/
theorem split_of_writes (h : Writes segments texts) :
    split (String.join texts) = .ok segments ∧
      ∀ rest : String, (∀ before after, rest.toList = before ++ closeMark ++ after →
          before.count '\'' % 2 = 1) →
        split (String.join texts ++ "$\x7b\x7b" ++ rest) =
          .error ⟨.unterminatedExpression, (String.join texts).utf8ByteSize⟩ := by
  constructor
  · have hsplit := splitFrom_of_writes h (.inl rfl) 0
    rw [List.append_nil] at hsplit
    rw [split, hsplit, splitFrom]
    show Except.ok (segments ++ []) = Except.ok segments
    rw [List.append_nil]
  · intro rest hrest
    have hunclosed : splitClosing false rest.toList = none :=
      splitClosing_eq_none fun before after heq => iff_of_true (hrest before after heq) rfl
    have hsplit := splitFrom_of_writes h (.inr (List.prefix_append openMark rest.toList)) 0
    have htext : (String.join texts ++ "$\x7b\x7b" ++ rest).toList =
        (String.join texts).toList ++ (openMark ++ rest.toList) := by
      rw [String.toList_append, String.toList_append, List.append_assoc]
      rfl
    rw [split, htext, hsplit, splitFrom_unclosed _ _ hunclosed, Nat.zero_add]
    rfl

/-- Both marks and a quote stand in the quotes of the expression, half a mark before it and a brace
behind it. -/
theorem split_of_writes_sample :
    split "é$\x7b$\x7b\x7b f('\x7d\x7d $\x7b\x7b it''s')\x7d\x7d\x7d$" =
        .ok [.literal "é$\x7b", .expression "f('\x7d\x7d $\x7b\x7b it''s')", .literal "\x7d$"] ∧
      split "é$\x7b$\x7b\x7b f('\x7d\x7d $\x7b\x7b it''s')\x7d\x7d\x7d$$\x7b\x7b'\x7d\x7d" =
        .error ⟨.unterminatedExpression, 29⟩ := by
  have htokens : tokenize "f('\x7d\x7d $\x7b\x7b it''s')" = .ok [.name "f", .symbol .openParen,
      .text "\x7d\x7d $\x7b\x7b it's", .symbol .closeParen] := by
    decide +kernel
  have hspells : Spells (.expression "f('\x7d\x7d $\x7b\x7b it''s')")
      "$\x7b\x7b f('\x7d\x7d $\x7b\x7b it''s')\x7d\x7d" :=
    @Spells.expression " " _ "" (by decide) (by decide)
  have hwrites : Writes
      [.literal "é$\x7b", .expression "f('\x7d\x7d $\x7b\x7b it''s')", .literal "\x7d$"]
      ["é$\x7b", "$\x7b\x7b f('\x7d\x7d $\x7b\x7b it''s')\x7d\x7d", "\x7d$"] := by
    refine ⟨.cons (.literal _) (.cons hspells (.cons (.literal _) .nil)), ?_, ?_⟩
    · have hliteral : (Segment.literal "é$\x7b").IsSound := ⟨by decide, by decide⟩
      have hlast : (Segment.literal "\x7d$").IsSound := ⟨by decide, by decide⟩
      simpa using ⟨hliteral, ⟨by decide +kernel, _, htokens⟩, hlast⟩
    · simp [Segment.Apart]
  obtain ⟨hsplit, hfails⟩ := split_of_writes hwrites
  refine ⟨hsplit, hfails "'\x7d\x7d" fun before after heq => ?_⟩
  match before, heq with
  | [], heq => cases heq
  | [_], heq => 
    cases heq
    rfl
  | _ :: _ :: before, heq =>
    have hlength := congrArg List.length heq
    simp [closeMark] at hlength
    omega

end Pipeline.Expression
