import Pipeline.Expression.Template

/-! The pieces of a template as a relation between its characters and its segments: text without
the mark of an expression, then the mark, a body, and two braces outside quotes, and so on. -/

namespace Pipeline.Expression

variable {quoted : Bool} {cs text body after rest : List Char} {segments pieces : List Segment}

theorem containsChars_iff {part : List Char} : containsChars part cs = true ↔ part <:+: cs := by
  induction cs with
  | nil => rw [containsChars, List.isEmpty_iff, List.infix_nil]
  | cons c rest ih =>
    rw [containsChars, Bool.or_eq_true, ih, List.isPrefixOf_iff_prefix, List.infix_cons_iff]

/-- The mark at which an expression ends. -/
def closeMark : List Char := ['\x7d', '\x7d']

/-- Two braces right after the body of an expression end it, whatever comes behind them. -/
def Closes (body : List Char) : Prop :=
  ∀ rest, splitClosing false (body ++ closeMark ++ rest) = some (body, rest)

/-- Where an expression ends depends on nothing behind its end. -/
theorem splitClosing_eq_some (h : splitClosing quoted cs = some (body, after)) :
    cs = body ++ closeMark ++ after ∧
      ∀ rest, splitClosing quoted (body ++ closeMark ++ rest) = some (body, rest) := by
  induction cs generalizing quoted body with
  | nil => cases h
  | cons c tail ih =>
    rw [splitClosing] at h
    split at h
    · next hclose =>
      cases h
      simp only [Bool.and_eq_true, Bool.not_eq_true', decide_eq_true_eq] at hclose
      obtain ⟨⟨rfl, rfl⟩, hhead⟩ := hclose
      obtain ⟨after, rfl⟩ := List.head?_eq_some_iff.mp hhead
      exact ⟨rfl, fun rest => rfl⟩
    · next hopen =>
      split at h
      · next body' after' htail =>
        cases h
        obtain ⟨rfl, hrest⟩ := ih htail
        refine ⟨rfl, fun rest => ?_⟩
        have hhead : (body' ++ closeMark ++ rest).head? = (body' ++ closeMark ++ after).head? := by
          cases body' <;> rfl
        rw [List.cons_append, List.cons_append, splitClosing, hhead, if_neg hopen, hrest]
      · cases h

theorem closes_of_splitClosing (h : splitClosing false cs = some (body, after)) : Closes body :=
  (splitClosing_eq_some h).2

/-- The segments are the pieces of the characters. -/
inductive Pieces : List Char → List Segment → Prop where
  | last (text : List Char) (unmarked : ¬openMark <:+: text) : Pieces text (literalOf text.reverse)
  | next (text body : List Char) {rest : List Char} {segments : List Segment}
      (unmarked : ¬openMark <:+: text) (closes : Closes body) (tail : Pieces rest segments) :
      Pieces (text ++ openMark ++ (body ++ closeMark ++ rest))
        (literalOf text.reverse ++ .expression (String.ofList (Text.trimChars body)) :: segments)

/-! ### Splitting -/

theorem splitFrom_mark (position : Nat) (reversed : List Char)
    (h : splitClosing false cs = some (body, after)) :
    splitFrom position reversed (openMark ++ cs) =
      match splitFrom (position + 5 + byteSize body) [] after with
      | .error e => .error e
      | .ok segments => .ok (literalOf reversed ++
          .expression (String.ofList (Text.trimChars body)) :: segments) := by
  show splitFrom position reversed ('$' :: '\x7b' :: '\x7b' :: cs) = _
  rw [splitFrom]
  split
  · next hnone => rw [h] at hnone; cases hnone
  · next hsome => rw [h] at hsome; cases hsome; rfl

theorem splitFrom_cons (position : Nat) (reversed : List Char) {c : Char}
    (h : ¬openMark <+: c :: cs) :
    splitFrom position reversed (c :: cs) =
      splitFrom (position + c.utf8Size) (c :: reversed) cs := by
  rw [splitFrom]
  rintro rest rfl rfl
  exact h ⟨rest, rfl⟩

/-- Text holds no mark if all marks in it and what follows start behind it. -/
theorem unmarked_of_marks
    (hmarks : ∀ u v, text ++ cs = u ++ openMark ++ v → text.length ≤ u.length) :
    ¬openMark <:+: text := by
  rintro ⟨u, v, huv⟩
  have hle := hmarks u (v ++ cs) (by rw [← huv, List.append_assoc])
  have hlen := congrArg List.length huv
  simp only [openMark, List.length_append, List.length_cons, List.length_nil] at hlen
  omega

/-- What is split off are the pieces, if no mark starts in the characters that were read before. -/
theorem pieces_of_splitFrom {position : Nat} {reversed : List Char}
    (h : splitFrom position reversed cs = .ok segments)
    (hmarks : ∀ u v, reversed.reverse ++ cs = u ++ openMark ++ v →
      reversed.reverse.length ≤ u.length) :
    Pieces (reversed.reverse ++ cs) segments := by
  induction position, reversed, cs using splitFrom.induct generalizing segments with
  | case1 position reversed =>
    rw [splitFrom] at h
    cases h
    rw [List.append_nil]
    simpa using Pieces.last reversed.reverse (unmarked_of_marks hmarks)
  | case2 position reversed rest hnone =>
    rw [splitFrom] at h
    split at h
    · cases h
    · next hsome => rw [hnone] at hsome; cases hsome
  | case3 position reversed rest body after hclosing e herror =>
    have hmark := splitFrom_mark position reversed hclosing
    rw [herror] at hmark
    rw [show '$' :: '\x7b' :: '\x7b' :: rest = openMark ++ rest from rfl, hmark] at h
    cases h
  | case4 position reversed rest body after hclosing segments' hrest ih =>
    have hmark := splitFrom_mark position reversed hclosing
    rw [hrest] at hmark
    rw [show '$' :: '\x7b' :: '\x7b' :: rest = openMark ++ rest from rfl, hmark] at h
    cases h
    have htail := ih hrest fun u v _ => Nat.zero_le _
    have hpieces := Pieces.next reversed.reverse body (unmarked_of_marks hmarks)
      (closes_of_splitClosing hclosing) htail
    rw [(splitClosing_eq_some hclosing).1]
    simpa [openMark] using hpieces
  | case5 position reversed c rest hother ih =>
    have hprefix : ¬openMark <+: c :: rest := by
      rintro ⟨t, ht⟩
      cases ht
      exact hother t rfl rfl
    rw [splitFrom_cons position reversed hprefix] at h
    have hsame : reversed.reverse ++ c :: rest = (c :: reversed).reverse ++ rest := by simp
    rw [hsame]
    refine ih h fun u v huv => ?_
    rw [← hsame] at huv
    have hle := hmarks u v huv
    rcases Nat.eq_or_lt_of_le hle with heq | hlt
    · rw [List.append_assoc] at huv
      obtain ⟨-, hrest⟩ := List.append_inj huv heq
      exact absurd ⟨v, hrest.symm⟩ hprefix
    · rw [List.reverse_cons, List.length_append]
      exact hlt

/-- Text without a mark is read up to the next mark or the end. -/
theorem splitFrom_text (position : Nat) (reversed : List Char) (hunmarked : ¬openMark <:+: text)
    (hrest : rest = [] ∨ openMark <+: rest) :
    splitFrom position reversed (text ++ rest) =
      splitFrom (position + byteSize text) (text.reverse ++ reversed) rest := by
  induction text generalizing position reversed with
  | nil => rfl
  | cons c text ih =>
    rw [List.infix_cons_iff, not_or] at hunmarked
    have hprefix : ¬openMark <+: c :: (text ++ rest) := by
      rintro ⟨t, ht⟩
      rcases hrest with rfl | ⟨t', rfl⟩
      · exact hunmarked.1 ⟨t, by rw [ht, List.append_nil]⟩
      · match text, ht with
        | [], ht => cases ht
        | [_], ht => cases ht
        | _ :: _ :: text, ht =>
          cases ht
          exact hunmarked.1 ⟨text, rfl⟩
    have hsize : byteSize (c :: text) = c.utf8Size + byteSize text := rfl
    rw [List.cons_append, splitFrom_cons position reversed hprefix, ih _ _ hunmarked.2, hsize,
      Nat.add_assoc, List.reverse_cons, List.append_assoc, List.singleton_append]

theorem splitFrom_of_pieces (h : Pieces cs segments) (position : Nat) :
    splitFrom position [] cs = .ok segments := by
  induction h generalizing position with
  | last text unmarked =>
    have htext := splitFrom_text position [] unmarked (.inl rfl)
    rw [List.append_nil] at htext
    rw [htext, List.append_nil, splitFrom]
  | next text body unmarked closes _ ih =>
    rename_i rest segments _
    have htext := splitFrom_text position [] unmarked
      (.inr (List.prefix_append openMark (body ++ closeMark ++ rest)))
    rw [List.append_assoc, htext, List.append_nil, splitFrom_mark _ _ (closes rest), ih]

theorem split_eq_ok_iff {template : String} :
    split template = .ok segments ↔ Pieces template.toList segments :=
  ⟨fun h => pieces_of_splitFrom h fun _ _ _ => Nat.zero_le _, fun h => splitFrom_of_pieces h 0⟩

/-- Characters have one row of pieces at most. -/
theorem Pieces.unique (h : Pieces cs segments) (h' : Pieces cs pieces) : segments = pieces := by
  have heq := splitFrom_of_pieces h 0
  rw [splitFrom_of_pieces h' 0] at heq
  exact (Except.ok.inj heq).symm

/-! ### Literal pieces -/

theorem literalOf_reverse (text : List Char) :
    literalOf text.reverse = if text = [] then [] else [.literal (String.ofList text)] := by
  cases text <;> simp [literalOf]

/-- The text before an expression, its source and the pieces behind it can be told apart. -/
theorem literalOf_append_inj {text text' : List Char} {source source' : String}
    (h : literalOf text.reverse ++ .expression source :: segments =
      literalOf text'.reverse ++ .expression source' :: pieces) :
    text = text' ∧ source = source' ∧ segments = pieces := by
  rw [literalOf_reverse, literalOf_reverse] at h
  by_cases htext : text = [] <;> by_cases htext' : text' = []
  · rw [if_pos htext, if_pos htext'] at h
    cases h
    exact ⟨htext.trans htext'.symm, rfl, rfl⟩
  · rw [if_pos htext, if_neg htext'] at h
    cases h
  · rw [if_neg htext, if_pos htext'] at h
    cases h
  · rw [if_neg htext, if_neg htext'] at h
    injection h with hliteral hrest
    cases hrest
    exact ⟨String.ofList_injective (Segment.literal.inj hliteral), rfl, rfl⟩

/-- Characters that have one text, one expression and others as their pieces hold no mark in the
text, and the rest of them has the rest of the pieces. -/
theorem Pieces.of_append {source : String}
    (h : Pieces (text ++ openMark ++ (body ++ closeMark ++ rest))
      (literalOf text.reverse ++ .expression source :: pieces)) (hbody : Closes body) :
    ¬openMark <:+: text ∧ Pieces rest pieces := by
  generalize hcs : text ++ openMark ++ (body ++ closeMark ++ rest) = cs at h
  generalize hpieces : literalOf text.reverse ++ .expression source :: pieces = segments at h
  cases h with
  | last _ unmarked =>
    rw [← hcs] at unmarked
    exact absurd ⟨text, body ++ closeMark ++ rest, rfl⟩ unmarked
  | next text' body' unmarked closes tail =>
    obtain ⟨rfl, -, rfl⟩ := literalOf_append_inj hpieces
    have hbehind := List.append_cancel_left hcs
    have hsplit := hbody rest
    rw [hbehind, closes] at hsplit
    cases hsplit
    exact ⟨unmarked, tail⟩

/-- Characters that are their own only piece hold no mark. -/
theorem Pieces.unmarked (h : Pieces text (literalOf text.reverse)) : ¬openMark <:+: text := by
  generalize hpieces : literalOf text.reverse = segments at h
  cases h with
  | last _ unmarked => exact unmarked
  | next text' body =>
    rw [literalOf_reverse, literalOf_reverse] at hpieces
    split at hpieces <;> split at hpieces <;> simp at hpieces

/-! ### Rendering -/

theorem renderSegments_literalOf (context : Context) (text : List Char) (segments : List Segment) :
    renderSegments context (literalOf text.reverse ++ segments) =
      (String.ofList text ++ ·) <$> renderSegments context segments := by
  rw [literalOf_reverse]
  split
  · next h =>
    subst h
    simp
  · rfl

/-- A template is rendered piece by piece. -/
theorem interpolate_of_pieces {template : String} (h : Pieces template.toList segments)
    (context : Context) : interpolate template context = renderSegments context segments := by
  unfold interpolate hasMark
  by_cases hmark : openMark <:+: template.toList
  · rw [if_pos (containsChars_iff.mpr hmark), split_eq_ok_iff.mpr h]
  · rw [if_neg fun hcontains => hmark (containsChars_iff.mp hcontains),
      h.unique (Pieces.last _ hmark), ← List.append_nil (literalOf _), renderSegments_literalOf,
      String.ofList_toList, renderSegments]
    show Except.ok template = Except.ok (template ++ "")
    rw [String.append_empty]

end Pipeline.Expression
