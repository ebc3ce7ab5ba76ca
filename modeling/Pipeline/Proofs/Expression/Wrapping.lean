import Pipeline.Proofs.Expression.Segments
import Pipeline.Proofs.Text.Trimming

/-! Texts that stand between the marks of an expression. Taking the marks off looks for no quotes:
it gives back what stands between them unless that holds the mark at which an expression starts. -/

namespace Pipeline.Expression

variable {cs inner body : List Char} {text source : String}

theorem isBlank_openMark : ∀ c ∈ openMark, Text.isBlank c = false := by
  have hall : (openMark.all fun c => !Text.isBlank c) = true := by decide
  simpa using hall

/-- Blanks around a source hold no part of a mark. -/
theorem openMark_infix_trimChars_iff : openMark <:+: Text.trimChars cs ↔ openMark <:+: cs :=
  Text.infix_trimChars_iff isBlank_openMark (List.cons_ne_nil _ _)

theorem not_openMark_infix_of_blanks (h : ∀ c ∈ cs, Text.isBlank c = true) :
    ¬ openMark <:+: cs := by
  intro hinfix
  have hmem : '$' ∈ cs := hinfix.subset (by decide)
  have hblank := h '$' hmem
  cases hblank

theorem trimChars_wrapped (inner : List Char) :
    Text.trimChars (openMark ++ (inner ++ closeMark)) = openMark ++ (inner ++ closeMark) := by
  have hends : openMark ++ (inner ++ closeMark) =
      '$' :: (['\x7b', '\x7b'] ++ inner ++ ['\x7d'] ++ ['\x7d']) := by
    simp [openMark, closeMark]
  rw [hends]
  exact Text.trimChars_eq_self (by decide) (by decide)

/-- The characters between the marks, if both are there and no other mark starts between them. -/
def between? : List Char → Option (List Char)
  | '$' :: '\x7b' :: '\x7b' :: rest =>
    if closeMark.isSuffixOf rest then
      let inner := rest.take (rest.length - closeMark.length)
      if containsChars openMark inner then none else some inner
    else none
  | _ => none

theorem stripWrapper_eq (text : String) :
    stripWrapper text =
      match between? (Text.trimChars text.toList) with
      | some inner => String.ofList (Text.trimChars inner)
      | none => Text.trim text := rfl

theorem between?_eq_some_iff :
    between? cs = some inner ↔ cs = openMark ++ (inner ++ closeMark) ∧ ¬ openMark <:+: inner := by
  have htake (inner : List Char) :
      (inner ++ closeMark).take ((inner ++ closeMark).length - closeMark.length) = inner := by
    rw [List.length_append, Nat.add_sub_cancel]
    exact List.take_left
  constructor
  · intro h
    unfold between? at h
    split at h
    · next rest =>
      split at h
      · next hsuffix =>
        obtain ⟨found, rfl⟩ := List.isSuffixOf_iff_suffix.mp hsuffix
        dsimp only at h
        rw [htake] at h
        split at h
        · cases h
        · next hcontains =>
          cases h
          exact ⟨rfl, fun hinfix => hcontains (containsChars_iff.mpr hinfix)⟩
      · cases h
    · cases h
  · rintro ⟨rfl, hunmarked⟩
    have hsuffix : closeMark.isSuffixOf (inner ++ closeMark) = true :=
      List.isSuffixOf_iff_suffix.mpr (List.suffix_append ..)
    have hcontains : containsChars openMark inner = false :=
      Bool.eq_false_iff.mpr fun hcontains => hunmarked (containsChars_iff.mp hcontains)
    show between? ('$' :: '\x7b' :: '\x7b' :: (inner ++ closeMark)) = some inner
    rw [between?]
    dsimp only
    rw [if_pos hsuffix, htake, hcontains]
    rfl

/-! ### Whole expressions -/

/-- A text that splits into one expression has nothing around its marks. -/
theorem exists_body_of_split (h : split text = .ok [.expression source]) :
    ∃ body, text.toList = openMark ++ (body ++ closeMark) ∧
      source = String.ofList (Text.trimChars body) := by
  have hpieces := split_eq_ok_iff.mp h
  generalize htext : text.toList = cs at hpieces
  generalize hsegments : [Segment.expression source] = segments at hpieces
  cases hpieces with
  | last text' _ =>
    rw [literalOf_reverse] at hsegments
    split at hsegments <;> cases hsegments
  | @next before body rest segments' _ _ tail =>
    have hsame : literalOf [].reverse ++ .expression source :: [] =
        literalOf before.reverse ++
          .expression (String.ofList (Text.trimChars body)) :: segments' := hsegments
    obtain ⟨rfl, hsource, rfl⟩ := literalOf_append_inj hsame
    have hrest : rest = [] := by
      generalize hnone : ([] : List Segment) = pieces at tail
      cases tail with
      | last text' _ =>
        rw [literalOf_reverse] at hnone
        split at hnone
        · assumption
        · cases hnone
      | next => simp at hnone
    rw [hrest, List.append_nil]
    exact ⟨body, rfl, hsource⟩

theorem openMark_prefix_of_split (h : split text = .ok [.expression source]) :
    openMark <+: text.toList := by
  obtain ⟨body, htext, -⟩ := exists_body_of_split h
  exact ⟨body ++ closeMark, htext.symm⟩

/-- The source has neither the marks of its text nor the blanks inside of them. -/
theorem ne_of_split (h : split text = .ok [.expression source]) : text ≠ source := by
  obtain ⟨body, htext, hsource⟩ := exists_body_of_split h
  intro hsame
  have hshorter : source.toList.length ≤ body.length := by
    rw [hsource, String.toList_ofList]
    exact Text.length_trimChars_le body
  rw [← hsame, htext, List.length_append, List.length_append] at hshorter
  simp only [openMark, List.length_cons] at hshorter
  omega

theorem stripWrapper_of_unmarked (h : split text = .ok [.expression source])
    (hunmarked : ¬ openMark <:+: source.toList) : stripWrapper text = source := by
  obtain ⟨body, htext, rfl⟩ := exists_body_of_split h
  rw [String.toList_ofList, openMark_infix_trimChars_iff] at hunmarked
  have hbetween : between? (Text.trimChars text.toList) = some body := by
    rw [htext, trimChars_wrapped]
    exact between?_eq_some_iff.mpr ⟨rfl, hunmarked⟩
  rw [stripWrapper_eq, hbetween]

theorem stripWrapper_of_marked (h : split text = .ok [.expression source])
    (hmarked : openMark <:+: source.toList) : stripWrapper text = text := by
  obtain ⟨body, htext, rfl⟩ := exists_body_of_split h
  rw [String.toList_ofList, openMark_infix_trimChars_iff] at hmarked
  have hbetween : between? (Text.trimChars text.toList) = none := by
    rw [htext, trimChars_wrapped, Option.eq_none_iff_forall_ne_some]
    intro inner hinner
    obtain ⟨hsame, hunmarked⟩ := between?_eq_some_iff.mp hinner
    have hbody : body = inner := List.append_cancel_right (List.append_cancel_left hsame)
    exact hunmarked (hbody ▸ hmarked)
  rw [stripWrapper_eq, hbetween]
  show String.ofList (Text.trimChars text.toList) = text
  rw [htext, trimChars_wrapped, ← htext, String.ofList_toList]

/-- A text with a mark in front is no expression. -/
theorem parse_of_openMark (h : openMark <+: text.toList) :
    parse text = .error ⟨.lexical (.unexpectedCharacter '$'), 0⟩ := by
  obtain ⟨rest, hrest⟩ := h
  have hblank : Text.isBlank '$' = false := by decide
  have hread : readToken '$' ('\x7b' :: '\x7b' :: rest) = .error (.unexpectedCharacter '$') := by
    have hstart : isNameStart '$' = false := by decide +kernel
    unfold readToken
    rw [if_neg (by decide), if_neg (by decide), hstart]
    rfl
  have htokens : tokenize text = .error ⟨.unexpectedCharacter '$', 0⟩ := by
    rw [tokenize, ← hrest]
    show scan 0 ('$' :: '\x7b' :: '\x7b' :: rest) (rest.length + 3) = _
    rw [scan, hblank, hread]
    rfl
  rw [parse, htokens]

theorem interpolate_of_split (h : split text = .ok [.expression source]) (context : Context) :
    interpolate text context = (evaluate source context).map toText := by
  rw [interpolate_of_pieces (split_eq_ok_iff.mp h)]
  show (do let value ← evaluate source context; pure (toText value ++ "")) = _
  cases evaluate source context with
  | error e => rfl
  | ok value =>
    show Except.ok (toText value ++ "") = Except.ok (toText value)
    rw [String.append_empty]

theorem checkTemplate_of_split (h : split text = .ok [.expression source]) :
    checkTemplate text =
      match parse source with
      | .error e => .error (.parse e)
      | .ok _ => .ok () := by
  rw [checkTemplate, h]
  show checkSegments [.expression source] = _
  rw [checkSegments]
  rfl

/-! ### Texts of which nothing is left -/

/-- Nothing but blanks, or nothing but blanks between the marks of an expression. -/
inductive Vacant : String → Prop where
  | blank {text : String} (blank : Text.isAllBlank text = true) : Vacant text
  | wrapped {front inner back : String} (front_blank : Text.isAllBlank front = true)
      (inner_blank : Text.isAllBlank inner = true) (back_blank : Text.isAllBlank back = true) :
      Vacant (front ++ "$\x7b\x7b" ++ inner ++ "\x7d\x7d" ++ back)

theorem Vacant.stripWrapper_eq (h : Vacant text) : stripWrapper text = "" := by
  cases h with
  | blank hblank =>
    have htrim : Text.trimChars text.toList = [] :=
      Text.trimChars_eq_nil_iff.mpr (List.all_eq_true.mp hblank)
    have hbetween : between? (Text.trimChars text.toList) = none := by
      rw [htrim, between?]
      exact nofun
    rw [Expression.stripWrapper_eq, hbetween]
    show String.ofList (Text.trimChars text.toList) = ""
    rw [htrim, String.ofList_nil]
  | @wrapped front inner back hfront hinner hback =>
    have hfront := List.all_eq_true.mp hfront
    have hinner := List.all_eq_true.mp hinner
    have hback := List.all_eq_true.mp hback
    have htext : (front ++ "$\x7b\x7b" ++ inner ++ "\x7d\x7d" ++ back).toList =
        front.toList ++ (openMark ++ (inner.toList ++ closeMark)) ++ back.toList := by
      simp only [String.toList_append, List.append_assoc]
      rfl
    have hbetween : between? (Text.trimChars
        (front ++ "$\x7b\x7b" ++ inner ++ "\x7d\x7d" ++ back).toList) = some inner.toList := by
      rw [htext, Text.trimChars_append hfront hback, trimChars_wrapped]
      exact between?_eq_some_iff.mpr ⟨rfl, not_openMark_infix_of_blanks hinner⟩
    rw [Expression.stripWrapper_eq, hbetween]
    dsimp only
    rw [Text.trimChars_eq_nil_iff.mpr hinner, String.ofList_nil]

theorem stripWrapper_eq_empty_iff : stripWrapper text = "" ↔ Vacant text := by
  refine ⟨fun h => ?_, Vacant.stripWrapper_eq⟩
  have hnil {cs : List Char} (hempty : String.ofList (Text.trimChars cs) = "") :
      ∀ c ∈ cs, Text.isBlank c = true :=
    Text.trimChars_eq_nil_iff.mp (String.ofList_injective hempty)
  rw [stripWrapper_eq] at h
  cases hbetween : between? (Text.trimChars text.toList) with
  | none =>
    rw [hbetween] at h
    exact .blank (List.all_eq_true.mpr (hnil h))
  | some inner =>
    rw [hbetween] at h
    obtain ⟨hwrapped, -⟩ := between?_eq_some_iff.mp hbetween
    obtain ⟨front, back, heq, hfront, hback⟩ := Text.exists_eq_append_trimChars text.toList
    have htext : text = String.ofList front ++ "$\x7b\x7b" ++ String.ofList inner ++ "\x7d\x7d" ++
        String.ofList back := by
      rw [← String.toList_inj, heq, hwrapped]
      simp only [String.toList_append, String.toList_ofList, List.append_assoc]
      rfl
    rw [htext]
    refine .wrapped ?_ ?_ ?_ <;> rw [Text.isAllBlank, String.toList_ofList, List.all_eq_true]
    · exact hfront
    · exact hnil h
    · exact hback

end Pipeline.Expression
