import Mathlib.Data.List.Chain
import Pipeline.Trigger

/-! Patterns of branch names as languages. A pattern has one reading as a list of items, and a text
matches it exactly if the text can be cut into pieces, one for each item in turn. -/

namespace Pipeline.Glob

/-- How an item is written. -/
def Item.spelling : Item → List Char
  | .anything => ['*', '*']
  | .segment => ['*']
  | .single => ['?']
  | .char c => [c]

/-- The texts that an item stands for. -/
inductive Piece : Item → List Char → Prop where
  | anything (text : List Char) : Piece .anything text
  | segment {text : List Char} (within : '/' ∉ text) : Piece .segment text
  | single {c : Char} (within : c ≠ '/') : Piece .single [c]
  | char (c : Char) : Piece (.char c) [c]

/-- A single star and a star behind it would be read together. -/
def Apart (item next : Item) : Prop :=
  item = .segment → next ≠ .segment ∧ next ≠ .anything

/-- The items are those of a pattern that is read from the left: two stars are taken together before
a star is taken alone, and stars and question marks are no plain characters. -/
structure Reading (pattern : List Char) (its : List Item) : Prop where
  spelled : its.flatMap Item.spelling = pattern
  plain : ∀ c, .char c ∈ its → c ≠ '*' ∧ c ≠ '?'
  apart : its.IsChain Apart

/-- The text can be cut into pieces for the items in turn. -/
def Covers (its : List Item) (text : List Char) : Prop :=
  ∃ pieces, List.Forall₂ Piece its pieces ∧ pieces.flatten = text

variable {item : Item} {its : List Item} {pattern text : List Char} {c d : Char}

/-! ### The reading of a pattern -/

theorem Reading.tail (h : Reading pattern (item :: its)) :
    Reading (its.flatMap Item.spelling) its :=
  ⟨rfl, fun c hc => h.plain c (.tail _ hc), h.apart.tail⟩

/-- Behind a single star stands no star. -/
theorem Reading.not_star (h : Reading pattern (.segment :: its)) (rest : List Char) :
    its.flatMap Item.spelling ≠ '*' :: rest := by
  intro heq
  cases its with
  | nil => cases heq
  | cons next its =>
    have hnext := (List.isChain_cons_cons.mp h.apart).1 rfl
    cases next with
    | anything => exact hnext.2 rfl
    | segment => exact hnext.1 rfl
    | single => cases heq
    | char c => exact (h.plain c (by simp)).1 (List.cons.inj heq).1

theorem Reading.items_eq (h : Reading pattern its) : items pattern = its := by
  induction its generalizing pattern with
  | nil => rw [← h.spelled]; rfl
  | cons item its ih =>
    have hrest := ih h.tail
    rw [← h.spelled, List.flatMap_cons]
    cases item with
    | anything => exact congrArg (Item.anything :: ·) hrest
    | segment =>
      rw [Item.spelling, List.singleton_append, items, hrest]
      exact h.not_star
    | single => exact congrArg (Item.single :: ·) hrest
    | char c =>
      obtain ⟨hstar, hmark⟩ := h.plain c (.head _)
      rw [Item.spelling, List.singleton_append, items, hrest]
      all_goals simp [hstar, hmark]

theorem flatMap_spelling_items (pattern : List Char) :
    (items pattern).flatMap Item.spelling = pattern := by
  fun_induction items pattern with
  | case1 => rfl
  | case2 rest ih => simp [Item.spelling, ih]
  | case3 rest _ ih => simp [Item.spelling, ih]
  | case4 rest ih => simp [Item.spelling, ih]
  | case5 c rest _ _ _ ih => simp [Item.spelling, ih]

theorem char_of_mem_items (h : .char c ∈ items pattern) : c ≠ '*' ∧ c ≠ '?' := by
  fun_induction items pattern with
  | case1 => cases h
  | case2 rest ih => exact ih (by simpa using h)
  | case3 rest _ ih => exact ih (by simpa using h)
  | case4 rest ih => exact ih (by simpa using h)
  | case5 d rest hpair hstar hmark ih =>
    obtain heq | hmem := List.mem_cons.mp h
    · cases heq
      exact ⟨hstar, hmark⟩
    · exact ih hmem

/-- An item for stars comes from a star in front. -/
theorem exists_star_of_head? (h : (items pattern).head? = some item)
    (hitem : item = .segment ∨ item = .anything) : ∃ rest, pattern = '*' :: rest := by
  fun_induction items pattern with
  | case1 => cases h
  | case2 rest => exact ⟨_, rfl⟩
  | case3 rest => exact ⟨_, rfl⟩
  | case4 rest =>
    cases h
    simp at hitem
  | case5 d rest =>
    cases h
    simp at hitem

theorem isChain_items (pattern : List Char) : (items pattern).IsChain Apart := by
  fun_induction items pattern with
  | case1 => exact .nil
  | case2 rest ih => exact ih.cons fun _ _ => nofun
  | case3 rest hnext ih =>
    refine ih.cons fun next hhead _ => not_or.mp fun hstar => ?_
    obtain ⟨after, rfl⟩ := exists_star_of_head? hhead hstar
    exact hnext after rfl
  | case4 rest ih => exact ih.cons fun _ _ => nofun
  | case5 c rest _ _ _ ih => exact ih.cons fun _ _ => nofun

/-- A pattern has one reading. -/
theorem reading_iff : Reading pattern its ↔ its = items pattern := by
  constructor
  · exact fun h => h.items_eq.symm
  · rintro rfl
    exact ⟨flatMap_spelling_items pattern, fun _ => char_of_mem_items, isChain_items pattern⟩

/-! ### The texts of a pattern -/

theorem covers_nil : Covers [] text ↔ text = [] := by
  simp [Covers, eq_comm]

theorem covers_cons :
    Covers (item :: its) text ↔ ∃ piece rest, Piece item piece ∧ Covers its rest ∧
      piece ++ rest = text := by
  constructor
  · rintro ⟨pieces, hpieces, rfl⟩
    obtain ⟨piece, pieces, hpiece, hrest, rfl⟩ := List.forall₂_cons_left_iff.mp hpieces
    exact ⟨piece, pieces.flatten, hpiece, ⟨pieces, hrest, rfl⟩, rfl⟩
  · rintro ⟨piece, rest, hpiece, ⟨pieces, hpieces, rfl⟩, rfl⟩
    exact ⟨piece :: pieces, .cons hpiece hpieces, rfl⟩

section Star

variable {allowed : Char → Prop} (h : ∀ piece, Piece item piece ↔ ∀ c ∈ piece, allowed c)

include h

/-- The piece of a star is empty, or its first character goes before a shorter piece. -/
theorem covers_star_cons :
    Covers (item :: its) (c :: text) ↔
      Covers its (c :: text) ∨ allowed c ∧ Covers (item :: its) text := by
  simp only [covers_cons, h]
  constructor
  · rintro ⟨piece, rest, hpiece, hrest, heq⟩
    cases piece with
    | nil => exact .inl (heq ▸ hrest)
    | cons d piece =>
      obtain ⟨rfl, rfl⟩ := List.cons.inj heq
      obtain ⟨hd, hpiece⟩ := List.forall_mem_cons.mp hpiece
      exact .inr ⟨hd, piece, rest, hpiece, hrest, rfl⟩
  · rintro (hrest | ⟨hc, piece, rest, hpiece, hrest, rfl⟩)
    · exact ⟨[], c :: text, nofun, hrest, rfl⟩
    · exact ⟨c :: piece, rest, List.forall_mem_cons.mpr ⟨hc, hpiece⟩, hrest, rfl⟩

theorem covers_star_nil : Covers (item :: its) [] ↔ Covers its [] := by
  simp only [covers_cons, h, List.append_eq_nil_iff]
  constructor
  · rintro ⟨_, _, -, hrest, rfl, rfl⟩
    exact hrest
  · exact fun hrest => ⟨[], [], nofun, hrest, rfl, rfl⟩

end Star

section Letter

variable {allowed : Char → Prop} (h : ∀ piece, Piece item piece ↔ ∃ c, allowed c ∧ piece = [c])

include h

theorem covers_letter_cons :
    Covers (item :: its) (c :: text) ↔ allowed c ∧ Covers its text := by
  simp only [covers_cons, h]
  constructor
  · rintro ⟨_, rest, ⟨d, hd, rfl⟩, hrest, heq⟩
    obtain ⟨rfl, rfl⟩ := List.cons.inj heq
    exact ⟨hd, hrest⟩
  · rintro ⟨hc, hrest⟩
    exact ⟨[c], text, ⟨c, hc, rfl⟩, hrest, rfl⟩

theorem not_covers_letter_nil : ¬Covers (item :: its) [] := by
  simp only [covers_cons, h]
  rintro ⟨_, rest, ⟨d, -, rfl⟩, -, heq⟩
  cases heq

end Letter

theorem piece_anything_iff (piece : List Char) : Piece .anything piece ↔ ∀ c ∈ piece, True :=
  ⟨fun _ _ _ => trivial, fun _ => .anything piece⟩

theorem piece_segment_iff (piece : List Char) : Piece .segment piece ↔ ∀ c ∈ piece, c ≠ '/' :=
  ⟨fun | .segment hpiece => fun _ hc heq => hpiece (heq ▸ hc),
    fun h => .segment fun hmem => h _ hmem rfl⟩

theorem piece_single_iff (piece : List Char) :
    Piece .single piece ↔ ∃ c, c ≠ '/' ∧ piece = [c] :=
  ⟨fun | .single hc => ⟨_, hc, rfl⟩, fun ⟨_, hc, heq⟩ => heq ▸ .single hc⟩

theorem piece_char_iff (piece : List Char) :
    Piece (.char d) piece ↔ ∃ c, c = d ∧ piece = [c] :=
  ⟨fun | .char _ => ⟨_, rfl, rfl⟩, fun ⟨_, hc, heq⟩ => heq ▸ hc ▸ .char _⟩

/-- The search for a cut finds one if there is one. The induction is that of the search: in front of
a star it goes on with fewer items, or with less text. -/
theorem fits_iff_covers (its : List Item) (text : List Char) :
    fits its text = true ↔ Covers its text := by
  fun_induction fits its text with
  | case1 text => rw [covers_nil, List.isEmpty_iff]
  | case2 its ih => rw [covers_star_nil piece_anything_iff, ih]
  | case3 its c text ihItems ihText =>
    rw [covers_star_cons piece_anything_iff, Bool.or_eq_true, ihItems, ihText, true_and]
  | case4 its ih => rw [covers_star_nil piece_segment_iff, ih]
  | case5 its c text ihItems ihText =>
    rw [covers_star_cons piece_segment_iff, Bool.or_eq_true, Bool.and_eq_true, bne_iff_ne,
      ihItems, ihText]
  | case6 its => exact iff_of_false nofun (not_covers_letter_nil piece_single_iff)
  | case7 its c text ih =>
    rw [covers_letter_cons piece_single_iff, Bool.and_eq_true, bne_iff_ne, ih]
  | case8 d its => exact iff_of_false nofun (not_covers_letter_nil piece_char_iff)
  | case9 d its c text ih =>
    rw [covers_letter_cons piece_char_iff, Bool.and_eq_true, beq_iff_eq, ih]

/-- A pattern has one reading from the left, with two stars beside each other as one item; and a
text matches it if and only if the text is made of pieces for the items in turn: any text for two
stars, one without a slash for a star, a character but a slash for a question mark, and else the
character itself. -/
theorem matchText_iff_cut (pattern text : String) :
    ∃ its, (∀ other, Reading pattern.toList other ↔ other = its) ∧
      (matchText pattern text = true ↔
        ∃ pieces, List.Forall₂ Piece its pieces ∧ pieces.flatten = text.toList) :=
  ⟨items pattern.toList, fun _ => reading_iff, fits_iff_covers _ _⟩

/-- Of three stars the first two are read together. -/
example : items "a/***".toList = [.char 'a', .char '/', .anything, .segment] := by
  decide

end Pipeline.Glob
