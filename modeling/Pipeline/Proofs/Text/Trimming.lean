import Mathlib.Data.List.DropRight
import Mathlib.Data.List.Infix
import Mathlib.Data.List.TakeWhile
import Pipeline.Text.Blank

/-! What cutting blanks from the ends of characters leaves alone: characters between others that are
no blanks, and every part that holds no blank. -/

namespace Pipeline.Text

variable {cs ds body part : List Char}

theorem trimChars_append (hfront : ∀ c ∈ cs, isBlank c = true)
    (hback : ∀ c ∈ ds, isBlank c = true) :
    trimChars (cs ++ body ++ ds) = trimChars body := by
  have hleft : trimLeftChars (cs ++ body ++ ds) = trimLeftChars (body ++ ds) := by
    rw [List.append_assoc, trimLeftChars, List.dropWhile_append_of_pos hfront]
    rfl
  have hright (text : List Char) : trimRightChars (text ++ ds) = trimRightChars text := by
    rw [trimRightChars, List.reverse_append,
      List.dropWhile_append_of_pos fun c hc => hback c (List.mem_reverse.mp hc)]
    rfl
  have hnone : ds.dropWhile isBlank = [] := List.dropWhile_eq_nil_iff.mpr hback
  rw [trimChars, hleft, trimLeftChars, List.dropWhile_append]
  split
  · next hempty =>
    rw [hnone, trimChars, trimLeftChars, List.isEmpty_iff.mp hempty]
  · rw [hright]
    rfl

theorem trimChars_of_trim {text : String} (h : trim text = text) :
    trimChars text.toList = text.toList := by
  rw [← String.toList_ofList (l := trimChars text.toList)]
  exact congrArg String.toList h

theorem length_trimChars_le (cs : List Char) : (trimChars cs).length ≤ cs.length := by
  obtain ⟨front, back, heq, -, -⟩ := exists_eq_append_trimChars cs
  have hlength := congrArg List.length heq
  rw [List.length_append, List.length_append] at hlength
  omega

theorem trimChars_eq_nil_iff : trimChars cs = [] ↔ ∀ c ∈ cs, isBlank c = true := by
  constructor
  · intro hnil c hc
    by_contra hblank
    have hmem := mem_trimChars hc (Bool.eq_false_iff.mpr hblank)
    rw [hnil] at hmem
    cases hmem
  · intro hblank
    rw [List.eq_nil_iff_forall_not_mem]
    intro c hc
    have hall : trimChars (cs ++ [] ++ []) = trimChars [] := trimChars_append hblank nofun
    rw [List.append_nil, List.append_nil] at hall
    rw [hall] at hc
    cases hc

theorem isBlank_of_head?_trimChars {c : Char} (h : (trimChars cs).head? = some c) :
    isBlank c = false := by
  have hprefix : trimChars cs <+: trimLeftChars cs := List.rdropWhile_prefix isBlank _
  have hhead := List.head?_dropWhile_not isBlank cs
  obtain ⟨rest, hrest⟩ := hprefix
  rw [← trimLeftChars, ← hrest, List.head?_append, h] at hhead
  exact hhead

/-- Nothing is cut from characters that neither start nor end with a blank. -/
theorem trimChars_of_ends (hhead : ∀ c, cs.head? = some c → isBlank c = false)
    (hlast : ∀ c, cs.getLast? = some c → isBlank c = false) : trimChars cs = cs := by
  have hleft {text : List Char} (h : ∀ c, text.head? = some c → isBlank c = false) :
      trimLeftChars text = text := by
    cases text with
    | nil => rfl
    | cons c rest => exact List.dropWhile_cons_of_neg (Bool.eq_false_iff.mp (h c rfl))
  have hright : trimLeftChars cs.reverse = cs.reverse :=
    hleft fun c hc => hlast c (List.head?_reverse ▸ hc)
  rw [trimChars, hleft hhead, trimRightChars, ← trimLeftChars, hright, List.reverse_reverse]

theorem trimChars_eq_self {c d : Char} (hc : isBlank c = false) (hd : isBlank d = false) :
    trimChars (c :: (cs ++ [d])) = c :: (cs ++ [d]) := by
  apply trimChars_of_ends
  · intro first hfirst
    cases hfirst
    exact hc
  · intro last hlast
    rw [← List.cons_append, List.getLast?_concat] at hlast
    cases hlast
    exact hd

/-- A part without blanks does not reach into blanks in front. -/
theorem infix_of_blanks_append (hpart : ∀ c ∈ part, isBlank c = false) (hne : part ≠ [])
    (hfront : ∀ c ∈ cs, isBlank c = true) (h : part <:+: cs ++ ds) : part <:+: ds := by
  induction cs with
  | nil => exact h
  | cons c cs ih =>
    obtain ⟨hblank, hrest⟩ := List.forall_mem_cons.mp hfront
    rw [List.cons_append, List.infix_cons_iff] at h
    rcases h with hprefix | hinfix
    · obtain ⟨d, rest, rfl⟩ := List.exists_cons_of_ne_nil hne
      obtain ⟨rfl, -⟩ := List.cons_prefix_cons.mp hprefix
      rw [hpart d (.head _)] at hblank
      cases hblank
    · exact ih hrest hinfix

theorem infix_trimChars_iff (hpart : ∀ c ∈ part, isBlank c = false) (hne : part ≠ []) :
    part <:+: trimChars cs ↔ part <:+: cs := by
  obtain ⟨front, back, heq, hfront, hback⟩ := exists_eq_append_trimChars cs
  constructor
  · intro h
    exact h.trans ⟨front, back, heq.symm⟩
  · intro h
    rw [heq, List.append_assoc] at h
    have hbehind : part <:+: trimChars cs ++ back := infix_of_blanks_append hpart hne hfront h
    rw [← List.reverse_infix, List.reverse_append] at hbehind
    refine List.reverse_infix.mp (infix_of_blanks_append ?_ ?_ ?_ hbehind)
    · exact fun c hc => hpart c (List.mem_reverse.mp hc)
    · exact fun hnil => hne (List.reverse_eq_nil_iff.mp hnil)
    · exact fun c hc => hback c (List.mem_reverse.mp hc)

end Pipeline.Text
