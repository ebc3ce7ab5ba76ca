/-! White space of all scripts, and the texts that remain when it is cut from the ends. -/

namespace Pipeline.Text

/-- A white-space character of any script. -/
def isBlank (c : Char) : Bool :=
  let n := c.toNat
  (9 ≤ n && n ≤ 13) || n == 32 || n == 0x85 || n == 0xa0 || n == 0x1680 ||
    (0x2000 ≤ n && n ≤ 0x200a) || n == 0x2028 || n == 0x2029 || n == 0x202f || n == 0x205f ||
    n == 0x3000

/-- The characters without the blanks at the front. -/
def trimLeftChars (cs : List Char) : List Char :=
  cs.dropWhile isBlank

/-- The characters without the blanks at the end. -/
def trimRightChars (cs : List Char) : List Char :=
  (cs.reverse.dropWhile isBlank).reverse

/-- The characters without the blanks at either end. -/
def trimChars (cs : List Char) : List Char :=
  trimRightChars (trimLeftChars cs)

/-- What is cut from the ends of characters are blanks. -/
theorem exists_eq_append_trimChars (cs : List Char) : ∃ front back,
    cs = front ++ trimChars cs ++ back ∧
      (∀ c ∈ front, isBlank c = true) ∧ ∀ c ∈ back, isBlank c = true := by
  have hleft : cs.takeWhile isBlank ++ trimLeftChars cs = cs := List.takeWhile_append_dropWhile
  have hright : trimChars cs ++ ((trimLeftChars cs).reverse.takeWhile isBlank).reverse =
      trimLeftChars cs := by
    rw [trimChars, trimRightChars, ← List.reverse_append, List.takeWhile_append_dropWhile,
      List.reverse_reverse]
  refine ⟨cs.takeWhile isBlank, ((trimLeftChars cs).reverse.takeWhile isBlank).reverse, ?_, ?_, ?_⟩
  · rw [List.append_assoc, hright, hleft]
  · exact fun c hc => List.all_eq_true.mp List.all_takeWhile c hc
  · exact fun c hc => List.all_eq_true.mp List.all_takeWhile c (List.mem_reverse.mp hc)

theorem mem_trimChars {cs : List Char} {c : Char} (hmem : c ∈ cs) (hc : isBlank c = false) :
    c ∈ trimChars cs := by
  obtain ⟨front, back, heq, hfront, hback⟩ := exists_eq_append_trimChars cs
  rw [heq, List.mem_append, List.mem_append] at hmem
  obtain (hmem | hmem) | hmem := hmem
  · rw [hfront c hmem] at hc
    cases hc
  · exact hmem
  · rw [hback c hmem] at hc
    cases hc

theorem trimChars_subset (cs : List Char) : trimChars cs ⊆ cs := by
  obtain ⟨front, back, heq, -, -⟩ := exists_eq_append_trimChars cs
  intro c hc
  rw [heq]
  simp [hc]

theorem isBlank_of_getLast?_trimChars {cs : List Char} {c : Char}
    (h : (trimChars cs).getLast? = some c) : isBlank c = false := by
  rw [trimChars, trimRightChars, List.getLast?_reverse] at h
  have hhead := List.head?_dropWhile_not isBlank (trimLeftChars cs).reverse
  rw [h] at hhead
  exact hhead

/-- The text without the blanks at either end. -/
def trim (s : String) : String :=
  String.ofList (trimChars s.toList)

/-- Nothing but blanks. -/
def isAllBlank (s : String) : Bool :=
  s.toList.all isBlank

end Pipeline.Text
