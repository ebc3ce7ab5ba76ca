import Pipeline.Text.Case

/-! Two ways to fold the case of letters. Small letters over all scripts do not tell `A` to `Z` from
`a` to `z`, so texts that are equal up to these have the same small letters; the converse holds where
every other character is its own small letter. -/

namespace Pipeline.Text

variable {s t : String} {c : Char}

theorem exists_capital_of_toLower_ne (h : c.toLower ≠ c) : ∃ n < 26, c = Char.ofNat (65 + n) := by
  have hcapital : 'A'.val ≤ c.val ∧ c.val ≤ 'Z'.val :=
    Classical.byContradiction fun hother => h (dif_neg hother)
  obtain ⟨hfirst, hlast⟩ := hcapital
  have hfirst : 65 ≤ c.toNat := UInt32.le_iff_toNat_le.mp hfirst
  have hlast : c.toNat ≤ 90 := UInt32.le_iff_toNat_le.mp hlast
  refine ⟨c.toNat - 65, by omega, ?_⟩
  rw [show 65 + (c.toNat - 65) = c.toNat by omega, Char.ofNat_toNat]

/-- What does not tell `A` to `Z` from `a` to `z` does not change as these are made small. -/
theorem apply_toLower {α : Type} {f : Char → α}
    (h : ∀ n < 26, f (Char.ofNat (65 + n)).toLower = f (Char.ofNat (65 + n))) (c : Char) :
    f c.toLower = f c := by
  by_cases hsmall : c.toLower = c
  · rw [hsmall]
  · obtain ⟨n, hn, rfl⟩ := exists_capital_of_toLower_ne hsmall
    exact h n hn

@[simp] theorem lowerLetter_toLower (c : Char) : lowerLetter c.toLower = lowerLetter c :=
  apply_toLower (by decide +kernel) c

@[simp] theorem isCased_toLower (c : Char) : isCased c.toLower = isCased c :=
  apply_toLower (by decide +kernel) c

@[simp] theorem isCaseIgnorable_toLower (c : Char) : isCaseIgnorable c.toLower = isCaseIgnorable c :=
  apply_toLower (by decide +kernel) c

theorem toLower_eq_sigma_iff : c.toLower = 'Σ' ↔ c = 'Σ' := by
  have h := apply_toLower (f := fun c => decide (c = 'Σ')) (by decide +kernel) c
  simpa using h

theorem startsCased_map_toLower (cs : List Char) :
    startsCased (cs.map Char.toLower) = startsCased cs := by
  have hpassed : isCaseIgnorable ∘ Char.toLower = isCaseIgnorable :=
    funext isCaseIgnorable_toLower
  rw [startsCased, startsCased, List.dropWhile_map, hpassed]
  cases cs.dropWhile isCaseIgnorable with
  | nil => rfl
  | cons c rest => exact isCased_toLower c

theorem lowerAfter_map_toLower (before cs : List Char) :
    lowerAfter (before.map Char.toLower) (cs.map Char.toLower) = lowerAfter before cs := by
  induction cs generalizing before with
  | nil => rfl
  | cons c rest ih =>
    rw [List.map_cons, lowerAfter, lowerAfter, ← List.map_cons, ih, lowerLetter_toLower,
      startsCased_map_toLower, startsCased_map_toLower]
    simp only [toLower_eq_sigma_iff]

theorem foldAscii_eq_iff :
    foldAscii s = foldAscii t ↔ s.toList.map Char.toLower = t.toList.map Char.toLower := by
  rw [← String.toList_inj, foldAscii, foldAscii, String.toList_map, String.toList_map]

theorem lower_foldAscii (s : String) : lower (foldAscii s) = lower s := by
  rw [lower, lower, foldAscii, String.toList_map]
  exact congrArg String.ofList (lowerAfter_map_toLower [] s.toList)

theorem lower_eq_of_foldAscii_eq (h : foldAscii s = foldAscii t) : lower s = lower t := by
  rw [← lower_foldAscii s, h, lower_foldAscii]

/-- Apart from `A` to `Z` every character is its own small letter. -/
def IsPlain (s : String) : Prop :=
  ∀ c ∈ s.toList, lowerLetter c = [c.toLower]

instance (s : String) : Decidable (IsPlain s) :=
  List.decidableBAll _ s.toList

theorem lowerAfter_of_plain {cs : List Char} (h : ∀ c ∈ cs, lowerLetter c = [c.toLower])
    (before : List Char) : lowerAfter before cs = cs.map Char.toLower := by
  induction cs generalizing before with
  | nil => rfl
  | cons c rest ih =>
    have hne : c ≠ 'Σ' := by
      rintro rfl
      exact absurd (h 'Σ' (by simp)) (by decide +kernel)
    rw [lowerAfter, if_neg hne, h c List.mem_cons_self,
      ih fun d hd => h d (List.mem_cons_of_mem c hd)]
    rfl

theorem IsPlain.lower_eq (h : IsPlain s) : lower s = foldAscii s := by
  rw [lower, lowerAfter_of_plain h, foldAscii, ← String.toList_map, String.ofList_toList]

end Pipeline.Text
