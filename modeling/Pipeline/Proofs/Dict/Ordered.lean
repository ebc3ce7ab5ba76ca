import Mathlib.Data.List.Pairwise
import Mathlib.Data.String.Basic
import Pipeline.Dict

/-! The order of the keys of a map. A binding keeps it, so every map that bindings have made has it
and binds no key twice, and such a map is made of its own bindings. -/

namespace Pipeline.Dict

variable {α β : Type} {d e : Dict α} {pair : String × α} {key other : String} {value : α}

/-- The keys increase. -/
def IsOrdered (d : Dict α) : Prop :=
  (keys d).Pairwise (· < ·)

instance (d : Dict α) : Decidable (IsOrdered d) :=
  inferInstanceAs (Decidable ((keys d).Pairwise (· < ·)))

theorem isOrdered_nil : IsOrdered ([] : Dict α) :=
  .nil

theorem isOrdered_cons :
    IsOrdered (pair :: d) ↔ (∀ key ∈ keys d, pair.1 < key) ∧ IsOrdered d :=
  List.pairwise_cons

theorem IsOrdered.nodup (h : IsOrdered d) : (keys d).Nodup :=
  List.Pairwise.imp ne_of_lt h

theorem mem_keys_cons : other ∈ keys (pair :: d) ↔ other = pair.1 ∨ other ∈ keys d :=
  List.mem_cons

theorem mem_keys_insert : other ∈ keys (d.insert key value) ↔ other = key ∨ other ∈ keys d := by
  induction d with
  | nil => simp [insert, keys]
  | cons pair rest ih =>
    rw [insert]
    split
    · next hsame => simp [keys, hsame]
    · split
      · simp [keys]
      · rw [mem_keys_cons, mem_keys_cons, ih]
        exact or_left_comm

theorem IsOrdered.insert (h : IsOrdered d) (key : String) (value : α) :
    IsOrdered (d.insert key value) := by
  induction d with
  | nil => exact isOrdered_cons.mpr ⟨nofun, h⟩
  | cons pair rest ih =>
    obtain ⟨hfirst, hrest⟩ := isOrdered_cons.mp h
    rw [Dict.insert]
    split
    · next hsame => exact isOrdered_cons.mpr ⟨hsame ▸ hfirst, hrest⟩
    · next hdiffer =>
      split
      · next hbefore =>
        refine isOrdered_cons.mpr ⟨fun other hother => ?_, h⟩
        obtain rfl | hother := List.mem_cons.mp hother
        · exact hbefore
        · exact String.lt_trans hbefore (hfirst other hother)
      · next hafter =>
        refine isOrdered_cons.mpr ⟨fun other hother => ?_, ih hrest⟩
        obtain rfl | hother := mem_keys_insert.mp hother
        · exact lt_of_le_of_ne (not_lt.mp hafter) (Ne.symm hdiffer)
        · exact hfirst other hother

theorem IsOrdered.override (h : IsOrdered d) (pairs : List (String × α)) :
    IsOrdered (override d pairs) := by
  induction pairs generalizing d with
  | nil => exact h
  | cons pair rest ih => exact ih (h.insert pair.1 pair.2)

theorem isOrdered_ofList (pairs : List (String × α)) : IsOrdered (ofList pairs) :=
  isOrdered_nil.override pairs

/-! ### Maps made of their own bindings -/

theorem insert_of_forall_lt (h : ∀ other ∈ keys d, other < key) :
    d.insert key value = d ++ [(key, value)] := by
  induction d with
  | nil => rfl
  | cons pair rest ih =>
    have hfirst : pair.1 < key := h pair.1 List.mem_cons_self
    have hdiffer : key ≠ pair.1 := fun heq => String.lt_irrefl _ (heq ▸ hfirst)
    rw [insert, if_neg hdiffer, if_neg (String.lt_asymm hfirst),
      ih fun other hother => h other (List.mem_cons_of_mem _ hother)]
    rfl

theorem override_of_isOrdered (h : IsOrdered (d ++ e)) : override d e = d ++ e := by
  induction e generalizing d with
  | nil => rw [List.append_nil, override, List.foldl_nil]
  | cons pair rest ih =>
    have hbefore : ∀ other ∈ keys d, other < pair.1 := by
      rw [IsOrdered, keys, List.map_append] at h
      exact fun other hother => (List.pairwise_append.mp h).2.2 other hother _ List.mem_cons_self
    have hstep : d.insert pair.1 pair.2 = d ++ [pair] := insert_of_forall_lt hbefore
    have hmoved : d ++ pair :: rest = (d ++ [pair]) ++ rest := List.append_cons ..
    rw [hmoved] at h ⊢
    rw [← ih h, ← hstep]
    rfl

theorem IsOrdered.ofList_eq (h : IsOrdered d) : ofList d = d :=
  override_of_isOrdered (d := []) h

theorem IsOrdered.filterMap (h : IsOrdered d) {f : String × α → Option (String × β)}
    (hkeys : ∀ pair out, f pair = some out → out.1 = pair.1) : IsOrdered (d.filterMap f) := by
  suffices hsub : (keys (d.filterMap f)).Sublist (keys d) from h.sublist hsub
  clear h
  induction d with
  | nil => exact .slnil
  | cons pair rest ih =>
    rw [List.filterMap_cons]
    cases hout : f pair with
    | none => exact ih.cons _
    | some out =>
      rw [keys, List.map_cons, keys, List.map_cons, hkeys pair out hout]
      exact ih.cons_cons _

end Pipeline.Dict
