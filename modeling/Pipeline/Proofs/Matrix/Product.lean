import Mathlib.Algebra.BigOperators.Group.List.Basic
import Mathlib.Data.List.Nodup
import Mathlib.Tactic.Ring
import Pipeline.Matrix
import Pipeline.Proofs.Json.Equality

/-! The combinations of a matrix by their places: the dimensions count like the digits of a number
of which the last one varies fastest, and exclusions take combinations out. -/

namespace Pipeline

namespace Assignment

variable {a : Assignment} {key : String} {value : Json}

/-- The keys, in order. -/
def keys (a : Assignment) : List String :=
  a.map (·.1)

/-- A new key is put last. -/
theorem put_of_not_mem (h : key ∉ a.keys) : a.put key value = a ++ [(key, value)] := by
  induction a with
  | nil => rfl
  | cons entry rest ih =>
    obtain ⟨hne, hrest⟩ := not_or.mp (mt List.mem_cons.mpr h)
    rw [put, if_neg fun heq => hne heq.symm, ih hrest]
    rfl

theorem get?_cons (entry : String × Json) (a : Assignment) (key : String) :
    get? (entry :: a) key = if key = entry.1 then some entry.2 else a.get? key := by
  rw [get?, List.lookup_cons]
  split
  · next heq => rw [if_pos (beq_iff_eq.mp heq)]
  · next hne => rw [if_neg (beq_eq_false_iff_ne.mp hne)]; rfl

theorem get?_put (a : Assignment) (key : String) (value : Json) (other : String) :
    (a.put key value).get? other = if other = key then some value else a.get? other := by
  induction a with
  | nil => rw [put, get?_cons]
  | cons entry rest ih =>
    rw [put]
    split
    · next heq =>
      subst heq
      rw [get?_cons, get?_cons]
      split <;> rfl
    · next hne =>
      rw [get?_cons, get?_cons, ih]
      split
      · next heq => rw [if_neg (heq ▸ hne)]
      · rfl

/-- A key that was set before keeps its place. -/
theorem keys_put (a : Assignment) (key : String) (value : Json) :
    (a.put key value).keys = if key ∈ a.keys then a.keys else a.keys ++ [key] := by
  split
  · next hmem =>
    induction a with
    | nil => cases hmem
    | cons entry rest ih =>
      rw [put]
      split
      · rfl
      · next hne =>
        have hrest : key ∈ keys rest := (List.mem_cons.mp hmem).resolve_left fun heq => hne heq.symm
        exact congrArg (entry.1 :: ·) (ih hrest)
  · next hmem =>
    rw [put_of_not_mem hmem]
    exact List.map_append

theorem nodup_keys_put (h : a.keys.Nodup) (key : String) (value : Json) :
    (a.put key value).keys.Nodup := by
  rw [keys_put]
  split
  · exact h
  · next hmem =>
    rw [← List.concat_eq_append]
    exact h.concat hmem

theorem agrees_iff {entry : List (String × Json)} : a.agrees entry = true ↔
    ∀ pair ∈ entry, ∃ value, a.get? pair.1 = some value ∧ Json.Alike value pair.2 := by
  rw [agrees, List.all_eq_true]
  refine forall₂_congr fun pair _ => ?_
  rw [Option.any_eq_true]
  simp only [Json.equal_iff]

end Assignment

namespace Matrix

/-- The names of dimensions, in order. -/
def names (dimensions : List (String × List Json)) : List String :=
  dimensions.map (·.1)

/-- How many combinations dimensions have. -/
def count (dimensions : List (String × List Json)) : Nat :=
  (dimensions.map (·.2.length)).prod

/-- The combinations of dimensions with different names. -/
def rows : List (String × List Json) → List Assignment
  | [] => [[]]
  | (name, values) :: rest => values.flatMap fun value => (rows rest).map ((name, value) :: ·)

variable {dimensions : List (String × List Json)} {m : Matrix} {a : Assignment} {i j : Nat}

theorem extend_eq_rows (h : (a.keys ++ names dimensions).Nodup) :
    extend a dimensions = (rows dimensions).map (a ++ ·) := by
  induction dimensions generalizing a with
  | nil => simp [extend, rows]
  | cons dimension rest ih =>
    obtain ⟨name, values⟩ := dimension
    have hnew : name ∉ a.keys := fun hmem =>
      (List.nodup_append.mp h).2.2 name hmem name (.head _) rfl
    rw [extend, rows, List.map_flatMap]
    congr 1
    funext value
    have hnodup : ((a ++ [(name, value)]).keys ++ names rest).Nodup := by
      simpa [Assignment.keys, names] using h
    rw [Assignment.put_of_not_mem hnew, ih hnodup, List.map_map]
    congr 1
    funext row
    simp

theorem product_eq_rows (h : (names dimensions).Nodup) : product dimensions = rows dimensions := by
  rw [product, extend_eq_rows (a := []) h]
  exact List.map_id _

theorem length_rows (dimensions : List (String × List Json)) :
    (rows dimensions).length = count dimensions := by
  induction dimensions with
  | nil => rfl
  | cons dimension rest ih => simp [rows, count, ih]

/-- Where every part of a list has `n` items, a place says which part it lies in, and where. -/
theorem getElem?_flatMap {α β : Type} {f : α → List β} {n : Nat} (h : ∀ x, (f x).length = n)
    (xs : List α) (i : Nat) : (xs.flatMap f)[i]? = xs[i / n]?.bind fun x => (f x)[i % n]? := by
  induction xs generalizing i with
  | nil => simp
  | cons x rest ih =>
    rw [List.flatMap_cons, List.getElem?_append, h]
    by_cases hlt : i < n
    · rw [if_pos hlt, Nat.div_eq_of_lt hlt, Nat.mod_eq_of_lt hlt]
      rfl
    · obtain rfl | hpos := Nat.eq_zero_or_pos n
      · simp [List.eq_nil_of_length_eq_zero (h _)]
      · have hge := Nat.le_of_not_lt hlt
        have hdiv : i / n = (i - n) / n + 1 := by
          rw [← Nat.add_div_right _ hpos, Nat.sub_add_cancel hge]
        rw [if_neg hlt, ih, ← Nat.mod_eq_sub_mod hge, hdiv, List.getElem?_cons_succ]

theorem getElem?_rows_cons {name : String} {values : List Json}
    (h : (rows ((name, values) :: dimensions))[i]? = some a) :
    ∃ value row, values[i / count dimensions]? = some value ∧
      (rows dimensions)[i % count dimensions]? = some row ∧ a = (name, value) :: row := by
  have hlength : ∀ value : Json,
      ((rows dimensions).map ((name, value) :: ·)).length = count dimensions :=
    fun value => by rw [List.length_map, length_rows]
  rw [rows, getElem?_flatMap hlength, Option.bind_eq_some_iff] at h
  obtain ⟨value, hvalue, hrow⟩ := h
  rw [List.getElem?_map, Option.map_eq_some_iff] at hrow
  obtain ⟨row, hrow, rfl⟩ := hrow
  exact ⟨value, row, hvalue, hrow, rfl⟩

theorem keys_of_rows (h : (rows dimensions)[i]? = some a) : a.keys = names dimensions := by
  induction dimensions generalizing i a with
  | nil =>
    rw [List.mem_singleton.mp (List.mem_of_getElem? h)]
    rfl
  | cons dimension rest ih =>
    obtain ⟨value, row, -, hrow, rfl⟩ := getElem?_rows_cons h
    exact congrArg (dimension.1 :: ·) (ih hrow)

/-- The place of a combination among those of a longer list tells the same value of a dimension as
its place among those from there on. -/
theorem place_mod {values : List Json} {name : String} (h : dimensions[j]? = some (name, values))
    (i : Nat) : i % count dimensions / count (dimensions.drop (j + 1)) % values.length =
      i / count (dimensions.drop (j + 1)) % values.length := by
  obtain ⟨hlt, hdimension⟩ := List.getElem?_eq_some_iff.mp h
  have hcount : count dimensions = count (dimensions.drop (j + 1)) *
      (values.length * count (dimensions.take j)) := by
    conv_lhs => rw [← List.take_append_drop j dimensions, List.drop_eq_getElem_cons hlt, hdimension]
    simp only [count, List.map_append, List.map_cons, List.prod_append, List.prod_cons]
    ring
  rw [hcount, Nat.mod_mul_right_div_self, Nat.mod_mul_right_mod]

theorem get?_of_rows (hnodup : (names dimensions).Nodup) (h : (rows dimensions)[i]? = some a)
    {name : String} {values : List Json} (hdimension : dimensions[j]? = some (name, values)) :
    a.get? name = values[i / count (dimensions.drop (j + 1)) % values.length]? := by
  induction dimensions generalizing i j a with
  | nil => cases hdimension
  | cons dimension rest ih =>
    obtain ⟨value, row, hvalue, hrow, rfl⟩ := getElem?_rows_cons h
    rw [Assignment.get?_cons]
    cases j with
    | zero =>
      cases hdimension
      obtain ⟨hlt, -⟩ := List.getElem?_eq_some_iff.mp hvalue
      rw [if_pos rfl, List.drop_succ_cons, List.drop_zero, Nat.mod_eq_of_lt hlt, hvalue]
    | succ j =>
      have hdimension : rest[j]? = some (name, values) := hdimension
      obtain ⟨hnew, hrest⟩ := List.nodup_cons.mp hnodup
      have hmem : name ∈ names rest :=
        List.mem_map_of_mem (f := Prod.fst) (List.mem_of_getElem? hdimension)
      have hne : name ≠ dimension.1 := fun heq =>
        hnew (show dimension.1 ∈ names rest from heq ▸ hmem)
      rw [if_neg hne, ih hrest hrow hdimension, place_mod hdimension, List.drop_succ_cons]

/-- An exclusion of the matrix has only values that the combination has too. -/
def Excluded (m : Matrix) (a : Assignment) : Prop :=
  ∃ entry ∈ m.exclusions, ∀ pair ∈ entry,
    ∃ value, a.get? pair.1 = some value ∧ Json.Alike value pair.2

theorem any_agrees_iff : m.exclusions.any a.agrees = true ↔ m.Excluded a := by
  simp only [List.any_eq_true, Assignment.agrees_iff, Excluded]

instance : DecidablePred m.Excluded :=
  fun _ => decidable_of_iff _ any_agrees_iff

theorem base_eq_filter (h : m.dimensions ≠ []) :
    m.base = (product m.dimensions).filter fun a => ¬m.Excluded a := by
  rw [base, List.isEmpty_eq_false_iff.mpr h, if_neg Bool.false_ne_true]
  refine List.filter_congr fun a _ => ?_
  rw [Bool.eq_iff_iff, Bool.not_eq_true', decide_eq_true_iff, ← any_agrees_iff, Bool.not_eq_true]

theorem expand_of_additions_nil (hdimensions : m.dimensions ≠ []) (hadditions : m.additions = []) :
    m.expand = (product m.dimensions).filter fun a => ¬m.Excluded a := by
  rw [expand, hadditions, List.isEmpty_eq_false_iff.mpr hdimensions, Bool.false_and,
    if_neg Bool.false_ne_true, addFrom, List.append_nil, base_eq_filter hdimensions]

/-- A matrix without additions expands to the combinations of its dimensions in the order of their
places, without the excluded ones. The place of a combination tells its values: the last dimension
varies fastest. -/
theorem expand_eq_product (hnodup : (names m.dimensions).Nodup) (hdimensions : m.dimensions ≠ [])
    (hadditions : m.additions = []) :
    (product m.dimensions).length = (m.dimensions.map (·.2.length)).prod ∧
      (∀ i a, (product m.dimensions)[i]? = some a →
        a.map (·.1) = m.dimensions.map (·.1) ∧
        ∀ j name values, m.dimensions[j]? = some (name, values) →
          a.get? name = values[i / ((m.dimensions.drop (j + 1)).map (·.2.length)).prod %
            values.length]?) ∧
      m.expand = (product m.dimensions).filter fun a => ¬m.Excluded a := by
  rw [product_eq_rows hnodup]
  refine ⟨length_rows _, fun i a h => ⟨keys_of_rows h, fun j name values hdimension => ?_⟩, ?_⟩
  · exact get?_of_rows hnodup h hdimension
  · rw [expand_of_additions_nil hdimensions hadditions, product_eq_rows hnodup]

/-- Two systems, one tool and three levels: the fourth of the six combinations has the second system
and the first level. The exclusion names the dimensions in another order, and no level. -/
theorem expand_eq_product_levels :
    let m : Matrix := ⟨[("os", [.string "linux", .string "mac"]), ("tool", [.int 1]),
      ("level", [.int 0, .int 1, .int 2])], [], [[("tool", .int 1), ("os", .string "linux")]]⟩
    (product m.dimensions).length = 6 ∧
      (∀ a, (product m.dimensions)[3]? = some a →
        a.map (·.1) = ["os", "tool", "level"] ∧ a.get? "os" = some (.string "mac") ∧
          a.get? "level" = some (.int 0)) ∧
      m.expand = (product m.dimensions).filter fun a => ¬m.Excluded a := by
  intro m
  obtain ⟨hlength, hplaces, hexpand⟩ := expand_eq_product (m := m) (by decide) (by decide) rfl
  refine ⟨hlength, fun a ha => ?_, hexpand⟩
  obtain ⟨hkeys, hvalues⟩ := hplaces 3 a ha
  exact ⟨hkeys, by simpa [m] using hvalues 0 "os" _ rfl, by simpa [m] using hvalues 2 "level" _ rfl⟩

end Matrix

end Pipeline
