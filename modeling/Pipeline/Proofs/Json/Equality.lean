import Mathlib.Data.List.Forall2
import Pipeline.Json.Basic

/-! Equality of JSON values as a relation: whole numbers and floating-point numbers are never
equal, the two zeros are, and lists and objects agree part by part. -/

namespace Pipeline.Json

/-- The values are equal. -/
inductive Alike : Json → Json → Prop where
  | null : Alike .null .null
  | bool (value : Bool) : Alike (.bool value) (.bool value)
  | int (value : Int) : Alike (.number (.int value)) (.number (.int value))
  | float {x y : Double} (same : x.compare? y = some .eq) :
      Alike (.number (.float x)) (.number (.float y))
  | string (value : String) : Alike (.string value) (.string value)
  | array {xs ys : List Json} (items : List.Forall₂ Alike xs ys) : Alike (.array xs) (.array ys)
  | object {xs ys : List (String × Json)} (keys : xs.map (·.1) = ys.map (·.1))
      (values : List.Forall₂ Alike (xs.map (·.2)) (ys.map (·.2))) : Alike (.object xs) (.object ys)

theorem equal_number_iff {x y : Number} : x.equal y = true ↔ Alike (.number x) (.number y) := by
  cases x <;> cases y <;> simp only [Number.equal, beq_iff_eq, Bool.false_eq_true, false_iff]
  case int.int x y => exact ⟨fun h => h ▸ .int x, fun h => by cases h; rfl⟩
  case float.float x y =>
    rw [Double.equal, beq_iff_eq]
    exact ⟨.float, fun h => by cases h; assumption⟩
  all_goals nofun

mutual

theorem equal_iff (a b : Json) : a.equal b = true ↔ Alike a b := by
  cases a <;> cases b <;> simp only [equal, beq_iff_eq, Bool.false_eq_true, false_iff, true_iff]
  case null.null => exact .null
  case bool.bool x y => exact ⟨fun h => h ▸ .bool x, fun h => by cases h; rfl⟩
  case number.number x y => exact equal_number_iff
  case string.string x y => exact ⟨fun h => h ▸ .string x, fun h => by cases h; rfl⟩
  case array.array xs ys =>
    rw [equalItems_iff xs ys]
    exact ⟨.array, fun h => by cases h; assumption⟩
  case object.object xs ys =>
    rw [equalFields_iff xs ys]
    exact ⟨fun h => .object h.1 h.2, fun h => by cases h; exact ⟨‹_›, ‹_›⟩⟩
  all_goals nofun

theorem equalItems_iff (xs ys : List Json) :
    equalItems xs ys = true ↔ List.Forall₂ Alike xs ys := by
  match xs, ys with
  | [], [] => simp [equalItems]
  | [], _ :: _ => simp [equalItems]
  | _ :: _, [] => simp [equalItems]
  | x :: xs, y :: ys =>
    rw [equalItems, Bool.and_eq_true, equal_iff x y, equalItems_iff xs ys, List.forall₂_cons]

theorem equalFields_iff (xs ys : List (String × Json)) :
    equalFields xs ys = true ↔
      xs.map (·.1) = ys.map (·.1) ∧ List.Forall₂ Alike (xs.map (·.2)) (ys.map (·.2)) := by
  match xs, ys with
  | [], [] => simp [equalFields]
  | [], _ :: _ => simp [equalFields]
  | _ :: _, [] => simp [equalFields]
  | (k, x) :: xs, (l, y) :: ys =>
    rw [equalFields, Bool.and_eq_true, Bool.and_eq_true, equal_iff x y, equalFields_iff xs ys]
    simp only [beq_iff_eq, List.map_cons, List.cons.injEq, List.forall₂_cons]
    tauto

end

instance : DecidableRel Alike :=
  fun a b => decidable_of_iff _ (equal_iff a b)

end Pipeline.Json
