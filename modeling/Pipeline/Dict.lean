/-! Maps with text keys, kept as lists of pairs in the order of their keys. Two such lists with the
same pairs are equal, and text is ordered by code points. -/

namespace Pipeline

/-- A map from text: pairs in strictly increasing order of their keys. -/
abbrev Dict (α : Type) := List (String × α)

namespace Dict

variable {α β : Type}

/-- The map with `key` bound to `value`, whatever it was bound to before. -/
def insert (key : String) (value : α) : Dict α → Dict α
  | [] => [(key, value)]
  | (k, v) :: rest =>
    if key = k then (key, value) :: rest
    else if key < k then (key, value) :: (k, v) :: rest
    else (k, v) :: insert key value rest

/-- The value bound to a key. -/
def get? (d : Dict α) (key : String) : Option α :=
  d.lookup key

/-- Is the key bound? -/
def contains (d : Dict α) (key : String) : Bool :=
  d.any fun pair => pair.1 == key

/-- The map with a key bound, unless it is bound already. -/
def insertNew (key : String) (value : α) (d : Dict α) : Dict α :=
  if d.contains key then d else d.insert key value

/-- The map without a key. -/
def erase (d : Dict α) (key : String) : Dict α :=
  d.filter fun pair => pair.1 != key

/-- The map of a list of bindings, of which the last one of a key counts. -/
def ofList (pairs : List (String × α)) : Dict α :=
  pairs.foldl (fun d pair => d.insert pair.1 pair.2) []

/-- Both maps together; the second one's bindings count. -/
def override (d e : Dict α) : Dict α :=
  e.foldl (fun d pair => d.insert pair.1 pair.2) d

/-- The map with every value changed. -/
def mapValues (f : α → β) (d : Dict α) : Dict β :=
  d.map fun pair => (pair.1, f pair.2)

/-- The keys, in order. -/
def keys (d : Dict α) : List String :=
  d.map (·.1)

theorem get?_insert_self (d : Dict α) (key : String) (value : α) :
    (d.insert key value).get? key = some value := by
  induction d with
  | nil => simp [insert, get?]
  | cons pair rest ih =>
    obtain ⟨k, v⟩ := pair
    simp only [insert]
    split
    · simp [get?]
    · split
      · simp [get?]
      · next hne _ =>
        have hkey : (key == k) = false := by simpa using hne
        simpa [get?, List.lookup_cons, hkey] using ih

theorem get?_insert_of_ne (d : Dict α) {key other : String} (value : α) (h : other ≠ key) :
    (d.insert key value).get? other = d.get? other := by
  have hb : (other == key) = false := by simpa using h
  induction d with
  | nil => simp [insert, get?, List.lookup_cons, hb]
  | cons pair rest ih =>
    obtain ⟨k, v⟩ := pair
    simp only [insert]
    split
    · next heq => subst heq; simp [get?, List.lookup_cons, hb]
    · split
      · simp [get?, List.lookup_cons, hb]
      · simp only [get?, List.lookup_cons] at ih ⊢
        split <;> simp_all

theorem get?_insert (d : Dict α) (key other : String) (value : α) :
    (d.insert key value).get? other = if other = key then some value else d.get? other := by
  by_cases h : other = key
  · subst h
    rw [get?_insert_self, if_pos rfl]
  · rw [get?_insert_of_ne d value h, if_neg h]

theorem get?_erase (d : Dict α) (key other : String) :
    (d.erase key).get? other = if other = key then none else d.get? other := by
  induction d with
  | nil => simp [erase, get?]
  | cons pair rest ih =>
    obtain ⟨k, v⟩ := pair
    simp only [erase, get?, List.filter_cons, List.lookup_cons] at ih ⊢
    by_cases hk : k = key
    · subst hk
      by_cases h : other = k
      · simpa [h] using ih
      · have hne : (other == k) = false := by simpa using h
        simpa [hne, h] using ih
    · by_cases h : other = k
      · simp [h, hk]
      · have hne : (other == k) = false := by simpa using h
        simpa [hk, hne, List.lookup_cons] using ih

theorem get?_override (d e : Dict α) (key : String) :
    (override d e).get? key = ((ofList e).get? key).or (d.get? key) := by
  induction e generalizing d with
  | nil => rfl
  | cons pair rest ih =>
    have hofList : ofList (pair :: rest) = override (insert pair.1 pair.2 []) rest := rfl
    show (override (d.insert pair.1 pair.2) rest).get? key = _
    rw [hofList, ih, ih, Option.or_assoc, get?_insert, get?_insert]
    split <;> rfl

/-- Bindings of different keys can be made in either order. -/
theorem insert_comm {k k' : String} (h : k ≠ k') (v v' : α) (d : Dict α) :
    (d.insert k v).insert k' v' = (d.insert k' v').insert k v := by
  induction d with
  | nil => grind [insert]
  | cons pair rest ih => grind [insert]

theorem contains_eq_isSome (d : Dict α) (key : String) : d.contains key = (d.get? key).isSome := by
  induction d with
  | nil => rfl
  | cons pair rest ih =>
    rw [contains, List.any_cons, get?, List.lookup_cons, Bool.beq_comm]
    split
    · next heq => rw [heq]; rfl
    · next hne => rw [hne]; exact ih

/-- Of two bindings of one key the second one counts. -/
theorem insert_insert (key : String) (value value' : α) (d : Dict α) :
    (d.insert key value).insert key value' = d.insert key value' := by
  induction d with
  | nil => grind [insert]
  | cons pair rest ih => grind [insert]

theorem get?_ofList_cons (pair : String × α) (rest : List (String × α)) (key : String) :
    (ofList (pair :: rest)).get? key =
      ((ofList rest).get? key).or (if key = pair.1 then some pair.2 else none) := by
  show (override (insert pair.1 pair.2 []) rest).get? key = _
  rw [get?_override, get?_insert]
  rfl

/-- The last binding of a key counts. -/
theorem get?_ofList (pairs : List (String × α)) (key : String) :
    (ofList pairs).get? key = pairs.reverse.lookup key := by
  induction pairs with
  | nil => rfl
  | cons pair rest ih =>
    rw [get?_ofList_cons, ih, List.reverse_cons, List.lookup_append, List.lookup_cons]
    split
    · next heq => rw [heq, beq_self_eq_true]
    · next hne => rw [beq_eq_false_iff_ne.mpr hne]; rfl

/-- A binding made before others stands if none of them is of its key. -/
theorem override_insert (d : Dict α) (key : String) (value : α) (pairs : List (String × α)) :
    override (d.insert key value) pairs =
      if (ofList pairs).contains key then override d pairs
      else (override d pairs).insert key value := by
  induction pairs generalizing d with
  | nil => rfl
  | cons pair rest ih =>
    show override ((d.insert key value).insert pair.1 pair.2) rest = _
    have hstep : override d (pair :: rest) = override (d.insert pair.1 pair.2) rest := rfl
    rw [hstep, contains_eq_isSome, get?_ofList_cons]
    by_cases hkey : key = pair.1
    · subst hkey
      rw [insert_insert, if_pos rfl, if_pos (by simp)]
    · rw [insert_comm hkey, ih, contains_eq_isSome, if_neg hkey, Option.or_none]

/-- A binding in front counts if no later one is of its key. -/
theorem ofList_cons (key : String) (value : α) (pairs : List (String × α)) :
    ofList ((key, value) :: pairs) = (ofList pairs).insertNew key value :=
  override_insert [] key value pairs

/-- A map that binds no key is empty. -/
theorem eq_nil_of_get? {d : Dict α} (h : ∀ key, d.get? key = none) : d = [] := by
  cases d with
  | nil => rfl
  | cons pair rest =>
    have hfirst := h pair.1
    simp [get?] at hfirst

end Dict

end Pipeline
