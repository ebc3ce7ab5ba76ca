import Mathlib.Data.List.Induction
import Pipeline.Proofs.Matrix.Product

/-! The additions of a matrix, one combination at a time: what each combination gets from them, and
which of them become combinations of their own. The dimensions of a combination stay as they are. -/

namespace Pipeline

/-- The items of a list with another one behind them, each where it occurs first. -/
theorem eraseDups_concat {α : Type} [DecidableEq α] (l : List α) (x : α) :
    (l ++ [x]).eraseDups = if x ∈ l then l.eraseDups else l.eraseDups ++ [x] := by
  rw [List.eraseDups_append]
  split
  · next hmem => simp [List.removeAll, hmem]
  · next hmem => simp [List.removeAll, hmem, List.eraseDups_cons]

theorem nodup_eraseDups {α : Type} [DecidableEq α] (l : List α) : l.eraseDups.Nodup := by
  induction l using List.reverseRecOn with
  | nil => exact .nil
  | append_singleton l x ih =>
    rw [eraseDups_concat]
    split
    · exact ih
    · next hmem =>
      rw [← List.concat_eq_append]
      exact ih.concat (mt List.mem_eraseDups.mp hmem)

theorem eraseDups_of_nodup {α : Type} [DecidableEq α] {l : List α} (h : l.Nodup) :
    l.eraseDups = l := by
  induction l using List.reverseRecOn with
  | nil => rfl
  | append_singleton l x ih =>
    obtain ⟨hl, -, hx⟩ := List.nodup_append.mp h
    rw [eraseDups_concat, if_neg fun hmem => hx x hmem x (.head _) rfl, ih hl]

namespace Assignment

/-- The second assignment is the first one after entries were set in turn: new keys follow in the
order in which they were set first, and the value that was set last counts. -/
structure After (a : Assignment) (entries : List (String × Json)) (b : Assignment) : Prop where
  keys : b.keys = (a.keys ++ entries.map (·.1)).eraseDups
  value : ∀ key, b.get? key = (entries.reverse.lookup key).or (a.get? key)

variable {a b : Assignment} {entries : List (String × Json)}

theorem putAll_append (a : Assignment) (entries entries' : List (String × Json)) :
    a.putAll (entries ++ entries') = (a.putAll entries).putAll entries' :=
  List.foldl_append

theorem get?_putAll (a : Assignment) (entries : List (String × Json)) (key : String) :
    (a.putAll entries).get? key = (entries.reverse.lookup key).or (a.get? key) := by
  induction entries using List.reverseRecOn with
  | nil => rfl
  | append_singleton entries entry ih =>
    rw [putAll_append, List.reverse_concat, List.lookup_cons]
    show ((a.putAll entries).put entry.1 entry.2).get? key = _
    rw [get?_put, ih]
    split
    · next heq => rw [heq, beq_self_eq_true]; rfl
    · next hne => rw [beq_eq_false_iff_ne.mpr hne]

theorem keys_putAll (h : a.keys.Nodup) (entries : List (String × Json)) :
    (a.putAll entries).keys = (a.keys ++ entries.map (·.1)).eraseDups := by
  induction entries using List.reverseRecOn with
  | nil => rw [List.map_nil, List.append_nil, eraseDups_of_nodup h]; rfl
  | append_singleton entries entry ih =>
    rw [putAll_append, List.map_append, ← List.append_assoc, List.map_singleton, eraseDups_concat]
    show ((a.putAll entries).put entry.1 entry.2).keys = _
    rw [keys_put, ih]
    simp only [List.mem_eraseDups]

theorem after_putAll (h : a.keys.Nodup) (entries : List (String × Json)) :
    a.After entries (a.putAll entries) :=
  ⟨keys_putAll h entries, get?_putAll a entries⟩

theorem get?_putAll_of_not_mem {key : String} (h : ∀ entry ∈ entries, entry.1 ≠ key) :
    (a.putAll entries).get? key = a.get? key := by
  have hnone : entries.reverse.lookup key = none := by
    rw [List.lookup_eq_none_iff]
    intro entry hentry
    exact bne_iff_ne.mpr (h entry (List.mem_reverse.mp hentry)).symm
  rw [get?_putAll, hnone, Option.none_or]

theorem After.nodup (h : a.After entries b) : b.keys.Nodup := by
  rw [h.keys]
  exact nodup_eraseDups _

theorem put_append_of_not_mem {key : String} (h : key ∉ a.keys) (b : Assignment) (value : Json) :
    put key value (a ++ b) = a ++ put key value b := by
  induction a with
  | nil => rfl
  | cons entry rest ih =>
    obtain ⟨hne, hrest⟩ := not_or.mp (mt List.mem_cons.mpr h)
    rw [List.cons_append, put, if_neg fun heq => hne heq.symm, ih hrest]
    rfl

/-- Entries of other keys than those of an assignment are set behind it. -/
theorem putAll_of_not_mem (h : ∀ entry ∈ entries, entry.1 ∉ a.keys) :
    ∃ b : Assignment, a.putAll entries = a ++ b ∧ ∀ pair ∈ b, pair.1 ∈ entries.map (·.1) := by
  suffices hgeneral : ∀ b : Assignment, putAll (a ++ b) entries = a ++ putAll b entries by
    have hafter := after_putAll (a := []) .nil entries
    refine ⟨putAll [] entries, by simpa using hgeneral [], fun pair hpair => ?_⟩
    have hkey : pair.1 ∈ keys (putAll [] entries) := List.mem_map_of_mem hpair
    rwa [hafter.keys, List.mem_eraseDups] at hkey
  induction entries with
  | nil => exact fun _ => rfl
  | cons entry rest ih =>
    obtain ⟨hentry, hrest⟩ := List.forall_mem_cons.mp h
    intro b
    show putAll (put entry.1 entry.2 (a ++ b)) rest = _
    rw [put_append_of_not_mem hentry, ih hrest]
    rfl

end Assignment

namespace Matrix

variable {m : Matrix} {a b : Assignment} {entry : Assignment} {entries : List Assignment}

/-- The entry has the values of the combination for the dimensions that it names. -/
def Fits (m : Matrix) (a entry : Assignment) : Prop :=
  ∀ pair ∈ entry, pair.1 ∈ names m.dimensions →
    ∃ value, a.get? pair.1 = some value ∧ Json.Alike value pair.2

/-- What an entry sets apart from dimensions. -/
def extras (m : Matrix) (entry : Assignment) : List (String × Json) :=
  entry.filter fun pair => pair.1 ∉ names m.dimensions

theorem isDimension_iff {key : String} : m.isDimension key = true ↔ key ∈ names m.dimensions := by
  simp [isDimension, names]

theorem compatible_iff : m.compatible entry a = true ↔ m.Fits a entry := by
  simp only [compatible, Assignment.agrees_iff, List.mem_filter, isDimension_iff, and_imp, Fits]

instance (m : Matrix) (a entry : Assignment) : Decidable (m.Fits a entry) :=
  decidable_of_iff _ compatible_iff

/-- The entry fits none of the combinations. -/
def FitsNone (m : Matrix) (base : List Assignment) (entry : Assignment) : Prop :=
  ∀ a ∈ base, ¬m.Fits a entry

instance (m : Matrix) (base : List Assignment) : DecidablePred (m.FitsNone base) :=
  fun entry => inferInstanceAs (Decidable (∀ a ∈ base, ¬m.Fits a entry))

/-- What the entries that fit a combination set in it, in order. -/
def settingsOf (m : Matrix) (a : Assignment) (entries : List Assignment) : List (String × Json) :=
  (entries.filter fun entry => m.Fits a entry).flatMap m.extras

/-- What the additions set in a combination. -/
def settings (m : Matrix) (a : Assignment) : List (String × Json) :=
  m.settingsOf a m.additions

/-- The combinations that are left after exclusions: those of the dimensions, if there are any, and
else a single empty one if there are no additions. -/
def remaining (m : Matrix) : List Assignment :=
  if m.dimensions = [] then if m.additions = [] then [[]] else []
  else (product m.dimensions).filter fun a => ¬m.Excluded a

/-! ### Merging -/

theorem not_mem_names_of_settingsOf {pair : String × Json} (h : pair ∈ m.settingsOf a entries) :
    pair.1 ∉ names m.dimensions := by
  obtain ⟨entry, -, hpair⟩ := List.mem_flatMap.mp h
  simpa using (List.mem_filter.mp hpair).2

theorem mergeInto_eq (m : Matrix) (entry a : Assignment) :
    m.mergeInto entry a = a.putAll (m.settingsOf a [entry]) := by
  have hextras : (entry.filter fun pair => !m.isDimension pair.1) = m.extras entry := by
    refine List.filter_congr fun pair _ => ?_
    rw [Bool.eq_iff_iff, Bool.not_eq_true', Bool.eq_false_iff, ne_eq, isDimension_iff,
      decide_eq_true_iff]
  rw [mergeInto, hextras, settingsOf]
  by_cases h : m.Fits a entry
  · rw [if_pos (compatible_iff.mpr h)]
    simp [h]
  · rw [if_neg (mt compatible_iff.mp h)]
    simp [h, Assignment.putAll]

/-- What is set apart from dimensions has no part in what fits. -/
theorem fits_mergeInto (m : Matrix) (other a entry : Assignment) :
    m.Fits (m.mergeInto other a) entry ↔ m.Fits a entry := by
  rw [mergeInto_eq]
  refine forall₃_congr fun pair _ hname => ?_
  rw [Assignment.get?_putAll_of_not_mem fun setting hsetting heq => ?_]
  exact not_mem_names_of_settingsOf hsetting (heq ▸ hname)

theorem fitsNone_map_mergeInto (m : Matrix) (other entry : Assignment) (base : List Assignment) :
    m.FitsNone (base.map (m.mergeInto other)) entry ↔ m.FitsNone base entry := by
  simp only [FitsNone, List.forall_mem_map, fits_mergeInto]

theorem settingsOf_mergeInto (m : Matrix) (entry a : Assignment) (entries : List Assignment) :
    m.settingsOf (m.mergeInto entry a) entries = m.settingsOf a entries := by
  simp only [settingsOf, fits_mergeInto]

theorem settingsOf_cons (m : Matrix) (a entry : Assignment) (entries : List Assignment) :
    m.settingsOf a (entry :: entries) = m.settingsOf a [entry] ++ m.settingsOf a entries := by
  rw [settingsOf, settingsOf, settingsOf, ← List.flatMap_append, ← List.filter_append]
  rfl

/-- An entry is merged into the combinations, and is a new one if it fits none of them. -/
theorem addFrom_cons (m : Matrix) (base added : List Assignment) (entry : Assignment)
    (rest : List Assignment) :
    m.addFrom base added (entry :: rest) =
      m.addFrom (base.map (m.mergeInto entry))
        (added ++ if m.FitsNone base entry then [.ofEntries entry] else []) rest := by
  rw [addFrom]
  split
  · next hany =>
    obtain ⟨a, ha, hfits⟩ := List.any_eq_true.mp hany
    rw [if_neg fun hnone => hnone a ha (compatible_iff.mp hfits), List.append_nil]
  · next hany =>
    have hnone : m.FitsNone base entry := fun a ha hfits =>
      hany (List.any_eq_true.mpr ⟨a, ha, compatible_iff.mpr hfits⟩)
    have hmerge : base.map (m.mergeInto entry) = base := by
      refine (List.map_congr_left fun a ha => ?_).trans (List.map_id base)
      rw [mergeInto, if_neg (mt compatible_iff.mp (hnone a ha))]
      rfl
    rw [if_pos hnone, hmerge]

/-- Going through the entries one by one comes to the same as going through the combinations, since
what fits a combination does not change on the way. -/
theorem addFrom_eq (m : Matrix) (base added entries : List Assignment) :
    m.addFrom base added entries =
      base.map (fun a => a.putAll (m.settingsOf a entries)) ++
        (added ++ (entries.filter (m.FitsNone base)).map .ofEntries) := by
  induction entries generalizing base added with
  | nil => simp [addFrom, settingsOf, Assignment.putAll]
  | cons entry rest ih =>
    rw [addFrom_cons, ih, List.map_map, List.append_assoc]
    congr 1
    · refine List.map_congr_left fun a _ => ?_
      rw [Function.comp_apply, settingsOf_mergeInto, settingsOf_cons, Assignment.putAll_append,
        ← mergeInto_eq]
    · simp only [fitsNone_map_mergeInto, List.filter_cons, decide_eq_true_eq]
      split <;> rfl

/-! ### The combinations before and after -/

theorem base_eq_remaining (h : ¬(m.dimensions = [] ∧ m.additions = [])) :
    m.base = m.remaining := by
  rw [remaining]
  by_cases hdimensions : m.dimensions = []
  · rw [if_pos hdimensions, if_neg fun hadditions => h ⟨hdimensions, hadditions⟩, base, hdimensions]
    rfl
  · rw [if_neg hdimensions, base_eq_filter hdimensions]

theorem expand_eq (m : Matrix) :
    m.expand = m.remaining.map (fun a => a.putAll (m.settings a)) ++
      (m.additions.filter (m.FitsNone m.remaining)).map .ofEntries := by
  rw [expand]
  split
  · next hempty =>
    rw [Bool.and_eq_true, List.isEmpty_iff, List.isEmpty_iff] at hempty
    obtain ⟨hdimensions, hadditions⟩ := hempty
    simp only [settings, hadditions, remaining, if_pos hdimensions]
    rfl
  · next hempty =>
    rw [Bool.and_eq_true, List.isEmpty_iff, List.isEmpty_iff] at hempty
    rw [base_eq_remaining hempty, addFrom_eq]
    rfl

theorem keys_of_mem_extend {dimensions : List (String × List Json)} (hnodup : a.keys.Nodup)
    (h : b ∈ extend a dimensions) :
    b.keys.Nodup ∧ ∀ key ∈ b.keys, key ∈ a.keys ∨ key ∈ names dimensions := by
  induction dimensions generalizing a with
  | nil =>
    rw [List.mem_singleton.mp h]
    exact ⟨hnodup, fun _ => .inl⟩
  | cons dimension rest ih =>
    obtain ⟨value, -, hb⟩ := List.mem_flatMap.mp h
    obtain ⟨hb, hkeys⟩ := ih (Assignment.nodup_keys_put hnodup dimension.1 value) hb
    refine ⟨hb, fun key hkey => ?_⟩
    obtain hkey | hkey := hkeys key hkey
    · rw [Assignment.keys_put] at hkey
      split at hkey
      · exact .inl hkey
      · obtain hkey | hkey := List.mem_append.mp hkey
        · exact .inl hkey
        · exact .inr (List.mem_singleton.mp hkey ▸ .head _)
    · exact .inr (.tail _ hkey)

/-- The keys of a combination are different dimensions. -/
theorem keys_of_mem_remaining (h : a ∈ m.remaining) :
    a.keys.Nodup ∧ ∀ key ∈ a.keys, key ∈ names m.dimensions := by
  rw [remaining] at h
  split at h
  · split at h
    · rw [List.mem_singleton.mp h]
      exact ⟨.nil, nofun⟩
    · cases h
  · obtain ⟨hnodup, hkeys⟩ := keys_of_mem_extend (a := []) .nil (List.mem_filter.mp h).1
    exact ⟨hnodup, fun key hkey => (hkeys key hkey).resolve_left nofun⟩

/-- With its additions a combination still has the same dimensions. -/
theorem filter_putAll_settings (h : a ∈ m.remaining) :
    (a.putAll (m.settings a)).filter (fun pair => pair.1 ∈ names m.dimensions) = a := by
  obtain ⟨-, hkeys⟩ := keys_of_mem_remaining h
  have hextras : ∀ setting ∈ m.settings a, setting.1 ∉ a.keys :=
    fun setting hsetting hkey => not_mem_names_of_settingsOf hsetting (hkeys _ hkey)
  obtain ⟨b, hb, hnew⟩ := Assignment.putAll_of_not_mem hextras
  rw [hb, List.filter_append]
  have ha : a.filter (fun pair => pair.1 ∈ names m.dimensions) = a :=
    List.filter_eq_self.mpr fun pair hpair =>
      decide_eq_true (hkeys _ (List.mem_map_of_mem hpair))
  have hnone : b.filter (fun pair => pair.1 ∈ names m.dimensions) = [] := by
    refine List.filter_eq_nil_iff.mpr fun pair hpair => ?_
    obtain ⟨setting, hsetting, heq⟩ := List.mem_map.mp (hnew pair hpair)
    rw [decide_eq_true_iff, ← heq]
    exact not_mem_names_of_settingsOf hsetting
  rw [ha, hnone, List.append_nil]

/-- A matrix expands to the combinations that are left after exclusions, in their order, each with
what the additions that fit it set apart from dimensions, and then to a new combination for each
addition that fits none of them. So the dimensions of the first ones are as they were, the new ones
have the values of their own addition only, and no key comes twice. -/
theorem additions_extend_or_append (m : Matrix) :
    ∃ extended added, m.expand = extended ++ added ∧
      List.Forall₂ (fun a b => a.After (m.settings a) b ∧
        b.filter (fun pair => pair.1 ∈ names m.dimensions) = a) m.remaining extended ∧
      List.Forall₂ (Assignment.After []) (m.additions.filter (m.FitsNone m.remaining)) added ∧
      ∀ a ∈ m.expand, a.keys.Nodup := by
  have hextended : ∀ a ∈ m.remaining, a.After (m.settings a) (a.putAll (m.settings a)) :=
    fun a ha => Assignment.after_putAll (keys_of_mem_remaining ha).1 _
  have hadded : ∀ entry : Assignment, Assignment.After [] entry (.ofEntries entry) :=
    fun entry => Assignment.after_putAll (a := []) .nil entry
  refine ⟨_, _, m.expand_eq, ?_, ?_, fun b hb => ?_⟩
  · rw [List.forall₂_map_right_iff, List.forall₂_same]
    exact fun a ha => ⟨hextended a ha, filter_putAll_settings ha⟩
  · rw [List.forall₂_map_right_iff, List.forall₂_same]
    exact fun entry _ => hadded entry
  · rw [m.expand_eq, List.mem_append, List.mem_map, List.mem_map] at hb
    obtain ⟨a, ha, rfl⟩ | ⟨entry, -, rfl⟩ := hb
    · exact (hextended a ha).nodup
    · exact (hadded entry).nodup

end Matrix

end Pipeline
