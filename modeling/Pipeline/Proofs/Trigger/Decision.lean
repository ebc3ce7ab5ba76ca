import Pipeline.Trigger

/-! Which events start a workflow. The last entry of a filter list that matches the branch decides
for the list, and one rule that admits the event is enough; so the order of the rules and the
entries that decide nothing do not matter. -/

namespace Pipeline

namespace Trigger

/-- Does the entry of a filter list refuse what it matches? -/
def refuses (entry : String) : Bool :=
  entry.toList.head? = some '!'

/-- The pattern of an entry, without the mark of a refusal. -/
def patternOf (entry : String) : String :=
  if refuses entry then String.ofList entry.toList.tail else entry

/-- Does the pattern of an entry match a branch? -/
def matchesBranch (branch entry : String) : Bool :=
  Glob.matchText (patternOf entry) branch

/-- The entry is the last one of the list that matches the branch. -/
def LastMatch (branch : String) (entries : List String) (entry : String) : Prop :=
  ∃ before after, entries = before ++ entry :: after ∧ matchesBranch branch entry = true ∧
    ∀ later ∈ after, matchesBranch branch later = false

/-- The rule is for events like this one: it lists the activity if it lists any; a branch that it
filters is matched, and not refused by the last entry that matches; and if the branch is among those
to be ignored, the last entry that matches refuses that. -/
structure Rule.Admits (rule : Rule) (event : Event) : Prop where
  kind : rule.kind = event.kind
  subtype : rule.subtypes = [] ∨ ∃ subtype ∈ rule.subtypes, event.subtype = some subtype
  branch : rule.branches = [] ∨
    ∃ entry, LastMatch event.filterBranch rule.branches entry ∧ refuses entry = false
  notIgnored : (∀ entry ∈ rule.branchesIgnore, matchesBranch event.filterBranch entry = false) ∨
    ∃ entry, LastMatch event.filterBranch rule.branchesIgnore entry ∧ refuses entry = true

/-- The second list has an entry more, which decides nothing on the branch: it does not match, or a
later entry does. -/
inductive Idle (branch : String) : List String → List String → Prop where
  | unmatched {before after : List String} {entry : String} (others : before ++ after ≠ [])
      (unmatched : matchesBranch branch entry = false) :
      Idle branch (before ++ after) (before ++ entry :: after)
  | overridden {before after : List String} {entry later : String} (later_mem : later ∈ after)
      (matched : matchesBranch branch later = true) :
      Idle branch (before ++ after) (before ++ entry :: after)

/-- The second rule has an entry more in a filter list, which decides nothing on the branch. -/
inductive Rule.Extended (branch : String) (rule : Rule) : Rule → Prop where
  | branches {entries : List String} (idle : Idle branch rule.branches entries) :
      rule.Extended branch { rule with branches := entries }
  | branchesIgnore {entries : List String} (idle : Idle branch rule.branchesIgnore entries) :
      rule.Extended branch { rule with branchesIgnore := entries }

variable {branch entry : String} {entries entries' before after : List String} {decision : Bool}
  {rule rule' : Rule} {rules rules' front back : List Rule} {event : Event}

/-! ### Filter lists -/

/-- An entry that matches decides anew. -/
theorem filterFrom_cons (decision : Bool) (branch entry : String) (rest : List String) :
    filterFrom decision branch (entry :: rest) =
      filterFrom (if matchesBranch branch entry then !refuses entry else decision) branch rest := by
  rw [filterFrom, matchesBranch, patternOf, refuses]
  congr 1
  split
  · next negated heq => simp [heq, Glob.matchText]
  · next hplain =>
    have hhead : entry.toList.head? ≠ some '!' := fun h => by
      obtain ⟨rest, heq⟩ := List.head?_eq_some_iff.mp h
      exact hplain rest heq
    simp [hhead]

theorem filterFrom_append (decision : Bool) (branch : String) (before after : List String) :
    filterFrom decision branch (before ++ after) =
      filterFrom (filterFrom decision branch before) branch after := by
  induction before generalizing decision with
  | nil => rfl
  | cons entry before ih => rw [List.cons_append, filterFrom_cons, filterFrom_cons, ih]

/-- Entries that do not match decide nothing. -/
theorem filterFrom_of_unmatched (h : ∀ entry ∈ entries, matchesBranch branch entry = false) :
    filterFrom decision branch entries = decision := by
  induction entries with
  | nil => rfl
  | cons entry rest ih =>
    obtain ⟨hentry, hrest⟩ := List.forall_mem_cons.mp h
    rw [filterFrom_cons, hentry, if_neg Bool.false_ne_true, ih hrest]

/-- The last entry that matches decides, whatever was decided before it. -/
theorem filterFrom_of_lastMatch (h : LastMatch branch entries entry) :
    filterFrom decision branch entries = !refuses entry := by
  obtain ⟨before, after, rfl, hentry, hafter⟩ := h
  rw [filterFrom_append, filterFrom_cons, hentry, if_pos rfl, filterFrom_of_unmatched hafter]

/-- If an entry matches, there is a last one. -/
theorem unmatched_or_exists_lastMatch (branch : String) (entries : List String) :
    (∀ entry ∈ entries, matchesBranch branch entry = false) ∨
      ∃ entry, LastMatch branch entries entry := by
  induction entries with
  | nil => exact .inl nofun
  | cons entry rest ih =>
    obtain hrest | ⟨last, before, after, rfl, hlast, hafter⟩ := ih
    · rcases hentry : matchesBranch branch entry with _ | _
      · exact .inl (List.forall_mem_cons.mpr ⟨hentry, hrest⟩)
      · exact .inr ⟨entry, [], rest, rfl, hentry, hrest⟩
    · exact .inr ⟨last, entry :: before, after, rfl, hlast, hafter⟩

theorem filterMatches_iff : filterMatches entries branch = true ↔
    ∃ entry, LastMatch branch entries entry ∧ refuses entry = false := by
  constructor
  · intro h
    obtain hnone | ⟨entry, hlast⟩ := unmatched_or_exists_lastMatch branch entries
    · rw [filterMatches, filterFrom_of_unmatched hnone] at h
      cases h
    · rw [filterMatches, filterFrom_of_lastMatch hlast, Bool.not_eq_true'] at h
      exact ⟨entry, hlast, h⟩
  · rintro ⟨entry, hlast, hentry⟩
    rw [filterMatches, filterFrom_of_lastMatch hlast, hentry]
    rfl

theorem not_filterMatches_iff : filterMatches entries branch = false ↔
    (∀ entry ∈ entries, matchesBranch branch entry = false) ∨
      ∃ entry, LastMatch branch entries entry ∧ refuses entry = true := by
  constructor
  · intro h
    obtain hnone | ⟨entry, hlast⟩ := unmatched_or_exists_lastMatch branch entries
    · exact .inl hnone
    · rw [filterMatches, filterFrom_of_lastMatch hlast, Bool.not_eq_false'] at h
      exact .inr ⟨entry, hlast, h⟩
  · rintro (hnone | ⟨entry, hlast, hentry⟩)
    · rw [filterMatches, filterFrom_of_unmatched hnone]
    · rw [filterMatches, filterFrom_of_lastMatch hlast, hentry]
      rfl

theorem Idle.filterMatches_eq (h : Idle branch entries entries') :
    filterMatches entries' branch = filterMatches entries branch := by
  cases h with
  | unmatched others hentry =>
    rw [filterMatches, filterMatches, filterFrom_append, filterFrom_append, filterFrom_cons,
      hentry, if_neg Bool.false_ne_true]
  | overridden hmem hlater =>
    rename_i before after entry later
    obtain hnone | ⟨last, hlast⟩ := unmatched_or_exists_lastMatch branch after
    · rw [hnone later hmem] at hlater
      cases hlater
    · rw [filterMatches, filterMatches, filterFrom_append, filterFrom_append, filterFrom_cons,
        filterFrom_of_lastMatch hlast, filterFrom_of_lastMatch hlast]

/-- Neither list is empty, so both of them filter. -/
theorem Idle.isEmpty_eq (h : Idle branch entries entries') :
    entries'.isEmpty = entries.isEmpty := by
  have hne : entries ≠ [] ∧ entries' ≠ [] := by
    cases h with
    | unmatched others => exact ⟨others, by simp⟩
    | overridden hmem =>
      exact ⟨List.append_ne_nil_of_right_ne_nil _ (List.ne_nil_of_mem hmem), by simp⟩
  rw [List.isEmpty_eq_false_iff.mpr hne.1, List.isEmpty_eq_false_iff.mpr hne.2]

/-! ### Rules -/

theorem subtype_listed_iff {subtypes : List String} {subtype : Option String} :
    (subtypes.isEmpty || subtype.any subtypes.contains) = true ↔
      subtypes = [] ∨ ∃ listed ∈ subtypes, subtype = some listed := by
  rw [Bool.or_eq_true, List.isEmpty_iff, Option.any_eq_true]
  simp only [List.contains_iff_mem, and_comm]

/-- An empty list of branches to ignore is like one that matches nothing. -/
theorem not_ignored_iff : (entries.isEmpty || !filterMatches entries branch) = true ↔
    filterMatches entries branch = false := by
  cases entries with
  | nil => exact iff_of_true rfl rfl
  | cons entry rest => rw [List.isEmpty_cons, Bool.false_or, Bool.not_eq_true']

theorem Rule.admits_iff :
    rule.Admits event ↔ rule.kind = event.kind ∧ rule.accepts event = true := by
  rw [Rule.accepts, Bool.and_eq_true, Bool.and_eq_true, subtype_listed_iff, Bool.or_eq_true,
    List.isEmpty_iff, not_ignored_iff, filterMatches_iff, not_filterMatches_iff]
  constructor
  · rintro ⟨hkind, hsubtype, hbranch, hignored⟩
    exact ⟨hkind, ⟨hsubtype, hbranch⟩, hignored⟩
  · rintro ⟨hkind, ⟨hsubtype, hbranch⟩, hignored⟩
    exact ⟨hkind, hsubtype, hbranch, hignored⟩

theorem Rule.Extended.kind_eq (h : rule.Extended branch rule') : rule'.kind = rule.kind := by
  cases h <;> rfl

theorem Rule.Extended.admits_iff (h : rule.Extended event.filterBranch rule') :
    rule'.Admits event ↔ rule.Admits event := by
  have haccepts : rule'.accepts event = rule.accepts event := by
    cases h with
    | branches idle => simp only [Rule.accepts, idle.filterMatches_eq, idle.isEmpty_eq]
    | branchesIgnore idle => simp only [Rule.accepts, idle.filterMatches_eq, idle.isEmpty_eq]
  rw [Rule.admits_iff, Rule.admits_iff, haccepts, h.kind_eq]

/-! ### Sets of rules -/

/-- There is a rule, and the kind of each one is more than blanks. -/
structure Sound (rules : List Rule) : Prop where
  ne_nil : rules ≠ []
  kinds : ∀ rule ∈ rules, Text.isAllBlank rule.kind = false

theorem Sound.perm {rules' : List Rule} (h : Sound rules) (hperm : rules'.Perm rules) :
    Sound rules' :=
  ⟨fun heq => h.ne_nil (heq ▸ hperm).nil_eq.symm,
    fun rule hrule => h.kinds rule (hperm.mem_iff.mp hrule)⟩

theorem Sound.cons (h : ∀ rule ∈ rules, Text.isAllBlank rule.kind = false)
    (hkind : Text.isAllBlank rule.kind = false) : Sound (rule :: rules) :=
  ⟨List.cons_ne_nil rule rules, List.forall_mem_cons.mpr ⟨hkind, h⟩⟩

theorem exists_accepts_eq_ok (h : Sound rules) (event : Event) :
    ∃ answer, accepts event rules = .ok answer ∧
      (answer = true ↔ ∃ rule ∈ rules, rule.Admits event) := by
  have hcheck : checkKinds (rules.map (·.kind)) = .ok () := by
    have hblank : (rules.map (·.kind)).any Text.isAllBlank = false := by
      rw [List.any_map, List.any_eq_false]
      exact fun rule hrule => Bool.eq_false_iff.mp (h.kinds rule hrule)
    rw [checkKinds, List.isEmpty_map, List.isEmpty_eq_false_iff.mpr h.ne_nil, hblank]
    rfl
  refine ⟨_, by rw [accepts, hcheck], ?_⟩
  simp only [List.any_eq_true, Bool.and_eq_true, beq_iff_eq, Rule.admits_iff]

/-- An event that a rule admits is accepted. -/
theorem accepts_eq_true_iff (h : Sound rules) :
    accepts event rules = .ok true ↔ ∃ rule ∈ rules, rule.Admits event := by
  obtain ⟨answer, hanswer, hiff⟩ := exists_accepts_eq_ok h event
  rw [hanswer, ← hiff, Except.ok.injEq]

/-- The decision is known from whether a rule admits the event. -/
theorem accepts_congr (h : Sound rules) (h' : Sound rules')
    (hadmits : (∃ rule ∈ rules', rule.Admits event) ↔ ∃ rule ∈ rules, rule.Admits event) :
    accepts event rules' = accepts event rules := by
  obtain ⟨answer, hanswer, hiff⟩ := exists_accepts_eq_ok h event
  obtain ⟨answer', hanswer', hiff'⟩ := exists_accepts_eq_ok h' event
  rw [hanswer, hanswer', Bool.eq_iff_iff.mpr (hiff'.trans (hadmits.trans hiff.symm))]

theorem accepts_perm (h : Sound rules) (hperm : rules'.Perm rules) :
    accepts event rules' = accepts event rules :=
  accepts_congr h (h.perm hperm) (by simp only [hperm.mem_iff])

/-- A rule can be replaced by one of its kind that admits the event if the first one does. -/
theorem accepts_replace (h : Sound (front ++ rule :: back)) (hkind : rule'.kind = rule.kind)
    (hadmits : rule'.Admits event ↔ rule.Admits event) :
    accepts event (front ++ rule' :: back) = accepts event (front ++ rule :: back) := by
  have hfront := h.perm List.perm_middle.symm
  obtain ⟨hrule, hrest⟩ := List.forall_mem_cons.mp hfront.kinds
  have hsound := (Sound.cons hrest (hkind ▸ hrule)).perm (List.perm_middle (a := rule'))
  refine accepts_congr h hsound ?_
  simp only [List.mem_append, List.mem_cons, or_and_right, exists_or, exists_eq_left, hadmits]

theorem accepts_insert (h : Sound (front ++ back)) (hkind : Text.isAllBlank rule.kind = false)
    (haccepts : accepts event (front ++ back) = .ok true) :
    accepts event (front ++ rule :: back) = .ok true := by
  have hperm : (front ++ rule :: back).Perm (rule :: (front ++ back)) := List.perm_middle
  obtain ⟨other, hother, hadmits⟩ := (accepts_eq_true_iff h).mp haccepts
  exact (accepts_eq_true_iff ((Sound.cons h.kinds hkind).perm hperm)).mpr
    ⟨other, hperm.mem_iff.mpr (.tail _ hother), hadmits⟩

/-- A set of rules, none of them without a kind, decides on every event, and accepts it if and only
if one of the rules admits it. So the order of the rules does not matter, nor does an entry of a
filter list that does not match the branch, where there are others, or that stands before one that
matches; and with a rule more no event is lost. -/
theorem last_match_decides (hrules : rules ≠ [])
    (hkinds : ∀ rule ∈ rules, Text.isAllBlank rule.kind = false) (event : Event) :
    (∃ answer, accepts event rules = .ok answer ∧
        (answer = true ↔ ∃ rule ∈ rules, rule.Admits event)) ∧
      (∀ rules', rules'.Perm rules → accepts event rules' = accepts event rules) ∧
      (∀ front rule back rule', rules = front ++ rule :: back →
        rule.Extended event.filterBranch rule' ∨ rule'.Extended event.filterBranch rule →
          accepts event (front ++ rule' :: back) = accepts event rules) ∧
      ∀ front rule back, rules = front ++ back → Text.isAllBlank rule.kind = false →
        accepts event rules = .ok true → accepts event (front ++ rule :: back) = .ok true := by
  have hsound : Sound rules := ⟨hrules, hkinds⟩
  refine ⟨exists_accepts_eq_ok hsound event, fun _ => accepts_perm hsound, ?_, ?_⟩
  · rintro front rule back rule' rfl (hextended | hextended)
    · exact accepts_replace hsound hextended.kind_eq hextended.admits_iff
    · exact accepts_replace hsound hextended.kind_eq.symm hextended.admits_iff.symm
  · rintro front rule back rfl hkind haccepts
    exact accepts_insert hsound hkind haccepts

/-- A push to a branch that the last entry lets through again: the entry before it, which refuses
the branch, can go. -/
theorem last_match_decides_release :
    let rules := [Rule.of "schedule",
      ⟨"push", [], ["release/*", "!release/v?", "release/v1"], ["main"]⟩]
    let event := Event.of "push" "refs/heads/release/v1"
    rules ≠ [] ∧ (∀ rule ∈ rules, Text.isAllBlank rule.kind = false) ∧
      accepts event rules = .ok true ∧
      accepts event [Rule.of "schedule", ⟨"push", [], ["release/*", "release/v1"], ["main"]⟩] =
        .ok true := by
  intro rules event
  have hrules : rules ≠ [] := List.cons_ne_nil _ _
  have hkinds : ∀ rule ∈ rules, Text.isAllBlank rule.kind = false := by decide +kernel
  have hlast : LastMatch event.filterBranch ["release/*", "!release/v?", "release/v1"]
      "release/v1" :=
    ⟨["release/*", "!release/v?"], [], rfl, by decide +kernel, nofun⟩
  have hadmits : Rule.Admits ⟨"push", [], ["release/*", "!release/v?", "release/v1"], ["main"]⟩
      event :=
    ⟨rfl, .inl rfl, .inr ⟨_, hlast, by decide +kernel⟩, .inl (by decide +kernel)⟩
  obtain ⟨⟨answer, hanswer, hiff⟩, -, hextended, -⟩ := last_match_decides hrules hkinds event
  rw [hiff.mpr ⟨_, .tail _ (.head _), hadmits⟩] at hanswer
  refine ⟨hrules, hkinds, hanswer, ?_⟩
  have hidle : Idle event.filterBranch (["release/*"] ++ ["release/v1"])
      (["release/*"] ++ "!release/v?" :: ["release/v1"]) :=
    .overridden (.head _) (by decide +kernel)
  rw [← hanswer]
  exact hextended [Rule.of "schedule"] _ [] _ rfl (.inr (.branches hidle))

end Trigger

end Pipeline
