import Pipeline.Proofs.Matrix.Product
import Pipeline.Proofs.Workflow.Checks

/-! Whether a matrix has a combination twice, and whether every value of a dimension is used. Both
go well where the dimensions have different names; a document can declare a dimension twice, and
then the values of the last declaration overwrite those of the others. -/

namespace Pipeline

namespace Assignment

/-- The assignments give a key different values. -/
def Differ (a b : Assignment) : Prop :=
  ∃ key x y, a.get? key = some x ∧ b.get? key = some y ∧ ¬Json.Alike x y

variable {a : Assignment} {key name : String}

theorem mem_keys_put {value : Json} :
    name ∈ (a.put key value).keys ↔ name ∈ a.keys ∨ name = key := by
  rw [keys_put]
  split
  · next hmem => exact ⟨.inl, fun h => h.elim id fun heq => heq ▸ hmem⟩
  · rw [List.mem_append, List.mem_singleton]

/-- Of two values of one key the second one counts. -/
theorem put_put (a : Assignment) (key : String) (x y : Json) :
    (a.put key x).put key y = a.put key y := by
  induction a with
  | nil => simp [put]
  | cons entry rest ih =>
    rw [put, put]
    split
    · next heq => rw [put, if_pos heq]
    · next hne => rw [put, if_neg hne, ih]

/-- A key that is there can be set before or after another one. -/
theorem put_comm_of_mem (h : name ∈ a.keys) (hne : key ≠ name) (x y : Json) :
    (a.put key x).put name y = (a.put name y).put key x := by
  induction a with
  | nil => cases h
  | cons entry rest ih =>
    by_cases hkey : entry.1 = key
    · have hname : entry.1 ≠ name := fun heq => hne (hkey.symm.trans heq)
      simp only [put, if_pos hkey, if_neg hname]
    · by_cases hname : entry.1 = name
      · simp [put, hname, hne.symm]
      · have hrest : name ∈ keys rest := (List.mem_cons.mp h).resolve_left fun heq => hname heq.symm
        simp only [put, if_neg hkey, if_neg hname, ih hrest]

end Assignment

namespace Matrix

variable {dimensions : List (String × List Json)} {m : Matrix} {a b : Assignment}
  {key name : String} {value : Json}

/-- The values of a dimension where it is declared last. -/
def lastValues (dimensions : List (String × List Json)) (name : String) : List Json :=
  (dimensions.reverse.lookup name).getD []

/-- A dimension that is declared again has a single value before, which it has in the end too. -/
structure Harmless (dimensions : List (String × List Json)) : Prop where
  single : dimensions.Pairwise fun d e => d.1 = e.1 → d.2.length = 1
  kept : ∀ d ∈ dimensions, ∀ value ∈ d.2, value ∈ lastValues dimensions d.1

/-- No dimension lists a value twice. -/
def ValuesDiffer (dimensions : List (String × List Json)) : Prop :=
  ∀ d ∈ dimensions, d.2.Pairwise fun x y => ¬Json.Alike x y

/-- Every value of a dimension is used in a combination. -/
def ValuesUsed (dimensions : List (String × List Json)) : Prop :=
  ∀ d ∈ dimensions, ∀ value ∈ d.2, ∃ a ∈ product dimensions, a.get? d.1 = some value

/-! ### Dimensions that follow -/

theorem get?_of_mem_extend (h : b ∈ extend a dimensions) (hkey : key ∉ names dimensions) :
    b.get? key = a.get? key := by
  induction dimensions generalizing a with
  | nil => rw [List.mem_singleton.mp h]
  | cons d rest ih =>
    obtain ⟨hne, hrest⟩ := not_or.mp (mt List.mem_cons.mpr hkey)
    obtain ⟨value, -, hb⟩ := List.mem_flatMap.mp h
    rw [ih hb hrest, Assignment.get?_put, if_neg hne]

theorem extend_ne_nil (h : ∀ d ∈ dimensions, d.2 ≠ []) (a : Assignment) :
    extend a dimensions ≠ [] := by
  induction dimensions generalizing a with
  | nil => exact List.cons_ne_nil a []
  | cons d rest ih =>
    obtain ⟨hd, hrest⟩ := List.forall_mem_cons.mp h
    obtain ⟨value, hvalue⟩ := List.exists_mem_of_ne_nil d.2 hd
    exact fun hnil => ih hrest (a.put d.1 value) (List.flatMap_eq_nil_iff.mp hnil value hvalue)

/-- A dimension that is still to come overwrites what was set for it. -/
theorem extend_congr (hname : name ∈ names dimensions) (ha : name ∈ a.keys) (hb : name ∈ b.keys)
    (h : ∀ y, a.put name y = b.put name y) : extend a dimensions = extend b dimensions := by
  induction dimensions generalizing a b with
  | nil => cases hname
  | cons d rest ih =>
    rw [extend, extend]
    congr 1
    funext x
    by_cases hd : d.1 = name
    · rw [hd, h]
    · have hrest : name ∈ names rest :=
        (List.mem_cons.mp hname).resolve_left fun heq => hd heq.symm
      refine ih hrest (Assignment.mem_keys_put.mpr (.inl ha))
        (Assignment.mem_keys_put.mpr (.inl hb)) fun y => ?_
      rw [Assignment.put_comm_of_mem ha hd, Assignment.put_comm_of_mem hb hd, h]

/-! ### No combination twice -/

/-- The combinations differ in the first dimension whose values differ, unless that is declared
again: then it has no two values. -/
theorem pairwise_differ_extend (a : Assignment)
    (hsingle : dimensions.Pairwise fun d e => d.1 = e.1 → d.2.length = 1)
    (hvalues : ValuesDiffer dimensions) : (extend a dimensions).Pairwise Assignment.Differ := by
  induction dimensions generalizing a with
  | nil => exact List.pairwise_singleton _ _
  | cons d rest ih =>
    obtain ⟨hd, hrest⟩ := List.pairwise_cons.mp hsingle
    obtain ⟨hdvalues, hrestvalues⟩ := List.forall_mem_cons.mp hvalues
    rw [extend, List.pairwise_flatMap]
    refine ⟨fun value _ => ih (a.put d.1 value) hrest hrestvalues, ?_⟩
    by_cases hagain : d.1 ∈ names rest
    · obtain ⟨e, he, heq⟩ := List.mem_map.mp hagain
      obtain ⟨value, hvalue⟩ := List.length_eq_one_iff.mp (hd e he heq.symm)
      rw [hvalue]
      exact List.pairwise_singleton _ _
    · refine hdvalues.imp fun {x y} hxy b hb c hc => ⟨d.1, x, y, ?_, ?_, hxy⟩
      · rw [get?_of_mem_extend hb hagain, Assignment.get?_put, if_pos rfl]
      · rw [get?_of_mem_extend hc hagain, Assignment.get?_put, if_pos rfl]

/-- Two values of a dimension that is declared again make the same combinations. -/
theorem single_of_nodup_extend (hnonempty : ∀ d ∈ dimensions, d.2 ≠ [])
    (h : (extend a dimensions).Nodup) :
    dimensions.Pairwise fun d e => d.1 = e.1 → d.2.length = 1 := by
  induction dimensions generalizing a with
  | nil => exact .nil
  | cons d rest ih =>
    obtain ⟨hd, hrest⟩ := List.forall_mem_cons.mp hnonempty
    obtain ⟨hparts, hpairs⟩ := List.pairwise_flatMap.mp h
    obtain ⟨name, values⟩ := d
    cases values with
    | nil => exact absurd rfl hd
    | cons x values =>
      refine List.pairwise_cons.mpr ⟨fun e he heq => ?_, ih hrest (hparts x (.head _))⟩
      cases values with
      | nil => rfl
      | cons y values =>
        have hagain : name ∈ names rest := List.mem_map.mpr ⟨e, he, heq.symm⟩
        have hsame : extend (a.put name x) rest = extend (a.put name y) rest :=
          extend_congr hagain (Assignment.mem_keys_put.mpr (.inr rfl))
            (Assignment.mem_keys_put.mpr (.inr rfl)) fun z => by
              rw [Assignment.put_put, Assignment.put_put]
        obtain ⟨b, hb⟩ := List.exists_mem_of_ne_nil _ (extend_ne_nil hrest (a.put name x))
        have hne := List.rel_of_pairwise_cons hpairs (.head _) b hb b (hsame ▸ hb)
        exact absurd rfl hne

/-! ### Values that are used -/

/-- What the combinations have for a key are the values of its last declaration, or else what the
key was set to before. -/
theorem exists_mem_extend_iff (hnonempty : ∀ d ∈ dimensions, d.2 ≠ []) :
    (∃ b ∈ extend a dimensions, b.get? name = some value) ↔
      value ∈ (dimensions.reverse.lookup name).getD (a.get? name).toList := by
  induction dimensions generalizing a with
  | nil => simp [extend]
  | cons d rest ih =>
    obtain ⟨hd, hrest⟩ := List.forall_mem_cons.mp hnonempty
    have hstep : (∃ b ∈ extend a (d :: rest), b.get? name = some value) ↔
        ∃ x ∈ d.2, value ∈
          (rest.reverse.lookup name).getD ((a.put d.1 x).get? name).toList := by
      simp only [extend, List.mem_flatMap, ← ih hrest]
      constructor
      · rintro ⟨b, ⟨x, hx, hb⟩, h⟩
        exact ⟨x, hx, b, hb, h⟩
      · rintro ⟨x, hx, b, hb, h⟩
        exact ⟨b, ⟨x, hx, hb⟩, h⟩
    have hconst (p : Prop) : (∃ x ∈ d.2, p) ↔ p := by
      rw [exists_and_right, and_iff_right (List.exists_mem_of_ne_nil d.2 hd)]
    rw [hstep, List.reverse_cons, List.lookup_append, List.lookup_cons]
    rcases rest.reverse.lookup name with _ | values
    · simp only [Assignment.get?_put, Option.getD_none, Option.none_or]
      by_cases hname : name = d.1
      · simp [hname]
      · have hne : (name == d.1) = false := beq_eq_false_iff_ne.mpr hname
        simp only [if_neg hname, hne]
        exact hconst _
    · simp only [Option.some_or, Option.getD_some]
      exact hconst _

theorem exists_mem_product_iff (hnonempty : ∀ d ∈ dimensions, d.2 ≠ []) :
    (∃ a ∈ product dimensions, a.get? name = some value) ↔ value ∈ lastValues dimensions name :=
  exists_mem_extend_iff hnonempty

/-! ### Matrices that have been checked -/

theorem lastValues_of_mem {d : String × List Json} (h : (names dimensions).Nodup)
    (hd : d ∈ dimensions) : lastValues dimensions d.1 = d.2 := by
  obtain ⟨before, after, heq⟩ := List.append_of_mem (List.mem_reverse.mpr hd)
  have hnodup : (names (before ++ d :: after)).Nodup := by
    rw [← heq, names, List.map_reverse]
    exact List.pairwise_reverse.mpr (h.imp Ne.symm)
  rw [names, List.map_append] at hnodup
  have hbefore : ∀ e ∈ before, d.1 ≠ e.1 := fun e he hname =>
    (List.nodup_append.mp hnodup).2.2 e.1 (List.mem_map_of_mem he) d.1 (.head _) hname.symm
  have hlookup : dimensions.reverse.lookup d.1 = some d.2 :=
    List.lookup_eq_some_iff.mpr ⟨before, after, heq, fun e he => bne_iff_ne.mpr (hbefore e he)⟩
  rw [lastValues, hlookup, Option.getD_some]

/-- Dimensions of different names are declared once. -/
theorem harmless_of_nodup (h : (names dimensions).Nodup) : Harmless dimensions := by
  refine ⟨(List.pairwise_map.mp h).imp fun hne heq => absurd heq hne, fun d hd value hvalue => ?_⟩
  rwa [lastValues_of_mem h hd]

/-- A matrix that has been checked, has no additions and lists no value twice in a dimension expands
to different combinations, and before exclusions every value is used, if its dimensions have
different names, or at least each one that is declared again is harmless. Otherwise some combination
occurs twice before exclusions, or a value is lost. -/
theorem combinations_differ {job : String} (hcheck : Document.checkMatrix job m = .ok ())
    (hadditions : m.additions = []) (hvalues : ValuesDiffer m.dimensions) :
    (Harmless m.dimensions →
        m.expand.Pairwise Assignment.Differ ∧ ValuesUsed m.dimensions) ∧
      ((names m.dimensions).Nodup → Harmless m.dimensions) ∧
      ((product m.dimensions).Nodup → ValuesUsed m.dimensions → Harmless m.dimensions) := by
  have hnonempty := (Document.sound_of_checkMatrix hcheck).dimensions
  refine ⟨fun hharmless => ⟨?_, fun d hd value hvalue => ?_⟩, harmless_of_nodup,
    fun hnodup hused => ⟨single_of_nodup_extend hnonempty hnodup, fun d hd value hvalue => ?_⟩⟩
  · by_cases hdimensions : m.dimensions = []
    · rw [expand, hdimensions, hadditions]
      exact List.pairwise_singleton _ _
    · rw [expand_of_additions_nil hdimensions hadditions]
      exact (pairwise_differ_extend [] hharmless.single hvalues).filter _
  · exact (exists_mem_product_iff hnonempty).mpr (hharmless.kept d hd value hvalue)
  · exact (exists_mem_product_iff hnonempty).mp (hused d hd value hvalue)

/-- Two systems and two levels, one of the four combinations excluded. -/
theorem combinations_differ_levels :
    let m : Matrix := ⟨[("os", [.string "linux", .string "mac"]), ("level", [.int 0, .int 1])], [],
      [[("level", .int 0), ("os", .string "mac")]]⟩
    Document.checkMatrix "test" m = .ok () ∧ m.additions = [] ∧ ValuesDiffer m.dimensions ∧
      m.expand.Pairwise Assignment.Differ ∧ ValuesUsed m.dimensions := by
  intro m
  have hcheck : Document.checkMatrix "test" m = .ok () := rfl
  have hvalues : ValuesDiffer m.dimensions := by
    unfold ValuesDiffer
    decide +kernel
  obtain ⟨hdiffer, hharmless, -⟩ := combinations_differ hcheck rfl hvalues
  exact ⟨hcheck, rfl, hvalues, hdiffer (hharmless (by decide))⟩

/-- The dimension `os` with the values `a` and `b`, declared twice. -/
def Sample.repeated : Matrix :=
  ⟨[("os", [.string "a", .string "b"]), ("os", [.string "a", .string "b"])], [], []⟩

/-- Is this the matrix with the repeated dimension? -/
def Sample.isRepeated : Matrix → Bool
  | ⟨[(name, [.string x, .string y]), (name', [.string x', .string y'])], [], []⟩ =>
    (name, x, y) = ("os", "a", "b") ∧ (name', x', y') = ("os", "a", "b")
  | _ => false

theorem Sample.eq_repeated (h : Sample.isRepeated m = true) : m = Sample.repeated := by
  unfold Sample.isRepeated at h
  split at h
  · cases of_decide_eq_true h
    simp_all [Sample.repeated]
  · cases h

theorem Sample.expand_repeated :
    Sample.repeated.expand =
      [[("os", .string "a")], [("os", .string "b")], [("os", .string "a")], [("os", .string "b")]] :=
  rfl

/-- The first combination and the third one have the same value for their only key. -/
theorem Sample.not_differ_repeated : ¬Sample.repeated.expand.Pairwise Assignment.Differ := by
  rw [Sample.expand_repeated]
  intro hdiffer
  obtain ⟨key, x, y, hx, hy, hne⟩ := List.rel_of_pairwise_cons hdiffer (.tail _ (.head _))
  rw [hx] at hy
  cases hy
  rw [Assignment.get?_cons] at hx
  split at hx
  · cases hx
    exact hne (.string "a")
  · cases hx

/-- A document that declares a dimension of two values twice passes for a matrix of two dimensions,
and each of its combinations occurs twice. -/
theorem combinations_repeat :
    ∃ m, Yaml.decode Document.decodeMatrix "os: [a, b]\nos: [a, b]\n" = .ok m ∧
      Document.checkMatrix "test" m = .ok () ∧ m.additions = [] ∧ ValuesDiffer m.dimensions ∧
        ¬m.expand.Nodup ∧ ¬m.expand.Pairwise Assignment.Differ := by
  have hdecoded : ((Yaml.decode Document.decodeMatrix "os: [a, b]\nos: [a, b]\n").toOption.any
      Sample.isRepeated) = true := by
    decide +kernel
  have hvalues : ValuesDiffer Sample.repeated.dimensions := by
    unfold ValuesDiffer
    decide +kernel
  rcases hdecode : Yaml.decode Document.decodeMatrix "os: [a, b]\nos: [a, b]\n" with e | m
  · rw [hdecode] at hdecoded
    cases hdecoded
  · rw [hdecode] at hdecoded
    obtain rfl := Sample.eq_repeated hdecoded
    refine ⟨Sample.repeated, rfl, rfl, rfl, hvalues, ?_, Sample.not_differ_repeated⟩
    rw [Sample.expand_repeated]
    simp

end Matrix

end Pipeline
