import Pipeline.Proofs.Action.Readings
import Pipeline.Proofs.Dict.Ordered

/-! Manifests as they come out of documents: what has been declared under names stands in the order
of the names, with each name once, however the document repeats or arranges them. -/

namespace Pipeline

namespace Yaml

variable {α β : Type} {P : α → Prop} {Q : β → Prop}

/-- What the walk gives, if it comes to an end, satisfies `P`. -/
def Walk.Gives (P : α → Prop) (walk : Walk α) : Prop :=
  ∀ around count value count', (walk.run around).run count = .ok (value, count') → P value

namespace Walk

theorem gives_any (walk : Walk α) : Gives (fun _ => True) walk :=
  fun _ _ _ _ _ => trivial

theorem gives_pure {value : α} (h : P value) : Gives P (pure value : Walk α) := by
  intro _ _ _ _ hrun
  cases hrun
  exact h

theorem gives_throw (e : Error) : Gives P (throw e : Walk α) := by
  intro _ _ _ _ hrun
  cases hrun

theorem Gives.bind {walk : Walk α} {next : α → Walk β} (h : Gives P walk)
    (hnext : ∀ value, P value → Gives Q (next value)) : Gives Q (walk >>= next) := by
  intro around count out count' hrun
  rw [ReaderT.run_bind, StateT.run_bind] at hrun
  cases hwalk : (walk.run around).run count with
  | error e =>
    rw [hwalk] at hrun
    cases hrun
  | ok left =>
    rw [hwalk] at hrun
    exact hnext left.1 (h _ _ _ _ hwalk) _ _ _ _ hrun

theorem Gives.inside {walk : Walk α} (h : Gives P walk) : Gives P (Decoder.inside walk) := by
  refine (gives_any _).bind fun around _ => ?_
  split
  · exact gives_throw _
  · intro around' count value count' hrun
    exact h _ _ _ _ hrun

end Walk

namespace Decoder

open Walk

/-- What every field keeps holds of the whole record. -/
theorem gives_record {key : Decoder String} {field : String → Option (Node → α → Walk α)}
    (hfield : ∀ name decode, field name = some decode → ∀ node value, P value →
      Gives P (decode node value)) (entries : List (Node × Node)) (seen : List String) {value : α}
    (h : P value) : Gives P (record key field seen value entries) := by
  induction entries generalizing seen value with
  | nil => exact gives_pure h
  | cons entry rest ih =>
    rw [record]
    refine (gives_any _).bind fun name _ => ?_
    split
    · split
      · exact (gives_throw (P := fun _ => True) _).bind fun _ _ => ih seen h
      · exact ih seen h
    · next decode hdecode =>
      split
      · exact (gives_throw (P := fun _ => True) _).bind fun _ _ =>
          (hfield name decode hdecode _ _ h).bind fun _ hvalue => ih _ hvalue
      · exact (hfield name decode hdecode _ _ h).bind fun _ hvalue => ih _ hvalue

theorem gives_fields {field : String → Option (Node → α → Walk α)} {start : α}
    (hfield : ∀ name decode, field name = some decode → ∀ node value, P value →
      Gives P (decode node value)) (h : P start) (node : Node) :
    Gives P (fields field start node) := by
  unfold fields entries
  refine (gives_any _).bind fun node _ => ?_
  split
  · exact (gives_record hfield _ _ h).inside
  · exact gives_record hfield _ _ h
  · exact gives_throw _
  · exact gives_throw _

theorem gives_dict (decode : Decoder α) (node : Node) :
    Gives Dict.IsOrdered (dict decode node) :=
  (gives_any _).bind fun pairs _ => gives_pure (Dict.isOrdered_ofList pairs)

end Decoder

theorem of_decode {decoder : Decoder α} {text : String} {value : α}
    (hgives : ∀ node, Walk.Gives P (decoder node)) (h : decode decoder text = .ok value) :
    P value := by
  unfold decode at h
  dsimp only at h
  split at h
  · cases h
  · cases h
  · next value' count hrun =>
    split at h
    · cases h
    · cases h
      exact hgives _ _ _ _ _ hrun

end Yaml

namespace Manifest

open Yaml Yaml.Walk Yaml.Decoder

theorem gives_decodeManifest (node : Node) :
    Gives (fun manifest => manifest.inputs.IsOrdered) (decodeManifest node) := by
  unfold decodeManifest
  refine (gives_fields (P := fun draft : Draft => draft.inputs.IsOrdered) ?_ ?_ node).bind
    fun draft hdraft => ?_
  · intro name decode hdecode node draft hdraft
    split at hdecode <;> cases hdecode
    · exact (gives_any _).bind fun _ _ => gives_pure hdraft
    · exact (gives_any _).bind fun _ _ => gives_pure hdraft
    · exact (gives_dict _ _).bind fun _ hinputs => gives_pure hinputs
    · exact (gives_any _).bind fun _ _ => gives_pure hdraft
    · exact (gives_any _).bind fun _ _ => gives_pure hdraft
  · exact Dict.isOrdered_nil
  · split
    · exact gives_throw _
    · exact gives_pure hdraft

/-- The defaults of a manifest that has been read stand in the order of the names. -/
theorem isOrdered_inputDefaults {tree : FileTree} {directory : String} {manifest : Manifest}
    (h : find tree directory = .ok manifest) : manifest.inputDefaults.IsOrdered := by
  have hinputs : manifest.inputs.IsOrdered := by
    unfold find at h
    split at h
    · cases h
    · split at h
      · cases h
      · next text _ =>
        unfold parse at h
        split at h
        · cases h
        · next read hread =>
          split at h
          · cases h
          · cases h
            exact of_decode (P := fun manifest => manifest.inputs.IsOrdered) gives_decodeManifest
              hread
  refine hinputs.filterMap fun input out hout => ?_
  obtain ⟨value, -, rfl⟩ := Option.map_eq_some_iff.mp hout
  rfl

end Manifest

/-- Every composite action that can be looked up has its defaults in the order of their names. -/
theorem Catalog.isOrdered_of_composite? {catalog : Catalog} {reference : ActionRef}
    {head : CompositeHead} {specs : List Step}
    (h : catalog.composite? reference = .ok (some (head, specs))) :
    head.inputDefaults.IsOrdered := by
  obtain ⟨directory, manifest, -, hfind, -, rfl, -⟩ := manifest_of_composite? h
  exact Manifest.isOrdered_inputDefaults hfind

end Pipeline
