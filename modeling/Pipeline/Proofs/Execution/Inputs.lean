import Pipeline.Proofs.Dict.Ordered
import Pipeline.Proofs.Execution.Layers

/-! The inputs of a composite action as its steps see them: each by its own name in expressions, and
each by a variable that inputs of several names can share. Of inputs that share a variable the one
that is enumerated last is shown, so the order says nothing exactly where they have one value. -/

namespace Pipeline

variable {env inputs order : Dict String} {input : String × String}

/-- What the steps of a composite action see first if the inputs are enumerated in this order. -/
def nestedScope (env order : Dict String) : Scope :=
  Scope.empty.child (compositeEnv env order) (Dict.ofList order)

/-- Inputs that share a variable have one value. -/
def Unambiguous (inputs : Dict String) : Prop :=
  ∀ a ∈ inputs, ∀ b ∈ inputs, inputVariable a.1 = inputVariable b.1 → a.2 = b.2

instance (inputs : Dict String) : Decidable (Unambiguous inputs) :=
  inferInstanceAs (Decidable
    (∀ a ∈ inputs, ∀ b ∈ inputs, inputVariable a.1 = inputVariable b.1 → a.2 = b.2))

/-! ### The variables of inputs -/

theorem compositeEnv_eq_foldl :
    compositeEnv env order =
      order.foldl (fun shown input => shown.insert (inputVariable input.1) input.2) env := by
  rw [compositeEnv, Dict.override, List.foldl_map]

theorem compositeEnv_concat :
    compositeEnv env (order ++ [input]) =
      (compositeEnv env order).insert (inputVariable input.1) input.2 := by
  rw [compositeEnv_eq_foldl, compositeEnv_eq_foldl, List.foldl_append, List.foldl_cons,
    List.foldl_nil]

theorem Unambiguous.compositeEnv_eq (h : Unambiguous inputs) (hperm : inputs.Perm order) :
    compositeEnv env order = compositeEnv env inputs := by
  rw [compositeEnv_eq_foldl, compositeEnv_eq_foldl]
  -- Two bindings of one variable are the same binding, and others commute.
  refine (hperm.foldl_eq' (fun a ha b hb shown => ?_) env).symm
  by_cases hsame : inputVariable a.1 = inputVariable b.1
  · rw [hsame, h a ha b hb hsame]
  · exact Dict.insert_comm hsame ..

theorem exists_order_showing (env : Dict String) (hinput : input ∈ inputs) :
    ∃ order, inputs.Perm order ∧
      (compositeEnv env order).get? (inputVariable input.1) = some input.2 := by
  refine ⟨List.erase inputs input ++ [input], ?_, ?_⟩
  · exact (List.perm_cons_erase hinput).trans (List.perm_append_singleton ..).symm
  · rw [compositeEnv_concat, Dict.get?_insert_self]

/-! ### The order of the inputs -/

/-- What the order in which inputs are enumerated decides. -/
structure Enumerated (env inputs : Dict String) : Prop where
  context : ∀ order, inputs.Perm order →
    (nestedScope env order).inputs = (nestedScope env inputs).inputs
  unordered : (∀ order, inputs.Perm order → nestedScope env order = nestedScope env inputs) ↔
    Unambiguous inputs
  shown : Unambiguous inputs ↔ ∀ input ∈ inputs,
    (nestedScope env inputs).env.get? (inputVariable input.1) = some input.2
  raced : ∀ input ∈ inputs, ∃ order, inputs.Perm order ∧
    (nestedScope env order).env.get? (inputVariable input.1) = some input.2

theorem enumerated_of_nodup (h : (Dict.keys inputs).Nodup) : Enumerated env inputs := by
  have hcontext (order : Dict String) (hperm : inputs.Perm order) :
      Dict.ofList order = Dict.ofList inputs :=
    (Dict.Reordered.override_eq ⟨hperm, h⟩ []).symm
  have hsame (hagree : Unambiguous inputs) (order : Dict String) (hperm : inputs.Perm order) :
      nestedScope env order = nestedScope env inputs := by
    rw [nestedScope, nestedScope, hagree.compositeEnv_eq hperm, hcontext order hperm]
  have hshown (hunordered : ∀ order, inputs.Perm order →
      nestedScope env order = nestedScope env inputs) :
      ∀ input ∈ inputs, (nestedScope env inputs).env.get? (inputVariable input.1) =
        some input.2 := by
    intro input hinput
    obtain ⟨order, hperm, hlast⟩ := exists_order_showing env hinput
    rw [← hunordered order hperm]
    exact hlast
  have hagree (hall : ∀ input ∈ inputs,
      (nestedScope env inputs).env.get? (inputVariable input.1) = some input.2) :
      Unambiguous inputs := by
    intro a ha b hb hvariable
    have hvalue := hall a ha
    rw [hvariable, hall b hb] at hvalue
    exact (Option.some.inj hvalue).symm
  exact
    { context := fun order hperm => by
        rw [nestedScope, nestedScope, hcontext order hperm]
        rfl
      unordered := ⟨fun h => hagree (hshown h), hsame⟩
      shown := ⟨fun h => hshown (hsame h), hagree⟩
      raced := fun _ hinput => exists_order_showing env hinput }

theorem CompositeInfo.withDefaults_isOrdered {info : CompositeInfo}
    (h : info.inputDefaults.IsOrdered) (provided : Dict String) :
    (info.withDefaults provided).IsOrdered :=
  h.override provided

namespace Setting

variable {setting : Setting} {Inner : Row → Prop} {depth : Nat} {scope after : Scope}
  {spec : Step} {info : CompositeInfo} {steps : List ResolvedStep} {deeds : List Deed}
  {result : StepResult} {provided : Dict String}

/-- The steps of a composite action start from its inputs. -/
theorem StepGoes.exists_nested
    (h : StepGoes setting Inner depth scope (.uses spec (.composite info steps)) deeds result after)
    (hdefaults : info.inputDefaults.IsOrdered)
    (hlayers : setting.stepEnv scope spec = .ok (env, provided)) (hsteps : result.steps ≠ []) :
    ∃ row, setting.Encloses depth (.uses spec (.composite info steps)) deeds result row ∧
      Inner row ∧ row.scope = nestedScope env (info.withDefaults provided) := by
  obtain ⟨row, spec', info', env', provided', hstep, hlayers', hscope, hencloses, hinner⟩ :=
    h.exists_entered hsteps
  cases hstep
  cases hlayers.symm.trans hlayers'
  refine ⟨row, hencloses, hinner, ?_⟩
  rw [nestedScope, (info.withDefaults_isOrdered hdefaults provided).ofList_eq]
  exact hscope

end Setting

namespace Sample

/-- An action that declares the inputs with these defaults. -/
def greeter (defaults : Dict String) : CompositeInfo :=
  ⟨⟨"./greet", "Greet", "/greet",
    defaults.mapValues fun value => { Manifest.Input.empty with default := some (.string value) },
    defaults, []⟩, 1⟩

def polite : CompositeInfo :=
  greeter [("first name", "you"), ("greeting", "hello")]

def greet : Step :=
  { Step.of "greet" (.action (.workspace "./greet")) with inputs := [("first name", "Ann")] }

def greeting : ResolvedStep :=
  .uses greet (.composite polite [.plain compile])

end Sample

namespace Setting

variable {setting : Setting} {scope : Scope} {spec : Step} {info : CompositeInfo}
  {env provided : Dict String}

/-- The steps of a composite action see the same environment and the same inputs, whatever the order
in which its inputs are enumerated, exactly if all that share a variable have one value, and exactly
if each of them is shown by its variable. The inputs in expressions are the same in any case, and in
the environment each input is shown in one order at least. -/
theorem nested_scope_unordered_iff (hdefaults : info.inputDefaults.IsOrdered)
    (hlayers : setting.stepEnv scope spec = .ok (env, provided)) :
    (∀ depth steps deeds result after,
      (setting.runStep depth scope (.uses spec (.composite info steps))).Runs deeds
        (result, after) →
      result.steps ≠ [] →
      ∃ row, setting.Encloses depth (.uses spec (.composite info steps)) deeds result row ∧
        setting.Ran row ∧ row.scope = nestedScope env (info.withDefaults provided)) ∧
    Enumerated env (info.withDefaults provided) :=
  ⟨fun _ _ _ _ _ hruns hsteps => (stepGoes hruns).exists_nested hdefaults hlayers hsteps,
    enumerated_of_nodup (info.withDefaults_isOrdered hdefaults provided).nodup⟩

theorem nested_scope_unordered_iff_sample :
    let setting : Setting := ⟨⟨Sample.run, []⟩, false⟩
    let given := [("first name", "Ann")]
    let inputs := [("first name", "Ann"), ("greeting", "hello")]
    let course := (setting.runStep 0 Scope.empty Sample.greeting).follow
      (Sample.replies 0 fun _ => false) []
    Sample.polite.inputDefaults.IsOrdered ∧
    setting.stepEnv Scope.empty Sample.greet = .ok (given, given) ∧
    Unambiguous inputs ∧
    (∀ order, inputs.Perm order → nestedScope given order = nestedScope given inputs) ∧
    ∃ row, setting.Encloses 0 Sample.greeting course.1 course.2.1 row ∧ setting.Ran row ∧
      row.scope = nestedScope given inputs := by
  intro setting given inputs course
  have hdefaults : Sample.polite.inputDefaults.IsOrdered := by decide +kernel
  have hlayers : setting.stepEnv Scope.empty Sample.greet = .ok (given, given) := rfl
  have hinputs : Sample.polite.withDefaults given = inputs := by decide +kernel
  have hagree : Unambiguous inputs := by decide +kernel
  have hsteps : course.2.1.steps ≠ [] := by decide +kernel
  obtain ⟨hrow, henumerated⟩ := nested_scope_unordered_iff hdefaults hlayers
  rw [hinputs] at hrow henumerated
  exact ⟨hdefaults, hlayers, hagree, henumerated.unordered.mpr hagree,
    hrow 0 _ _ _ _ (Work.follow_runs ..) hsteps⟩

/-- The default of one input and the value given for another one can both be shown by the variable
that they share, depending on the order. -/
theorem shared_variable_raced :
    let inputs := (Sample.greeter [("name", "you")]).withDefaults [("NAME", "Ann")]
    let shown := inputVariable "name"
    (nestedScope [] inputs).env.get? shown = some "you" ∧
    (nestedScope [] inputs.reverse).env.get? shown = some "Ann" ∧
    ¬ Unambiguous inputs ∧
    ¬ ∀ order, inputs.Perm order → nestedScope [] order = nestedScope [] inputs := by
  intro inputs shown
  have hdefault : (nestedScope [] inputs).env.get? shown = some "you" := by decide +kernel
  have hgiven : (nestedScope [] inputs.reverse).env.get? shown = some "Ann" := by decide +kernel
  refine ⟨hdefault, hgiven, by decide +kernel, fun hunordered => ?_⟩
  rw [hunordered inputs.reverse (List.reverse_perm inputs).symm, hdefault] at hgiven
  exact absurd hgiven (by decide)

end Setting

end Pipeline
