import FieldDelta.Proofs.Query.Asking

/-! # Runs answer nothing stale

The machine that remembers and the machine that computes everything from scratch take the same
steps.  One step keeps the store sound and the inputs of both machines equal (`step_spec`), so
whole runs have the same answers (`run_answers_fromScratch`).
-/

namespace FieldDelta.Query.Store

theorem inputs_setSource (store : Store) (unit : Nat) (change : Source → Source) :
    (store.setSource unit change).inputs = store.inputs.setSource unit change := by
  have h_sources : (store.setSource unit change).inputs.sources =
      (store.inputs.setSource unit change).sources := by
    refine List.ext_getElem? fun other => ?_
    simp only [setSource, inputs, Inputs.setSource, List.getElem?_map, List.getElem?_modify]
    cases store.units[other]? with
    | none => rfl
    | some entry => by_cases h_unit : unit = other <;> simp [h_unit]
  exact congrArg (fun sources => { store.inputs with sources := sources }) h_sources

/-- A step keeps the store sound, answers what is computed from scratch, and changes the inputs as
    it does without memory. -/
theorem step_spec {store : Store} (h_sound : store.Sound) (step : Step) :
    (store.step step).1 = (store.inputs.step step).1 ∧ (store.step step).2.Sound ∧
      (store.step step).2.inputs = (store.inputs.step step).2 := by
  cases step with
  | addUnit source =>
    refine ⟨rfl, h_sound.addUnit source, ?_⟩
    simp [Store.step, Inputs.step, addUnit, inputs]
  | setText unit text =>
    exact ⟨rfl, h_sound.setSource unit fun source => { source with text := text },
      inputs_setSource store unit _⟩
  | setPath unit path =>
    exact ⟨rfl, h_sound.setSource unit fun source => { source with path := path },
      inputs_setSource store unit _⟩
  | setModule unit modulePath =>
    exact ⟨rfl, h_sound.setSource unit fun source => { source with modulePath := modulePath },
      inputs_setSource store unit _⟩
  | setListed units =>
    refine ⟨rfl, h_sound.setListed units, ?_⟩
    simp [Store.step, Inputs.step, setListed, inputs]
  | setOptions options => exact ⟨rfl, h_sound.setOptions options, rfl⟩
  | ask query =>
    obtain ⟨h_answer, h_remembers⟩ := answers_ask query store h_sound
    exact ⟨congrArg some h_answer, h_remembers.sound, h_remembers.inputs⟩

theorem run_spec {store : Store} (h_sound : store.Sound) (steps : List Step) :
    (store.run steps).1 = (store.inputs.run steps).1 ∧
      (store.run steps).2.inputs = (store.inputs.run steps).2 := by
  induction steps generalizing store with
  | nil => exact ⟨rfl, rfl⟩
  | cons first rest ih =>
    obtain ⟨h_answer, h_step, h_inputs⟩ := step_spec h_sound first
    -- The rest of the run starts from the inputs that the first step has left.
    obtain ⟨h_answers, h_last⟩ := ih h_step
    rw [h_inputs] at h_answers h_last
    exact ⟨congrArg₂ List.cons h_answer h_answers, h_last⟩

/-- The engine never answers anything stale: along every run from an empty store, whatever was
    added, set, listed and asked in whatever order, each answer is the one that is computed from
    scratch on the inputs of that moment. -/
theorem run_answers_fromScratch (options : Options) (steps : List Step) :
    (Store.run steps { options := options }).1 = (Inputs.run steps { options := options }).1 ∧
      (Store.run steps { options := options }).2.inputs =
        (Inputs.run steps { options := options }).2 :=
  run_spec (.initial options) steps

end FieldDelta.Query.Store
