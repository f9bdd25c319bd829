import FieldDelta.Proofs.Query.Cutoff
import FieldDelta.Session

/-! # Sessions regenerate no more than needed

A session drives the engine by its steps only (`Session.exists_steps`), so what is known of runs of
the engine holds of sessions.  The main statement puts together what a regeneration costs, in
either of them.
-/

namespace FieldDelta

open Query

/-! ## Calls -/

namespace Session

/-- What can be asked of a session. -/
inductive Call where
  | setSource (modulePath path text : String)
  | removeSource (modulePath : String)
  | setOptions (options : Options)
  | generate
  | graph

/-- The session behind a call. -/
def call (session : Session) : Call → Session
  | .setSource modulePath path text => session.setSource modulePath path text
  | .removeSource modulePath => (session.removeSource modulePath).2
  | .setOptions options => session.setOptions options
  | .generate => session.generate.2
  | .graph => session.graph.2

/-- The session behind several calls, one after the other. -/
def calls (session : Session) (calls : List Call) : Session :=
  calls.foldl call session

/-- The source that is stored for a module. -/
def source? (session : Session) (modulePath : String) : Option Source :=
  (session.unit? modulePath).bind session.store.source?

/-- The call sets what is set already, or forgets what is not known. -/
def IsIdle (session : Session) : Call → Prop
  | .setSource modulePath path text => ∃ source, session.source? modulePath = some source ∧
      Files.Path.same source.path path = true ∧ source.text = text
  | .removeSource modulePath => modulePath ∉ session.modules
  | .setOptions options => session.store.options = options
  | _ => False

instance (session : Session) : DecidablePred session.IsIdle
  | .setSource modulePath path text =>
    decidable_of_iff ((session.source? modulePath).any fun source =>
        Files.Path.same source.path path && source.text == text) (by
      simp [IsIdle, Option.any_eq_true])
  | .removeSource modulePath => inferInstanceAs (Decidable (modulePath ∉ session.modules))
  | .setOptions options => inferInstanceAs (Decidable (session.store.options = options))
  | .generate => inferInstanceAs (Decidable False)
  | .graph => inferInstanceAs (Decidable False)

/-- An idle call changes nothing. -/
theorem call_of_isIdle {session : Session} {call : Call} (h_idle : session.IsIdle call) :
    session.call call = session := by
  cases call with
  | setSource modulePath path text =>
    obtain ⟨source, h_source, h_path, h_text⟩ := h_idle
    obtain ⟨unit, h_unit, h_stored⟩ := Option.bind_eq_some_iff.mp h_source
    simp [Session.call, setSource, h_unit, updateUnit, h_stored, h_path, h_text]
  | removeSource modulePath =>
    have h_none : session.unit? modulePath = none := by
      rw [unit?, Option.map_eq_none_iff, List.find?_eq_none]
      intro entry h_entry h_eq
      exact h_idle (List.mem_map.mpr ⟨entry, h_entry, by simpa using h_eq⟩)
    simp [Session.call, removeSource, h_none]
  | setOptions options => exact if_pos h_idle
  | generate => exact h_idle.elim
  | graph => exact h_idle.elim

theorem calls_of_isIdle {session : Session} {idle : List Call}
    (h_idle : ∀ call ∈ idle, session.IsIdle call) : session.calls idle = session := by
  induction idle with
  | nil => rfl
  | cons first rest ih =>
    obtain ⟨h_first, h_rest⟩ := List.forall_mem_cons.mp h_idle
    rw [calls, List.foldl_cons, call_of_isIdle h_first]
    exact ih h_rest

/-! ## The engine behind a session -/

theorem exists_steps (session : Session) (call : Call) :
    ∃ steps, (session.call call).store = (Store.run steps session.store).2 := by
  cases call with
  | setSource modulePath path text =>
    simp only [Session.call, setSource]
    split
    next unit h_unit =>
      unfold updateUnit
      split
      next => exact ⟨[], rfl⟩
      next source h_source =>
        by_cases h_path : Files.Path.same source.path path = true <;>
          by_cases h_text : source.text = text
        · exact ⟨[], by simp [h_path, h_text, Store.run, askAll]⟩
        · exact ⟨[.setText unit text], by simp [h_path, h_text]; rfl⟩
        · exact ⟨[.setPath unit path], by simp [h_path, h_text]; rfl⟩
        · exact ⟨[.setPath unit path, .setText unit text], by simp [h_path, h_text]; rfl⟩
    next => exact ⟨[.addUnit ⟨modulePath, path, text⟩, .setListed _], rfl⟩
  | removeSource modulePath =>
    simp only [Session.call, removeSource]
    split
    next => exact ⟨[.setListed _], rfl⟩
    next => exact ⟨[], rfl⟩
  | setOptions options =>
    simp only [Session.call, setOptions]
    split
    next => exact ⟨[], rfl⟩
    next => exact ⟨[.setOptions options], rfl⟩
  | generate => exact ⟨[.ask .generated], rfl⟩
  | graph => exact ⟨[.ask .graph], rfl⟩

/-- Behind every session is a store as runs of the engine leave it. -/
theorem recorded_calls (session : Session) (h_sound : session.store.Sound)
    (h_recorded : session.store.Recorded) (calls : List Call) :
    (session.calls calls).store.Sound ∧ (session.calls calls).store.Recorded := by
  induction calls generalizing session with
  | nil => exact ⟨h_sound, h_recorded⟩
  | cons first rest ih =>
    obtain ⟨steps, h_steps⟩ := session.exists_steps first
    have h_run := Store.recorded_run h_sound h_recorded steps
    rw [← h_steps] at h_run
    exact ih _ h_run.1 h_run.2

end Session

/-! ## What a regeneration costs -/

open Query.Store

/-- Along every run of the engine, and in every session:

* right after a generation, another one executes nothing;
* edits of listed units that leave what is collected from them cost one collection for each unit;
* other edits cost the collections, the outcomes of candidates and the units of nodes that were
  never asked for, and the graph and the generation themselves.  A node that stays as it is is not
  emitted again;
* calls to a session that set what is set already cost nothing. -/
theorem regeneration_cost (options : Options) (steps : List Step)
    (calls : List Session.Call) :
    (let asked := (Store.run steps { options := options }).2.askGenerated.2
     asked.askGenerated.2 = asked ∧
     ∀ edits : List Step,
       (∀ edit ∈ edits, ∃ unit ∈ asked.listed, edit.editedUnit? = some unit) →
       let edited := (Store.run edits asked).2
       let units := edits.filterMap Step.editedUnit?
       edited.Executes edited.askGenerated.2 (editCost asked edited units) ∧
       ((∀ unit ∈ units, edited.lastCollected? unit = some (edited.inputs.collected unit)) →
         edited.Executes edited.askGenerated.2 (onceEach (units.map .collected))) ∧
       ∀ node ∈ asked.inputs.compilation.graph.nodes,
         editCost asked edited units (.emitted node asked.options) = 0) ∧
    (let session := ((Session.new options).calls calls).generate.2
     ∀ idle, (∀ call ∈ idle, session.IsIdle call) →
       (session.calls idle).generate.2 = session) := by
  have h_engine := recorded_run (.initial options) (.initial options) steps
  have h_session := Session.recorded_calls (Session.new options) (.initial options)
    (.initial options) calls
  refine ⟨?_, ?_⟩
  · intro asked
    have h_asked : asked.UpToDate := upToDate_askGenerated h_engine.1 h_engine.2
    refine ⟨h_asked.askGenerated_eq, fun edits h_edits => ?_⟩
    intro edited units
    have h_edited : asked.Edited edited units := by
      refine edited_run fun edit h_edit => ?_
      obtain ⟨unit, -, h_unit⟩ := h_edits edit h_edit
      simp [h_unit]
    have h_listed : ∀ unit ∈ units, unit ∈ asked.listed := by
      intro unit h_unit
      obtain ⟨edit, h_edit, h_edited_unit⟩ := List.mem_filterMap.mp h_unit
      obtain ⟨other, h_other, h_edited_other⟩ := h_edits edit h_edit
      obtain rfl : other = unit := Option.some.inj (h_edited_other.symm.trans h_edited_unit)
      exact h_other
    obtain ⟨h_sound, h_recorded⟩ := recorded_run h_asked.sound h_asked.recorded edits
    have h_cost := executes_askGenerated_edited h_asked h_edited h_sound h_recorded h_listed
    refine ⟨h_cost, fun h_same => ?_, fun node h_node => ?_⟩
    · have h_collected := collected_of_lastCollected? h_asked h_edited h_sound h_listed h_same
      have h_options : edited.options = asked.options := by
        rw [h_edited.frame]
      rwa [editCost_of_same units h_asked.isLogged h_options h_collected] at h_cost
    · exact if_neg fun h_new => h_new.2.2 (h_asked.isLogged.emitted node h_node)
  · intro session idle h_idle
    rw [Session.calls_of_isIdle h_idle]
    have h_asked := upToDate_askGenerated h_session.1 h_session.2
    exact congrArg (fun store => { session with store := store }) h_asked.askGenerated_eq

/-- More blanks in a unit cost collecting it, and setting the same source under another spelling of
    its path costs nothing. -/
theorem regeneration_cost_respaced :
    let text := "#[derive(TrackDelta)] struct A;"
    let opened := (Store.run [.addUnit ⟨"crate", "src/lib.rs", text⟩, .setListed [0]] {}).2
    let asked := opened.askGenerated.2
    let edited := (Store.run [.setText 0 "#[derive(TrackDelta)] struct  A;"] asked).2
    let session := ((Session.new {}).calls [.setSource "crate" "src/lib.rs" text]).generate.2
    edited.Executes edited.askGenerated.2 (onceEach [.collected 0]) ∧
    (session.calls [.setSource "crate" "src//lib.rs" text, .removeSource "crate::a",
      .setOptions {}]).generate.2 = session := by
  intro text opened asked edited session
  obtain ⟨h_engine, h_session⟩ := regeneration_cost {}
    [.addUnit ⟨"crate", "src/lib.rs", text⟩, .setListed [0]] [.setSource "crate" "src/lib.rs" text]
  refine ⟨(h_engine.2 [.setText 0 "#[derive(TrackDelta)] struct  A;"] ?_).2.1 ?_, h_session _ ?_⟩
  · decide +kernel
  · decide +kernel
  · decide +kernel

end FieldDelta
