import FieldDelta.Proofs.Sessions
import Mathlib.Data.List.Induction

/-! # What a session compiles

A session keeps one source for each module.  Sources that are set one after the other leave the
last one of each module behind (`Session.calls_spec`), and a generation is computed from what is
left (`Session.fst_generate`).
-/

namespace FieldDelta

open Query

/-- What is collected from a source does not depend on the file's name, but for diagnostics. -/
theorem Source.candidates_congr {source other : Source}
    (h_module : source.modulePath = other.modulePath) (h_text : source.text = other.text) :
    source.collected.candidates = other.collected.candidates := by
  unfold collected collect
  rw [h_module, h_text]
  split <;> rfl

/-- The last of several sources for a module. -/
def Source.lastOf? (sources : List Source) (modulePath : String) : Option Source :=
  sources.reverse.find? (·.modulePath == modulePath)

theorem Source.exists_lastOf? {sources : List Source} {source : Source}
    (h_source : source ∈ sources) :
    ∃ last, lastOf? sources source.modulePath = some last ∧
      last.modulePath = source.modulePath := by
  have h_some : (lastOf? sources source.modulePath).isSome :=
    List.find?_isSome.mpr ⟨source, List.mem_reverse.mpr h_source, beq_self_eq_true _⟩
  obtain ⟨last, h_find⟩ := Option.isSome_iff_exists.mp h_some
  have h_module := List.find?_some h_find
  exact ⟨last, h_find, by simpa using h_module⟩

/-! ## Sources of the engine -/

namespace Query.Store

theorem source?_addUnit (store : Store) (source : Source) (unit : Nat) :
    (store.addUnit source).2.source? unit =
      if unit = store.units.length then some source else store.source? unit := by
  simp only [source?, addUnit, List.getElem?_append]
  split
  next h_old => rw [if_neg (Nat.ne_of_lt h_old)]
  next h_new =>
    by_cases h_unit : unit = store.units.length
    · simp [h_unit]
    · have h_beyond : store.units.length < unit := by omega
      rw [if_neg h_unit, List.getElem?_eq_none (Nat.le_of_lt h_beyond), List.getElem?_eq_none]
      simp
      omega

/-- The unit has the given source afterwards, and nothing else has changed about the sources. -/
structure Replaces (before after : Store) (unit : Nat) (source : Source) : Prop where
  options : after.options = before.options
  listed : after.listed = before.listed
  replaced : after.source? unit = some source
  kept : ∀ other ≠ unit, after.source? other = before.source? other

theorem Replaces.refl {store : Store} {unit : Nat} {source : Source}
    (h_source : store.source? unit = some source) : store.Replaces store unit source where
  options := rfl
  listed := rfl
  replaced := h_source
  kept _ _ := rfl

theorem Replaces.trans {first second third : Store} {unit : Nat} {source other : Source}
    (h_first : first.Replaces second unit source) (h_second : second.Replaces third unit other) :
    first.Replaces third unit other where
  options := h_second.options.trans h_first.options
  listed := h_second.listed.trans h_first.listed
  replaced := h_second.replaced
  kept unit' h_ne := (h_second.kept unit' h_ne).trans (h_first.kept unit' h_ne)

theorem replaces_setSource {store : Store} {unit : Nat} {source : Source}
    (h_source : store.source? unit = some source) (change : Source → Source) :
    store.Replaces (store.setSource unit change) unit (change source) where
  options := rfl
  listed := rfl
  replaced := by
    obtain ⟨entry, h_entry, rfl⟩ := Option.map_eq_some_iff.mp h_source
    simp [source?, setSource, h_entry]
  kept other h_ne := by
    simp [source?, setSource, Ne.symm h_ne]

theorem lt_of_source? {store : Store} {unit : Nat} {source : Source}
    (h_source : store.source? unit = some source) : unit < store.units.length := by
  obtain ⟨entry, h_entry, -⟩ := Option.map_eq_some_iff.mp h_source
  exact (List.getElem?_eq_some_iff.mp h_entry).1

end Query.Store

namespace Session

/-! ## One unit for each module -/

/-- The units of the session are those of its compilation, and each holds the source of the module
    that it is known under. -/
structure Consistent (session : Session) : Prop where
  listed : session.store.listed = session.units.map (·.2)
  stored : ∀ entry ∈ session.units, ∃ source,
    session.store.source? entry.2 = some source ∧ source.modulePath = entry.1

theorem Consistent.new (options : Options) : (Session.new options).Consistent where
  listed := rfl
  stored := nofun

variable {session : Session} {modulePath : String} {unit : Nat} {source : Source}

theorem mem_units (h_unit : session.unit? modulePath = some unit) :
    (modulePath, unit) ∈ session.units := by
  obtain ⟨entry, h_find, rfl⟩ := Option.map_eq_some_iff.mp h_unit
  have h_module : entry.1 = modulePath := by simpa using List.find?_some h_find
  rw [← h_module]
  exact List.mem_of_find?_eq_some h_find

theorem Consistent.modulePath_eq (h_session : session.Consistent)
    (h_unit : session.unit? modulePath = some unit)
    (h_source : session.store.source? unit = some source) : source.modulePath = modulePath := by
  obtain ⟨found, h_found, h_module⟩ := h_session.stored _ (mem_units h_unit)
  rw [h_source] at h_found
  rw [Option.some.inj h_found, h_module]

theorem Consistent.exists_source (h_session : session.Consistent)
    (h_unit : session.unit? modulePath = some unit) :
    ∃ source, session.store.source? unit = some source ∧ source.modulePath = modulePath :=
  h_session.stored _ (mem_units h_unit)

/-- The source of a module is one of the compilation. -/
theorem Consistent.mem_sources (h_session : session.Consistent)
    (h_source : session.source? modulePath = some source) :
    source.modulePath = modulePath ∧ source ∈ session.store.compilation.sources := by
  obtain ⟨unit, h_unit, h_stored⟩ := Option.bind_eq_some_iff.mp h_source
  refine ⟨h_session.modulePath_eq h_unit h_stored,
    List.mem_filterMap.mpr ⟨unit, ?_, h_stored⟩⟩
  rw [h_session.listed]
  exact List.mem_map_of_mem (f := (·.2)) (mem_units h_unit)

/-! ## Setting a source -/

theorem mem_insertUnit {entry : String × Nat} {units : List (String × Nat)} :
    entry ∈ insertUnit modulePath unit units ↔ entry = (modulePath, unit) ∨ entry ∈ units := by
  induction units with
  | nil => simp [insertUnit]
  | cons first rest ih =>
    rw [insertUnit]
    split
    · simp
    · rw [List.mem_cons, ih, List.mem_cons, or_left_comm]

/-- The new unit is found under its module, and the others are found as before. -/
theorem find?_insertUnit (unit : Nat) (units : List (String × Nat)) (other : String)
    (h_new : ∀ entry ∈ units, entry.1 ≠ modulePath) :
    (insertUnit modulePath unit units).find? (·.1 == other) =
      if other = modulePath then some (modulePath, unit) else units.find? (·.1 == other) := by
  induction units with
  | nil => by_cases h_other : other = modulePath <;> simp [insertUnit, h_other, Ne.symm]
  | cons first rest ih =>
    obtain ⟨h_first, h_rest⟩ := List.forall_mem_cons.mp h_new
    rw [insertUnit]
    split
    · by_cases h_other : other = modulePath
      · simp [h_other]
      · rw [List.find?_cons_of_neg (by simpa using Ne.symm h_other), if_neg h_other]
    · rw [List.find?_cons, List.find?_cons, ih h_rest]
      by_cases h_other : other = modulePath
      · simp [h_other, beq_false_of_ne h_first]
      · simp only [if_neg h_other]

theorem replaces_updateUnit {store : Store} (h_source : store.source? unit = some source)
    (path text : String) :
    ∃ path', store.Replaces (updateUnit store unit path text) unit
      { source with path := path', text := text } := by
  obtain ⟨path', h_path⟩ : ∃ path', store.Replaces
      (if Files.Path.same source.path path then store else store.setPath unit path) unit
      { source with path := path' } := by
    split
    · exact ⟨source.path, .refl h_source⟩
    · exact ⟨path, Store.replaces_setSource h_source _⟩
  refine ⟨path', ?_⟩
  unfold updateUnit
  rw [h_source]
  dsimp only
  split
  next h_text =>
    rw [← h_text]
    exact h_path
  next => exact h_path.trans (Store.replaces_setSource h_path.replaced _)

theorem unit?_eq_none (h_unit : session.unit? modulePath = none) :
    ∀ entry ∈ session.units, entry.1 ≠ modulePath := by
  intro entry h_entry
  have h_find := List.find?_eq_none.mp (Option.map_eq_none_iff.mp h_unit) entry h_entry
  simpa using h_find

/-- What setting a source comes to: it replaces the one of its module, and only that. -/
structure Sets (before after : Session) (modulePath text : String) : Prop where
  options : after.store.options = before.store.options
  consistent : after.Consistent
  stored : ∃ source, after.source? modulePath = some source ∧ source.text = text
  kept : ∀ other ≠ modulePath, after.source? other = before.source? other

/-- The module has a unit already. -/
theorem sets_of_some (h_session : session.Consistent)
    (h_unit : session.unit? modulePath = some unit) (path text : String) :
    session.Sets (session.setSource modulePath path text) modulePath text := by
  obtain ⟨source, h_source, h_module⟩ := h_session.exists_source h_unit
  obtain ⟨path', h_replaces⟩ := replaces_updateUnit h_source path text
  have h_set : session.setSource modulePath path text =
      { session with store := updateUnit session.store unit path text } := by
    rw [Session.setSource, h_unit]
  rw [h_set]
  constructor
  · exact h_replaces.options
  · refine ⟨h_replaces.listed.trans h_session.listed, fun entry h_entry => ?_⟩
    obtain ⟨found, h_found, h_found_module⟩ := h_session.stored entry h_entry
    by_cases h_same : entry.2 = unit
    · subst h_same
      rw [h_source] at h_found
      cases h_found
      exact ⟨_, h_replaces.replaced, h_found_module⟩
    · exact ⟨found, (h_replaces.kept _ h_same).trans h_found, h_found_module⟩
  · exact ⟨_, Option.bind_eq_some_iff.mpr ⟨unit, h_unit, h_replaces.replaced⟩, rfl⟩
  · intro other h_other
    refine Option.bind_congr fun found h_found => h_replaces.kept found ?_
    -- Another module has another unit.
    rintro rfl
    exact h_other ((h_session.modulePath_eq h_found h_source).symm.trans h_module)

/-- The module gets a unit. -/
theorem sets_of_none (h_session : session.Consistent) (h_unit : session.unit? modulePath = none)
    (path text : String) :
    session.Sets (session.setSource modulePath path text) modulePath text := by
  have h_set : session.setSource modulePath path text =
      ({ session with store := (session.store.addUnit ⟨modulePath, path, text⟩).2 }).withUnits
        (insertUnit modulePath session.store.units.length session.units) := by
    rw [Session.setSource, h_unit]
    rfl
  rw [h_set]
  have h_added := session.store.source?_addUnit ⟨modulePath, path, text⟩
  have h_stored : ∀ entry ∈ insertUnit modulePath session.store.units.length session.units,
      ∃ source, (session.store.addUnit ⟨modulePath, path, text⟩).2.source? entry.2 = some source ∧
        source.modulePath = entry.1 := by
    intro entry h_entry
    rcases mem_insertUnit.mp h_entry with rfl | h_entry
    · exact ⟨_, (h_added _).trans (if_pos rfl), rfl⟩
    · obtain ⟨found, h_found, h_module⟩ := h_session.stored entry h_entry
      exact ⟨found, ((h_added _).trans (if_neg (Nat.ne_of_lt (Store.lt_of_source? h_found)))).trans
        h_found, h_module⟩
  have h_units (other : String) := find?_insertUnit session.store.units.length
    session.units other (unit?_eq_none h_unit)
  constructor
  · rfl
  · refine ⟨List.filter_eq_self.mpr fun unit h_mem => ?_, h_stored⟩
    obtain ⟨entry, h_entry, rfl⟩ := List.mem_map.mp h_mem
    obtain ⟨source, h_source, -⟩ := h_stored entry h_entry
    exact decide_eq_true (Store.lt_of_source? h_source)
  · refine ⟨⟨modulePath, path, text⟩, Option.bind_eq_some_iff.mpr
      ⟨session.store.units.length, ?_, (h_added _).trans (if_pos rfl)⟩, rfl⟩
    exact congrArg (Option.map (·.2)) ((h_units modulePath).trans (if_pos rfl))
  · intro other h_other
    have h_same : (({ session with store := (session.store.addUnit ⟨modulePath, path, text⟩).2 }).withUnits
        (insertUnit modulePath session.store.units.length session.units)).unit? other =
        session.unit? other :=
      congrArg (Option.map Prod.snd) ((h_units other).trans (if_neg h_other))
    rw [source?, h_same]
    refine Option.bind_congr fun found h_found => ?_
    obtain ⟨source, h_source, -⟩ := h_session.exists_source h_found
    exact (h_added found).trans (if_neg (Nat.ne_of_lt (Store.lt_of_source? h_source)))

theorem sets_setSource (h_session : session.Consistent) (modulePath path text : String) :
    session.Sets (session.setSource modulePath path text) modulePath text := by
  cases h_unit : session.unit? modulePath with
  | none => exact sets_of_none h_session h_unit path text
  | some unit => exact sets_of_some h_session h_unit path text

/-! ## Setting several sources -/

/-- The call that sets a source. -/
def Call.ofSource (source : Source) : Call :=
  .setSource source.modulePath source.path source.text

theorem calls_append (session : Session) (first second : List Call) :
    session.calls (first ++ second) = (session.calls first).calls second :=
  List.foldl_append

/-- Of the sources of a module, the last one stays. -/
theorem calls_spec (h_session : session.Consistent) (sources : List Source) :
    let after := session.calls (sources.map Call.ofSource)
    after.Consistent ∧ after.store.options = session.store.options ∧
      ∀ modulePath last, Source.lastOf? sources modulePath = some last →
        ∃ stored, after.source? modulePath = some stored ∧ stored.text = last.text := by
  induction sources using List.reverseRecOn with
  | nil => exact ⟨h_session, rfl, nofun⟩
  | append_singleton sources source ih =>
    obtain ⟨h_consistent, h_options, h_last⟩ := ih
    have h_sets := sets_setSource h_consistent source.modulePath source.path source.text
    rw [List.map_append, calls_append]
    refine ⟨h_sets.consistent, h_sets.options.trans h_options, fun modulePath last h_find => ?_⟩
    rw [Source.lastOf?, List.reverse_concat, List.find?_cons] at h_find
    split at h_find
    next h_module =>
      cases h_find
      rw [← beq_iff_eq.mp h_module]
      exact h_sets.stored
    next h_module =>
      obtain ⟨stored, h_stored, h_text⟩ := h_last modulePath last h_find
      have h_other : modulePath ≠ source.modulePath := Ne.symm (by simpa using h_module)
      exact ⟨stored, (h_sets.kept modulePath h_other).trans h_stored, h_text⟩

theorem fst_generate (h_sound : session.store.Sound) :
    session.generate.1 = session.store.compilation.generate := by
  obtain ⟨h_answer, -⟩ := Store.answers_askGenerated session.store h_sound
  refine h_answer.trans (congrArg Compilation.generate ?_)
  simp only [Inputs.compilation, Store.inputs, Store.compilation, List.getElem?_map]
  rfl

end Session
end FieldDelta
