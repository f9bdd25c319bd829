import FieldDelta.Proofs.Query.Soundness

/-! # Asking keeps the store sound

A query that is asked of a sound store answers what the inputs give, and leaves a sound store with
the same inputs (`Answers`).  The queries are built on one another, and so are the proofs:

* units of which nothing current is remembered are collected, after which they are fresh;
* with all listed units fresh, a valid memo has the value that the inputs give now;
* a value computed from there is sound to remember.
-/

namespace FieldDelta.Query

namespace Store

/-! ## Fresh units -/

/-- With all listed units fresh, what is remembered of them is what they hold. -/
theorem remembered_eq_collected {store : Store} (h_sound : store.Sound)
    (h_fresh : store.ListedFresh) : store.remembered = store.inputs.compilation.collected := by
  unfold remembered Compilation.collected Inputs.compilation inputs
  rw [List.map_filterMap]
  refine List.filterMap_congr fun unit h_unit => ?_
  rw [List.getElem?_map]
  cases h_entry : store.units[unit]? with
  | none => rfl
  | some entry =>
    obtain ⟨value, h_value⟩ := Option.ne_none_iff_exists'.mp (h_fresh unit h_unit entry h_entry)
    obtain ⟨h_collected, h_remembered⟩ :=
      UnitEntry.fresh?_eq_some (h_sound.units unit entry h_entry) h_value
    simp [h_remembered, h_collected]

/-- A value of the present inputs is sound to remember, once all listed units are fresh. -/
theorem Sound.memo {α : Type} {compute : List Collected → Options → α} {store : Store} {value : α}
    (h_sound : store.Sound) (h_fresh : store.ListedFresh)
    (h_value : value =
      compute store.inputs.compilation.collected store.inputs.compilation.options) :
    Memo.Sound store compute ⟨value, store.revision⟩ where
  ranAt_le := Nat.le_refl _
  setSince _ unit h_unit entry h_entry h_none := absurd h_none (h_fresh unit h_unit entry h_entry)
  value_eq _ := by rw [h_value, remembered_eq_collected h_sound h_fresh]; rfl

/-- A memo that is still valid has the value of the present inputs. -/
theorem valid?_eq_some {α : Type} {compute : List Collected → Options → α} {store : Store}
    {memo? : Option (Memo α)} {value : α} (h_sound : store.Sound) (h_fresh : store.ListedFresh)
    (h_memo : ∀ memo, memo? = some memo → memo.Sound store compute)
    (h_valid : store.valid? memo? = some value) :
    value = compute store.inputs.compilation.collected store.inputs.compilation.options := by
  unfold valid? at h_valid
  cases memo? with
  | none => cases h_valid
  | some memo =>
    simp only at h_valid
    split at h_valid
    next => cases h_valid
    next h_inputs =>
      cases h_valid
      rw [(h_memo memo rfl).value_eq (Bool.eq_false_iff.mpr h_inputs),
        remembered_eq_collected h_sound h_fresh]
      rfl

/-! ## Remembering -/

/-- Storing an answer leaves all that memos depend on. -/
theorem follows_of_units_eq {before after : Store} (h_sound : before.Sound)
    (h_revision : after.revision = before.revision) (h_units : after.units = before.units)
    (h_listed : after.listed = before.listed ∧ after.listedAt = before.listedAt)
    (h_options : after.options = before.options ∧ after.optionsAt = before.optionsAt) :
    before.Follows after where
  revision_le := Nat.le_of_eq h_revision.symm
  listed := h_listed.1
  listedAt := h_listed.2
  options := h_options.1
  optionsAt := h_options.2
  units since _ unit h_unit := by
    have h_lt := h_sound.listed_lt unit h_unit
    exact ⟨before.units[unit], before.units[unit], by simp [h_lt], by simp [h_units, h_lt],
      .refl _ _⟩

theorem Sound.rememberOutcome {store : Store} (h_sound : store.Sound) (candidate : Candidate) :
    (store.rememberOutcome candidate (describe candidate)).Sound := by
  have h_follows : store.Follows (store.rememberOutcome candidate (describe candidate)) :=
    follows_of_units_eq h_sound rfl rfl ⟨rfl, rfl⟩ ⟨rfl, rfl⟩
  refine { h_sound with
    outcomes := fun pair h_pair => ?_
    graph := fun memo h_memo => (h_sound.graph memo h_memo).follows h_follows
    generated := fun memo h_memo => (h_sound.generated memo h_memo).follows h_follows }
  rcases List.mem_cons.mp h_pair with rfl | h_old
  · rfl
  · exact h_sound.outcomes pair h_old

theorem Sound.rememberEmitted {store : Store} (h_sound : store.Sound) (options : Options)
    (node : Descriptor) :
    (store.rememberEmitted options node (DeltaUnit.emit node options)).Sound := by
  have h_follows : store.Follows
      (store.rememberEmitted options node (DeltaUnit.emit node options)) :=
    follows_of_units_eq h_sound rfl rfl ⟨rfl, rfl⟩ ⟨rfl, rfl⟩
  refine { h_sound with
    emitted := fun pair h_pair => ?_
    graph := fun memo h_memo => (h_sound.graph memo h_memo).follows h_follows
    generated := fun memo h_memo => (h_sound.generated memo h_memo).follows h_follows }
  rcases List.mem_cons.mp h_pair with rfl | h_old
  · rfl
  · exact h_sound.emitted pair h_old

theorem Sound.rememberSupport {store : Store} (h_sound : store.Sound) :
    (store.rememberSupport store.options.supportUnit?).Sound := by
  have h_follows : store.Follows (store.rememberSupport store.options.supportUnit?) :=
    follows_of_units_eq h_sound rfl rfl ⟨rfl, rfl⟩ ⟨rfl, rfl⟩
  refine { h_sound with
    support_ranAt_le := fun memo h_memo => ?_
    support := fun memo h_memo _ => ?_
    graph := fun memo h_memo => (h_sound.graph memo h_memo).follows h_follows
    generated := fun memo h_memo => (h_sound.generated memo h_memo).follows h_follows }
  · cases h_memo
    exact Nat.le_refl _
  · cases h_memo
    rfl

theorem Sound.rememberGraph {store : Store} (h_sound : store.Sound)
    (h_fresh : store.ListedFresh) {value : Graph}
    (h_value : value = store.inputs.compilation.graph) :
    (store.rememberGraph value).Sound := by
  have h_follows : store.Follows (store.rememberGraph value) :=
    follows_of_units_eq h_sound rfl rfl ⟨rfl, rfl⟩ ⟨rfl, rfl⟩
  refine { h_sound with
    graph := fun memo h_memo => ?_
    generated := fun memo h_memo => (h_sound.generated memo h_memo).follows h_follows }
  cases h_memo
  exact (h_sound.memo h_fresh h_value).follows h_follows

theorem Sound.rememberGenerated {store : Store} (h_sound : store.Sound)
    (h_fresh : store.ListedFresh) {value : Generation}
    (h_value : value = store.inputs.compilation.generate) :
    (store.rememberGenerated value).Sound := by
  have h_follows : store.Follows (store.rememberGenerated value) :=
    follows_of_units_eq h_sound rfl rfl ⟨rfl, rfl⟩ ⟨rfl, rfl⟩
  refine { h_sound with
    graph := fun memo h_memo => (h_sound.graph memo h_memo).follows h_follows
    generated := fun memo h_memo => ?_ }
  cases h_memo
  exact (h_sound.memo h_fresh h_value).follows h_follows

/-! ## Collecting anew -/

theorem follows_recollect {store : Store} (h_sound : store.Sound) {unit : Nat} {entry : UnitEntry}
    (h_entry : store.units[unit]? = some entry) (h_stale : entry.fresh? = none) :
    store.Follows (store.recollect unit entry) where
  revision_le := Nat.le_refl _
  listed := rfl
  listedAt := rfl
  options := rfl
  optionsAt := rfl
  units since _ other h_other := by
    have h_lt := h_sound.listed_lt other h_other
    have h_old : store.units[other]? = some store.units[other] := List.getElem?_eq_getElem h_lt
    by_cases h_unit : unit = other
    · subst h_unit
      refine ⟨entry, entry.recollected store.revision, h_entry, ?_, ?_⟩
      · simp [recollect, execute, h_lt]
      · exact .recollected (h_sound.units unit entry h_entry).setAt_le h_stale
    · refine ⟨_, _, h_old, ?_, .refl _ _⟩
      simp [recollect, execute, h_unit, h_old]

theorem Sound.recollect {store : Store} (h_sound : store.Sound) {unit : Nat} {entry : UnitEntry}
    (h_entry : store.units[unit]? = some entry) (h_stale : entry.fresh? = none) :
    (store.recollect unit entry).Sound := by
  have h_follows := follows_recollect h_sound h_entry h_stale
  refine { h_sound with
    listed_lt := fun other h_other => ?_
    units := fun other new h_new => ?_
    graph := fun memo h_memo => (h_sound.graph memo h_memo).follows h_follows
    generated := fun memo h_memo => (h_sound.generated memo h_memo).follows h_follows }
  · simpa [Store.recollect, execute] using h_sound.listed_lt other h_other
  · simp only [Store.recollect, execute, List.getElem?_set] at h_new
    split at h_new
    next =>
      split at h_new
      next => exact Option.some.inj h_new ▸ (h_sound.units unit entry h_entry).recollected
      next => cases h_new
    next => exact h_sound.units other new h_new

theorem inputs_recollect {store : Store} {unit : Nat} {entry : UnitEntry}
    (h_entry : store.units[unit]? = some entry) :
    (store.recollect unit entry).inputs = store.inputs := by
  obtain ⟨h_lt, h_get⟩ := List.getElem?_eq_some_iff.mp h_entry
  have h_lt : unit < (store.units.map (·.source)).length := by simpa using h_lt
  have h_sources : (store.units.set unit (entry.recollected store.revision)).map (·.source) =
      store.units.map (·.source) := by
    calc (store.units.set unit (entry.recollected store.revision)).map (·.source)
        = (store.units.map (·.source)).set unit entry.source := List.map_set
      _ = (store.units.map (·.source)).set unit (store.units.map (·.source))[unit] := by
        rw [List.getElem_map, h_get]
      _ = store.units.map (·.source) := List.set_getElem_self h_lt
  simp only [recollect, execute, inputs, h_sources]

theorem fresh_recollect {store : Store} (h_sound : store.Sound) {unit : Nat} {entry : UnitEntry}
    (h_entry : store.units[unit]? = some entry) {other : Nat}
    (h_other : unit = other ∨ store.Fresh other) : (store.recollect unit entry).Fresh other := by
  intro new h_new
  simp only [recollect, execute, List.getElem?_set] at h_new
  split at h_new
  next =>
    split at h_new
    next =>
      obtain rfl := Option.some.inj h_new
      rw [UnitEntry.fresh?_recollected (h_sound.units unit entry h_entry).setAt_le]
      simp
    next => cases h_new
  next h_unit => exact (h_other.resolve_left h_unit) new h_new

/-! ## Queries -/

/-- The store `after` remembers soundly, about the inputs of `before`, and no unit has gone
    stale. -/
structure Remembers (before after : Store) : Prop where
  sound : after.Sound
  inputs : after.inputs = before.inputs
  fresh : ∀ unit, before.Fresh unit → after.Fresh unit

theorem Remembers.refl {store : Store} (h_sound : store.Sound) : store.Remembers store :=
  ⟨h_sound, rfl, fun _ h_fresh => h_fresh⟩

theorem Remembers.trans {first second third : Store} (h_first : first.Remembers second)
    (h_second : second.Remembers third) : first.Remembers third where
  sound := h_second.sound
  inputs := h_second.inputs.trans h_first.inputs
  fresh unit h_fresh := h_second.fresh unit (h_first.fresh unit h_fresh)

theorem Remembers.options {before after : Store} (h_remembers : before.Remembers after) :
    after.options = before.options :=
  congrArg Inputs.options h_remembers.inputs

theorem Remembers.listedFresh {before after : Store} (h_remembers : before.Remembers after)
    (h_fresh : before.ListedFresh) : after.ListedFresh := by
  intro unit h_unit
  have h_listed : after.listed = before.listed := congrArg Inputs.listed h_remembers.inputs
  exact h_remembers.fresh unit (h_fresh unit (h_listed ▸ h_unit))

end Store

/-- Asked of a sound store, `ask` answers the value of its inputs and remembers soundly. -/
def Answers {β : Type} (ask : Store → β × Store) (value : Inputs → β) : Prop :=
  ∀ store, store.Sound → (ask store).1 = value store.inputs ∧ store.Remembers (ask store).2

namespace Store

theorem answers_askAll {α β : Type} {ask : α → Store → β × Store} {value : α → Inputs → β}
    (h_ask : ∀ item, Answers (ask item) (value item)) (items : List α) :
    Answers (askAll ask items) (fun inputs => items.map (value · inputs)) := by
  induction items with
  | nil => exact fun store h_sound => ⟨rfl, .refl h_sound⟩
  | cons first rest ih =>
    intro store h_sound
    obtain ⟨h_first, h_remembers⟩ := h_ask first store h_sound
    obtain ⟨h_rest, h_rest_remembers⟩ := ih _ h_remembers.sound
    refine ⟨?_, h_remembers.trans h_rest_remembers⟩
    simp only [askAll, List.map_cons, h_first, h_rest, h_remembers.inputs]

theorem answers_askOutcome (candidate : Candidate) :
    Answers (askOutcome candidate) (fun _ => describe candidate) := by
  intro store h_sound
  unfold askOutcome
  split
  next key outcome h_find =>
    have h_key : key = candidate := by simpa using List.find?_some h_find
    subst h_key
    exact ⟨h_sound.outcomes _ (List.mem_of_find?_eq_some h_find), .refl h_sound⟩
  next => exact ⟨rfl, h_sound.rememberOutcome candidate, rfl, fun _ h_fresh => h_fresh⟩

theorem answers_askEmitted (options : Options) (node : Descriptor) :
    Answers (askEmitted options node) (fun _ => DeltaUnit.emit node options) := by
  intro store h_sound
  unfold askEmitted
  split
  next key unit h_find =>
    have h_key : key = (node, options) := by simpa using List.find?_some h_find
    subst h_key
    exact ⟨h_sound.emitted _ (List.mem_of_find?_eq_some h_find), .refl h_sound⟩
  next => exact ⟨rfl, h_sound.rememberEmitted options node, rfl, fun _ h_fresh => h_fresh⟩

theorem answers_askSupport : Answers askSupport (fun inputs => inputs.options.supportUnit?) := by
  intro store h_sound
  have h_compute : store.Remembers store.computeSupport.2 :=
    ⟨h_sound.rememberSupport, rfl, fun _ h_fresh => h_fresh⟩
  unfold askSupport
  split
  next memo h_memo =>
    split
    next => exact ⟨rfl, h_compute⟩
    next h_optionsAt =>
      exact ⟨h_sound.support memo h_memo (Nat.le_of_not_lt h_optionsAt), .refl h_sound⟩
  next => exact ⟨rfl, h_compute⟩

/-! ## Collecting -/

theorem collected_inputs (store : Store) (unit : Nat) :
    store.inputs.collected unit = (store.units[unit]?.map (·.source.collected)).getD {} := by
  unfold Inputs.collected inputs
  rw [List.getElem?_map, Option.map_map]
  rfl

theorem answers_askCollected (unit : Nat) :
    Answers (askCollected unit) (fun inputs => inputs.collected unit) := by
  intro store h_sound
  simp only [collected_inputs]
  unfold askCollected
  split
  next h_entry => exact ⟨by simp [h_entry], .refl h_sound⟩
  next entry h_entry =>
    split
    -- A fresh memo holds what the source holds; a stale one is computed anew.
    next value h_fresh =>
      have h_value := UnitEntry.fresh?_eq_some (h_sound.units unit entry h_entry) h_fresh
      exact ⟨by simp [h_entry, h_value.1], .refl h_sound⟩
    next h_stale =>
      exact ⟨by simp [h_entry], h_sound.recollect h_entry h_stale, inputs_recollect h_entry,
        fun other h_fresh => fresh_recollect h_sound h_entry (.inr h_fresh)⟩

theorem fresh_askCollected {store : Store} (h_sound : store.Sound) (unit : Nat) :
    (store.askCollected unit).2.Fresh unit := by
  unfold askCollected
  split
  next h_entry => exact fun entry h_some => absurd h_some (by simp [h_entry])
  next entry h_entry =>
    split
    next value h_fresh =>
      intro other h_other
      obtain rfl : entry = other := Option.some.inj (h_entry.symm.trans h_other)
      simp [h_fresh]
    next => exact fresh_recollect h_sound h_entry (.inl rfl)

/-- Units that are asked for one after the other are all fresh in the end. -/
theorem fresh_askAll {store : Store} (h_sound : store.Sound) (units : List Nat) :
    ∀ unit ∈ units, (askAll askCollected units store).2.Fresh unit := by
  induction units generalizing store with
  | nil => simp
  | cons first rest ih =>
    have h_first := (answers_askCollected first store h_sound).2
    intro unit h_unit
    rcases List.mem_cons.mp h_unit with rfl | h_rest
    · -- Asking for the rest does not make the first one stale again.
      exact (answers_askAll answers_askCollected rest _ h_first.sound).2.fresh unit
        (fresh_askCollected h_sound unit)
    · exact ih h_first.sound unit h_rest

/-- The listed units were all added, so each of them has a source. -/
theorem collected_listed {store : Store} (h_sound : store.Sound) :
    store.listed.map store.inputs.collected = store.inputs.compilation.collected := by
  unfold Compilation.collected Inputs.compilation
  rw [List.map_filterMap, ← List.filterMap_eq_map]
  refine List.filterMap_congr fun unit h_unit => ?_
  have h_lt := h_sound.listed_lt unit h_unit
  simp [Inputs.collected, inputs, h_lt]

theorem askListed_spec {store : Store} (h_sound : store.Sound) :
    store.askListed.1 = store.inputs.compilation.collected ∧
      store.Remembers store.askListed.2 ∧ store.askListed.2.ListedFresh := by
  obtain ⟨h_found, h_remembers⟩ := answers_askAll answers_askCollected store.listed store h_sound
  refine ⟨h_found.trans (collected_listed h_sound), h_remembers, fun unit h_unit => ?_⟩
  have h_listed : store.askListed.2.listed = store.listed :=
    congrArg Inputs.listed h_remembers.inputs
  exact fresh_askAll h_sound store.listed unit (h_listed ▸ h_unit)

/-! ## The graph and the generation -/

/-- A query that reads the listed units answers what `value` makes of them, if its memo is sound,
    and if computing it anew and remembering it is. -/
theorem answers_askListing {α : Type} {memo? : Store → Option (Memo α)}
    {compute : List Collected → Store → α × Store} {remember : α → Store → Store}
    {value : List Collected → Options → α}
    (h_memo : ∀ store, store.Sound → ∀ memo, memo? store = some memo → memo.Sound store value)
    (h_compute : Answers (fun store => compute store.inputs.compilation.collected store)
      (fun inputs => value inputs.compilation.collected inputs.compilation.options))
    (h_remember : ∀ store : Store, store.Sound → store.ListedFresh →
      store.Remembers (remember
        (value store.inputs.compilation.collected store.inputs.compilation.options) store)) :
    Answers (askListing memo? compute remember)
      (fun inputs => value inputs.compilation.collected inputs.compilation.options) := by
  intro store h_sound
  obtain ⟨h_found, h_listed, h_fresh⟩ := askListed_spec h_sound
  unfold askListing
  generalize store.askListed = asked at h_found h_listed h_fresh ⊢
  obtain ⟨found, listed⟩ := asked
  simp only at h_found h_listed h_fresh ⊢
  split
  -- Either the memo is still valid, or the value is computed and remembered.
  next answer h_valid =>
    have h_answer := valid?_eq_some h_listed.sound h_fresh (h_memo listed h_listed.sound) h_valid
    exact ⟨by rw [h_answer, h_listed.inputs], h_listed⟩
  next =>
    obtain ⟨h_answer, h_computed⟩ := h_compute listed h_listed.sound
    simp only [h_listed.inputs, ← h_found] at h_answer h_computed
    have h_all := h_listed.trans h_computed
    have h_kept := h_remember _ h_all.sound (h_computed.listedFresh h_fresh)
    rw [h_all.inputs, ← h_found, ← h_answer] at h_kept
    exact ⟨by rw [h_answer, h_found], h_all.trans h_kept⟩

theorem answers_computeGraph :
    Answers (fun store => computeGraph store.inputs.compilation.collected store)
      (fun inputs => graphOf inputs.compilation.collected inputs.compilation.options) := by
  intro store h_sound
  obtain ⟨h_outcomes, h_remembers⟩ := answers_askAll answers_askOutcome
    (store.inputs.compilation.collected.flatMap (·.candidates)) store h_sound
  refine ⟨?_, h_remembers⟩
  simp only [computeGraph]
  rw [h_outcomes, h_remembers.options]
  rfl

theorem answers_askGraph : Answers askGraph (fun inputs => inputs.compilation.graph) :=
  answers_askListing (fun _ h_sound => h_sound.graph) answers_computeGraph
    fun _ h_sound h_fresh => ⟨h_sound.rememberGraph h_fresh rfl, rfl, fun _ h_unit => h_unit⟩

theorem answers_askOutcomes (found : List Collected) :
    Answers (askOutcomes found)
      (fun _ => found.map fun c => (c, c.candidates.map describe)) := by
  refine answers_askAll (fun collected store h_sound => ?_) found
  obtain ⟨h_outcomes, h_remembers⟩ := answers_askAll answers_askOutcome collected.candidates
    store h_sound
  exact ⟨by simp only [h_outcomes], h_remembers⟩

theorem answers_computeGenerated :
    Answers (fun store => computeGenerated store.inputs.compilation.collected store)
      (fun inputs => generationOf inputs.compilation.collected inputs.compilation.options) := by
  intro store h_sound
  generalize h_found : store.inputs.compilation.collected = found
  simp only [computeGenerated, h_found]
  -- The stages run one after the other, each on the store that the last one has left.
  obtain ⟨h_described, h_first⟩ := answers_askOutcomes found store h_sound
  generalize askOutcomes found store = first at h_described h_first ⊢
  obtain ⟨h_graph, h_second⟩ := answers_askGraph first.2 h_first.sound
  generalize askGraph first.2 = second at h_graph h_second ⊢
  obtain ⟨h_support, h_third⟩ := answers_askSupport second.2 h_second.sound
  generalize askSupport second.2 = third at h_support h_third ⊢
  obtain ⟨h_units, h_fourth⟩ := answers_askAll (answers_askEmitted third.2.options)
    second.1.nodes third.2 h_third.sound
  refine ⟨?_, h_first.trans (h_second.trans (h_third.trans h_fourth))⟩
  rw [h_fourth.options, h_units, h_third.options, h_second.options, h_first.options, h_described,
    h_support, h_graph, h_second.inputs, h_first.inputs, ← h_found]
  rfl

theorem answers_askGenerated : Answers askGenerated (fun inputs => inputs.compilation.generate) :=
  answers_askListing (fun _ h_sound => h_sound.generated) answers_computeGenerated
    fun _ h_sound h_fresh => ⟨h_sound.rememberGenerated h_fresh rfl, rfl, fun _ h_unit => h_unit⟩

/-- Every query answers what is computed from scratch. -/
theorem answers_ask (query : Query) :
    Answers (ask query) (fun inputs => inputs.answer query) := by
  intro store h_sound
  cases query with
  | collected unit =>
    have h_asked := answers_askCollected unit store h_sound
    exact ⟨congrArg Answer.collected h_asked.1, h_asked.2⟩
  | descriptor candidate =>
    have h_asked := answers_askOutcome candidate store h_sound
    exact ⟨congrArg Answer.outcome h_asked.1, h_asked.2⟩
  | graph =>
    have h_asked := answers_askGraph store h_sound
    exact ⟨congrArg Answer.graph h_asked.1, h_asked.2⟩
  | support =>
    have h_asked := answers_askSupport store h_sound
    exact ⟨congrArg Answer.support h_asked.1, h_asked.2⟩
  | emitted node options =>
    have h_asked := answers_askEmitted options node store h_sound
    exact ⟨congrArg Answer.emitted h_asked.1, h_asked.2⟩
  | generated =>
    have h_asked := answers_askGenerated store h_sound
    exact ⟨congrArg Answer.generated h_asked.1, h_asked.2⟩

end Store
end FieldDelta.Query
