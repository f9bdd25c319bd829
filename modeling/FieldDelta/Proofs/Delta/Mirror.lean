import FieldDelta.Proofs.Delta.Views

/-! # Deltas with their sides exchanged

Nothing in a comparison depends on which side is the previous one, so the views of the delta with
its sides exchanged are the same listings with the values of every entry exchanged:
`ModelDelta.views_mirrored`.

Two facts carry it.  The comparison of values is symmetric (`Value.same_comm`), also where it is not
reflexive, and both sides are looked at through the same property and wrapper, so that exchanging
the sides commutes with going to a nested delta.
-/

namespace FieldDelta

variable {M : Type}

/-! ## The comparison of values is symmetric -/

theorem Binary64.same_comm (x y : Binary64) : x.same y = y.same x := by
  cases x <;> cases y <;> simp [Binary64.same, Bool.and_comm, Bool.beq_comm]

section Comparison

variable [DecidableEq M]

mutual

theorem Value.same_comm (v w : Value M) : v.same w = w.same v := by
  cases v with
  | float x =>
    cases w with
    | float y => simp [Value.same, Binary64.same_comm x y]
    | _ => simp [Value.same]
  | present v =>
    cases w with
    | present w => simp [Value.same, Value.same_comm v w]
    | _ => simp [Value.same]
  | list vs =>
    cases w with
    | list ws => simp [Value.same, Value.sameAll_comm vs ws]
    | _ => simp [Value.same]
  | boxed v =>
    cases w with
    | boxed w => simp [Value.same, Value.same_comm v w]
    | _ => simp [Value.same]
  | cell v =>
    cases w with
    | cell w => simp [Value.same, Value.same_comm v w]
    | _ => simp [Value.same]
  | pair a b =>
    cases w with
    | pair c d => simp [Value.same, Value.same_comm a c, Value.same_comm b d]
    | _ => simp [Value.same]
  | record key vs =>
    cases w with
    | record other ws => simp [Value.same, Value.sameAll_comm vs ws, eq_comm]
    | _ => simp [Value.same]
  | _ => cases w <;> simp [Value.same, BEq.comm]

theorem Value.sameAll_comm (vs ws : List (Value M)) : Value.sameAll vs ws = Value.sameAll ws vs := by
  cases vs with
  | nil => cases ws <;> simp [Value.sameAll]
  | cons v vs =>
    cases ws with
    | nil => simp [Value.sameAll]
    | cons w ws => simp [Value.sameAll, Value.same_comm v w, Value.sameAll_comm vs ws]

end

end Comparison

/-! ## Exchanged sides -/

def PropertyDelta.mirror (delta : PropertyDelta M) : PropertyDelta M :=
  { delta with previous := delta.current, current := delta.previous }

/-- The change in the opposite direction. -/
def PropertyChange.mirror (change : PropertyChange M) : PropertyChange M :=
  { change with previous := change.current, current := change.previous }

/-- The entry of the opposite change. -/
def DeltaInfo.mirror (info : DeltaInfo M) : DeltaInfo M :=
  { info with previous := info.current, current := info.previous }

namespace ModelDelta

/-- The comparison of the same two values with the other one as the previous side. -/
def mirror (delta : ModelDelta M) : ModelDelta M :=
  { delta with previous := delta.current, current := delta.previous }

theorem isAbsent_mirror (delta : ModelDelta M) : delta.mirror.isAbsent = delta.isAbsent :=
  Bool.and_comm _ _

theorem nestedDelta_mirror (delta : ModelDelta M) (property : ModelProperty M) (wrapper : Wrapper)
    (model : M) :
    delta.mirror.nestedDelta property wrapper model =
      (delta.nestedDelta property wrapper model).mirror :=
  rfl

variable [Catalogue M] [DecidableEq M]

/-- The views of two deltas are listings of the same changes in opposite directions. -/
structure Mirrors (delta other : ModelDelta M) : Prop where
  any_eq : other.hasAnyDeltas = delta.hasAnyDeltas
  all_eq : other.allDeltas = delta.allDeltas.map DeltaInfo.mirror
  deltas_eq : other.deltas = delta.deltas.map PropertyChange.mirror
  root_eq : other.rootDeltas = delta.rootDeltas.map DeltaInfo.mirror

/-! ## What one property contributes -/

section Properties

variable (delta : ModelDelta M) (property : ModelProperty M)

theorem propertyDelta_mirror :
    delta.mirror.propertyDelta property = (delta.propertyDelta property).mirror := by
  have h_same := Value.same_comm (sideValue property delta.previous)
    (sideValue property delta.current)
  simp [propertyDelta, PropertyDelta.between, PropertyDelta.mirror, mirror, h_same]

theorem changedInfo_mirror :
    delta.mirror.changedInfo property = (delta.changedInfo property).map DeltaInfo.mirror := by
  rw [changedInfo, changedInfo, propertyDelta_mirror]
  show (if (delta.propertyDelta property).hasChanged then _ else _) = _
  split <;> rfl

end Properties

/-! ## The views -/

theorem allDeltas_mirror (delta : ModelDelta M) :
    delta.mirror.allDeltas = delta.allDeltas.map DeltaInfo.mirror := by
  induction delta using nestedInduction with
  | absent delta h_absent =>
    rw [allDeltas_of_absent h_absent, allDeltas_of_absent (delta.isAbsent_mirror.trans h_absent)]
    rfl
  | present delta h_present ih =>
    have h_mirrored : ¬ delta.mirror.isAbsent = true := by rwa [isAbsent_mirror]
    rw [allDeltas_of_present h_present, allDeltas_of_present h_mirrored, List.map_flatMap]
    refine List.flatMap_congr fun property _ => ?_
    cases h_nested : property.nested with
    | none => rw [leafInfos_plain _ h_nested, leafInfos_plain _ h_nested, changedInfo_mirror]
    | some link =>
      obtain ⟨wrapper, model⟩ := link
      -- Putting the name of the property in front of a path leaves the values alone.
      rw [leafInfos_nested _ h_nested, leafInfos_nested _ h_nested, nestedDelta_mirror, ih,
        List.map_map, List.map_map]
      rfl

theorem deltas_mirror (delta : ModelDelta M) :
    delta.mirror.deltas = delta.deltas.map PropertyChange.mirror := by
  rw [deltas_eq_map, deltas_eq_map, allDeltas_mirror, List.map_map, List.map_map]
  rfl

theorem hasAnyDeltas_mirror (delta : ModelDelta M) :
    delta.mirror.hasAnyDeltas = delta.hasAnyDeltas := by
  rw [Bool.eq_iff_iff, hasAnyDeltas_iff, hasAnyDeltas_iff, allDeltas_mirror, Ne, List.map_eq_nil_iff]

theorem rootDeltas_mirror (delta : ModelDelta M) :
    delta.mirror.rootDeltas = delta.rootDeltas.map DeltaInfo.mirror := by
  by_cases h_absent : delta.isAbsent = true
  · rw [rootDeltas_of_absent h_absent, rootDeltas_of_absent (delta.isAbsent_mirror.trans h_absent)]
    rfl
  · have h_mirrored : ¬ delta.mirror.isAbsent = true := by rwa [isAbsent_mirror]
    rw [rootDeltas_of_present h_absent, rootDeltas_of_present h_mirrored, List.map_flatMap]
    refine List.flatMap_congr fun property _ => ?_
    cases h_nested : property.nested with
    | none => rw [rootInfos_plain _ h_nested, rootInfos_plain _ h_nested, changedInfo_mirror]
    | some link =>
      obtain ⟨wrapper, model⟩ := link
      rw [rootInfos_nested _ h_nested, rootInfos_nested _ h_nested, nestedDelta_mirror,
        hasAnyDeltas_mirror]
      split <;> rfl

theorem mirrors_mirror (delta : ModelDelta M) : Mirrors delta delta.mirror where
  any_eq := hasAnyDeltas_mirror delta
  all_eq := allDeltas_mirror delta
  deltas_eq := deltas_mirror delta
  root_eq := rootDeltas_mirror delta

/-- Exchanging the two sides of a delta of a sample model, of which either may be missing, exchanges
    the values in every entry of its views and changes nothing else.  So a value compared from
    another lists the mirror of what it lists when it is compared to it. -/
theorem views_mirrored (model : SampleModel) :
    (∀ previous current : Option (Value SampleModel),
      Mirrors (⟨model, previous, current⟩ : ModelDelta SampleModel) ⟨model, current, previous⟩) ∧
    ∀ value other : Value SampleModel,
      Mirrors (value.deltaTo model other) (value.deltaFrom model other) :=
  ⟨fun previous current => mirrors_mirror ⟨model, previous, current⟩,
    fun value other => mirrors_mirror (value.deltaTo model other)⟩

example : (mirror ⟨.node, SampleModel.chain [1], SampleModel.chain [1, 2]⟩).allDeltas.map
    (·.print) = ["next.value (i32): 2 -> 0"] := by
  decide +kernel

end ModelDelta
end FieldDelta
