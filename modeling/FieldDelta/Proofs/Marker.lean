import FieldDelta.Marker

/-! # What the arguments of a marker come to

The settings of a marker may be given several times, in one attribute or in several.  Every value is
accepted or rejected by itself, and a rejected one is reported and changes nothing.  So the last
accepted value counts, and the default where none is accepted.

* `Setting`, `readings` — the settings, and the values that are read for them;
* `Reading.rejection?` — the issue of a value that is not accepted;
* `LastCounts` — the last value read decides: it is taken, or it falls back to the default;
* `readConfig_settles` — what the configuration is, and when the last value decides.

The message of a rejection names the default (`exists_message_rejection`), but a rejected value does
not restore it where another one was accepted before (`not_lastCounts_restoringMarker`).
-/

namespace FieldDelta.Marker

open Syntax

/-! ## Settings -/

/-- What the arguments of a marker set. -/
inductive Setting where
  | suffix
  | deepTracking
  | convenienceFunctions
deriving DecidableEq, Repr

namespace Setting

/-- The key of the setting among the arguments. -/
def key : Setting → String
  | suffix => "suffix"
  | deepTracking => "deep_tracking"
  | convenienceFunctions => "convenience_functions"

def ofKey? : Option String → Option Setting
  | some "suffix" => some suffix
  | some "deep_tracking" => some deepTracking
  | some "convenience_functions" => some convenienceFunctions
  | _ => none

/-- What the setting is set to. -/
abbrev Value : Setting → Type
  | suffix => String
  | deepTracking => Bool
  | convenienceFunctions => Bool

instance : (setting : Setting) → DecidableEq setting.Value
  | suffix => inferInstanceAs (DecidableEq String)
  | deepTracking => inferInstanceAs (DecidableEq Bool)
  | convenienceFunctions => inferInstanceAs (DecidableEq Bool)

def get (config : TrackingConfig) : (setting : Setting) → setting.Value
  | suffix => config.suffix
  | deepTracking => config.deepTracking
  | convenienceFunctions => config.convenienceFunctions

def set (config : TrackingConfig) : (setting : Setting) → setting.Value → TrackingConfig
  | suffix, value => { config with suffix := value }
  | deepTracking, value => { config with deepTracking := value }
  | convenienceFunctions, value => { config with convenienceFunctions := value }

@[simp] theorem get_set (config : TrackingConfig) (setting : Setting) (value : setting.Value) :
    setting.get (setting.set config value) = value := by
  cases setting <;> rfl

theorem get_set_of_ne (config : TrackingConfig) {setting other : Setting} (value : other.Value)
    (h_ne : other ≠ setting) : setting.get (other.set config value) = setting.get config := by
  cases setting <;> cases other <;> first | rfl | exact absurd rfl h_ne

def default (setting : Setting) : setting.Value :=
  setting.get {}

/-- A value of the setting as messages write it. -/
def text : (setting : Setting) → setting.Value → String
  | suffix, value => value
  | deepTracking, value => toString value
  | convenienceFunctions, value => toString value

/-- The suffix that a value stands for. -/
def suffixOf? : Option Literal → Option String
  | some (.string text) => if text ≠ "" ∧ isIdentifierFragment text = true then some text else none
  | _ => none

/-- The issue of a value that stands for no suffix. -/
def suffixIssue : Option Literal → Issue
  | some (.string text) => if text = "" then .emptySuffix else .invalidSuffix text
  | _ => .suffixValue

/-- What a value means for the setting, if it is accepted.  A flag may stand without a value. -/
def accepted? : (setting : Setting) → Option Literal → Option setting.Value
  | suffix, value => suffixOf? value
  | deepTracking, value => flagOf? value
  | convenienceFunctions, value => flagOf? value

/-- The issue of a value that is not accepted. -/
def rejection : Setting → Option Literal → Issue
  | suffix, value => suffixIssue value
  | deepTracking, _ => .flagValue "deep_tracking"
  | convenienceFunctions, _ => .flagValue "convenience_functions"

theorem isHard_suffixIssue (value : Option Literal) : (suffixIssue value).isHard = false := by
  unfold suffixIssue
  split
  · split <;> rfl
  · rfl

theorem isHard_rejection (setting : Setting) (value : Option Literal) :
    (setting.rejection value).isHard = false := by
  cases setting with
  | suffix => exact isHard_suffixIssue value
  | deepTracking => rfl
  | convenienceFunctions => rfl

theorem message_invalidSuffix (text : String) :
    (Issue.invalidSuffix text).message =
      "suffix `" ++ text ++ "` is not an identifier fragment" ++ "; using `Delta`" := by
  have h_tail : "` is not an identifier fragment; using `Delta`" =
      "` is not an identifier fragment" ++ "; using `Delta`" := by decide
  calc (Issue.invalidSuffix text).message
      = "suffix `" ++ text ++ ("` is not an identifier fragment" ++ "; using `Delta`") :=
        congrArg (("suffix `" ++ text) ++ ·) h_tail
    _ = _ := String.append_assoc.symm

theorem exists_message_suffixIssue (value : Option Literal) :
    ∃ fault, (suffixIssue value).message = fault ++ "; using `Delta`" := by
  unfold suffixIssue
  split
  next text =>
    by_cases h_empty : text = ""
    · exact ⟨"empty suffix", by rw [if_pos h_empty]; rfl⟩
    · exact ⟨_, by rw [if_neg h_empty]; exact message_invalidSuffix text⟩
  · exact ⟨"`suffix` expects a string literal", rfl⟩

/-- The message of a rejection says that the default is used. -/
theorem exists_message_rejection (setting : Setting) (value : Option Literal) :
    ∃ fault, (setting.rejection value).message =
      fault ++ ("; using `" ++ setting.text setting.default ++ "`") := by
  cases setting with
  | suffix => exact exists_message_suffixIssue value
  | deepTracking => exact ⟨"`deep_tracking` expects `true` or `false`", rfl⟩
  | convenienceFunctions => exact ⟨"`convenience_functions` expects `true` or `false`", rfl⟩

end Setting

/-! ## Readings -/

/-- A value that is read for a setting. -/
structure Reading where
  setting : Setting
  value : Option Literal
deriving DecidableEq, Repr

def Argument.reading? (argument : Argument) : Option Reading :=
  (Setting.ofKey? argument.key).map fun setting => ⟨setting, argument.value⟩

/-- The issue of a reading, if its value is not accepted. -/
def Reading.rejection? (reading : Reading) : Option Issue :=
  if (reading.setting.accepted? reading.value).isSome then none
  else some (reading.setting.rejection reading.value)

/-- The arguments of a type, in the order in which they are read. -/
def argumentsOf (attributes : List Attribute) : List Argument :=
  (helpers attributes).flatMap fun attr => (readArguments (fun _ => true) attr.input).1

/-- What is read for the settings of a type, in order. -/
def readings (attributes : List Attribute) : List Reading :=
  (argumentsOf attributes).filterMap Argument.reading?

/-- The values that are read for one setting. -/
def Setting.values (setting : Setting) (readings : List Reading) : List (Option Literal) :=
  (readings.filter (·.setting = setting)).map (·.value)

/-- The values of the setting that are accepted. -/
def Setting.acceptedValues (setting : Setting) (readings : List Reading) : List setting.Value :=
  (setting.values readings).filterMap setting.accepted?

/-- The last value that is read for the setting decides: it is taken if it is accepted, and falls
    back to the default otherwise. -/
def LastCounts (attributes : List Attribute) (setting : Setting) : Prop :=
  setting.get (readConfig attributes).1 =
    match (setting.values (readings attributes)).getLast? with
    | some value => (setting.accepted? value).getD setting.default
    | none => setting.default

instance (attributes : List Attribute) (setting : Setting) :
    Decidable (LastCounts attributes setting) :=
  inferInstanceAs (Decidable (_ = _))

/-! ## One argument -/

theorem applySuffix_eq (config : TrackingConfig) (value : Option Literal) :
    applySuffix config value =
      match Setting.suffixOf? value with
      | some text => ({ config with suffix := text }, none)
      | none => (config, some (Setting.suffixIssue value)) := by
  unfold applySuffix
  split
  next text =>
    by_cases h_empty : text = ""
    · simp [Setting.suffixOf?, Setting.suffixIssue, h_empty]
    · by_cases h_fragment : isIdentifierFragment text = true
      · simp [Setting.suffixOf?, h_empty, h_fragment]
      · simp [Setting.suffixOf?, Setting.suffixIssue, h_empty, h_fragment]
  next h_other =>
    simp only [Setting.suffixOf?, Setting.suffixIssue]

/-- The argument for a setting sets what is accepted, and reports what is not. -/
theorem applyArgument_key (config : TrackingConfig) (setting : Setting) (value : Option Literal) :
    applyArgument config ⟨some setting.key, value⟩ =
      match setting.accepted? value with
      | some accepted => (setting.set config accepted, none)
      | none => (config, some (setting.rejection value)) := by
  cases setting with
  | suffix =>
    have h_suffix := applySuffix_eq config value
    cases h_value : Setting.suffixOf? value <;>
      simpa [applyArgument, Setting.key, Setting.accepted?, Setting.rejection, Setting.set, h_value]
        using h_suffix
  | deepTracking =>
    cases h_value : flagOf? value <;>
      simp [applyArgument, Setting.key, Setting.accepted?, Setting.rejection, Setting.set, h_value]
  | convenienceFunctions =>
    cases h_value : flagOf? value <;>
      simp [applyArgument, Setting.key, Setting.accepted?, Setting.rejection, Setting.set, h_value]

/-- An argument for no setting changes nothing, and is reported as an unknown key. -/
theorem applyArgument_other (config : TrackingConfig) (argument : Argument)
    (h_other : Setting.ofKey? argument.key = none) :
    ∃ key, applyArgument config argument = (config, some (.unknownKey key)) := by
  obtain ⟨key, value⟩ := argument
  refine ⟨key.getD "", ?_⟩
  unfold applyArgument
  split
  next h_key => cases key <;> simp_all [Setting.ofKey?]
  next h_key => cases key <;> simp_all [Setting.ofKey?]
  next h_key => cases key <;> simp_all [Setting.ofKey?]
  · rfl

theorem eq_key_of_ofKey? {key : Option String} {setting : Setting}
    (h_key : Setting.ofKey? key = some setting) : key = some setting.key := by
  unfold Setting.ofKey? at h_key
  split at h_key <;> cases h_key <;> rfl

/-- An accepted value is set, and nothing else is. -/
theorem get_applyArgument (config : TrackingConfig) (argument : Argument) (setting : Setting) :
    setting.get (applyArgument config argument).1 =
      (setting.acceptedValues argument.reading?.toList).getLast?.getD (setting.get config) := by
  obtain ⟨key, value⟩ := argument
  cases h_key : Setting.ofKey? key with
  | none =>
    obtain ⟨_, h_apply⟩ := applyArgument_other config ⟨key, value⟩ h_key
    rw [h_apply]
    simp [Argument.reading?, h_key, Setting.acceptedValues, Setting.values]
  | some other =>
    rw [eq_key_of_ofKey? h_key, applyArgument_key, ← eq_key_of_ofKey? h_key]
    by_cases h_same : other = setting
    · subst h_same
      cases h_accepted : other.accepted? value <;>
        simp [Argument.reading?, h_key, Setting.acceptedValues, Setting.values, h_accepted]
    · cases h_accepted : other.accepted? value <;>
        simp [Argument.reading?, h_key, Setting.acceptedValues, Setting.values, h_same,
          Setting.get_set_of_ne]

/-- A reading that is rejected is reported, and no other one is; other arguments are reported as
    hard issues. -/
theorem issue_applyArgument (config : TrackingConfig) (argument : Argument) :
    (applyArgument config argument).2.filter (!·.isHard) =
      argument.reading?.bind Reading.rejection? := by
  obtain ⟨key, value⟩ := argument
  cases h_key : Setting.ofKey? key with
  | none =>
    obtain ⟨_, h_apply⟩ := applyArgument_other config ⟨key, value⟩ h_key
    rw [h_apply]
    simp [Argument.reading?, h_key, Issue.isHard, Issue.kind]
  | some setting =>
    rw [eq_key_of_ofKey? h_key, applyArgument_key, ← eq_key_of_ofKey? h_key]
    cases h_accepted : setting.accepted? value <;>
      simp [Argument.reading?, h_key, Reading.rejection?, h_accepted,
        Setting.isHard_rejection]

/-! ## All arguments -/

namespace Setting

variable (setting : Setting)

theorem acceptedValues_append (first second : List Reading) :
    setting.acceptedValues (first ++ second) =
      setting.acceptedValues first ++ setting.acceptedValues second := by
  simp [acceptedValues, values]

/-- What a configuration has for the setting after some readings. -/
theorem getD_getLast?_acceptedValues_append (first second : List Reading)
    (otherwise : setting.Value) :
    (setting.acceptedValues (first ++ second)).getLast?.getD otherwise =
      (setting.acceptedValues second).getLast?.getD
        ((setting.acceptedValues first).getLast?.getD otherwise) := by
  rw [acceptedValues_append, List.getLast?_append]
  cases (setting.acceptedValues second).getLast? <;> rfl

end Setting

theorem get_applyArguments (config : TrackingConfig) (arguments : List Argument)
    (setting : Setting) :
    setting.get (applyArguments config arguments).1 =
      (setting.acceptedValues (arguments.filterMap Argument.reading?)).getLast?.getD
        (setting.get config) := by
  induction arguments generalizing config with
  | nil => rfl
  | cons argument rest ih =>
    rw [applyArguments, ih, get_applyArgument, ← Setting.getD_getLast?_acceptedValues_append]
    cases h_reading : argument.reading? <;> simp [h_reading]

theorem issues_applyArguments (config : TrackingConfig) (arguments : List Argument) :
    (applyArguments config arguments).2.filter (!·.isHard) =
      (arguments.filterMap Argument.reading?).filterMap Reading.rejection? := by
  induction arguments generalizing config with
  | nil => rfl
  | cons argument rest ih =>
    have h_issue := issue_applyArgument config argument
    have h_first : (applyArgument config argument).2.toList.filter (!·.isHard) =
        (argument.reading?.bind Reading.rejection?).toList := by
      rw [← h_issue]
      cases (applyArgument config argument).2 with
      | none => rfl
      | some issue => cases h_hard : issue.isHard <;> simp [Option.filter, h_hard]
    rw [applyArguments, List.filter_append, ih, h_first]
    cases h_reading : argument.reading? with
    | none => simp [h_reading]
    | some reading => cases h_rejection : reading.rejection? <;> simp [h_reading, h_rejection]

theorem get_applyAttributes (config : TrackingConfig) (attributes : List Attribute)
    (setting : Setting) :
    setting.get (applyAttributes config attributes).1 =
      (setting.acceptedValues ((attributes.flatMap fun attr =>
        (readArguments (fun _ => true) attr.input).1).filterMap Argument.reading?)).getLast?.getD
        (setting.get config) := by
  induction attributes generalizing config with
  | nil => rfl
  | cons attr rest ih =>
    rw [applyAttributes, ih, get_applyArguments, ← Setting.getD_getLast?_acceptedValues_append,
      List.flatMap_cons, List.filterMap_append]

/-- What cuts an attribute short is a hard issue. -/
theorem filter_fault (fault : Option Fault) :
    (fault.map Issue.malformed).toList.filter (!·.isHard) = [] := by
  cases fault <;> rfl

theorem issues_applyAttributes (config : TrackingConfig) (attributes : List Attribute) :
    (applyAttributes config attributes).2.filter (!·.isHard) =
      ((attributes.flatMap fun attr => (readArguments (fun _ => true) attr.input).1).filterMap
        Argument.reading?).filterMap Reading.rejection? := by
  induction attributes generalizing config with
  | nil => rfl
  | cons attr rest ih =>
    rw [applyAttributes]
    simp only [List.filter_append, ih, issues_applyArguments, filter_fault, List.append_nil,
      List.flatMap_cons, List.filterMap_append]

/-! ## A configuration and its issues -/

theorem lastCounts_iff (attributes : List Attribute) (setting : Setting) :
    LastCounts attributes setting ↔
      ∀ value, (setting.values (readings attributes)).getLast? = some value →
        setting.accepted? value = none →
          ∀ accepted ∈ (setting.acceptedValues (readings attributes)).getLast?,
            accepted = setting.default := by
  have h_get : setting.get (readConfig attributes).1 =
      (setting.acceptedValues (readings attributes)).getLast?.getD setting.default :=
    get_applyAttributes _ _ setting
  rw [LastCounts, h_get, Setting.acceptedValues]
  obtain h_nil | ⟨before, last, h_values⟩ :=
    List.eq_nil_or_concat (setting.values (readings attributes))
  · simp [h_nil]
  · rw [h_values]
    cases h_last : setting.accepted? last with
    | some accepted => simp [h_last]
    | none =>
      cases h_before : (before.filterMap setting.accepted?).getLast? <;>
        simp [h_last, h_before]

/-- Of every setting the last accepted value counts, and the default if there is none.  The issues
    of values are those of the rejected readings, in order, and each says that the default is used;
    that is so unless another value was accepted before the last, rejected one. -/
theorem readConfig_settles (attributes : List Attribute) :
    (readConfig attributes).2.filter (!·.isHard) =
        (readings attributes).filterMap Reading.rejection? ∧
      (∀ reading : Reading, ∀ issue ∈ reading.rejection?, ∃ fault,
        issue.message =
          fault ++ ("; using `" ++ reading.setting.text reading.setting.default ++ "`")) ∧
      ∀ setting : Setting,
        setting.get (readConfig attributes).1 =
            (setting.acceptedValues (readings attributes)).getLast?.getD setting.default ∧
          (LastCounts attributes setting ↔
            ∀ value, (setting.values (readings attributes)).getLast? = some value →
              setting.accepted? value = none →
                ∀ accepted ∈ (setting.acceptedValues (readings attributes)).getLast?,
                  accepted = setting.default) := by
  refine ⟨issues_applyAttributes _ _, ?_, fun setting =>
    ⟨get_applyAttributes _ _ setting, lastCounts_iff attributes setting⟩⟩
  intro reading issue h_issue
  rw [Reading.rejection?] at h_issue
  split at h_issue
  · simp at h_issue
  · obtain rfl : reading.setting.rejection reading.value = issue := by simpa using h_issue
    exact reading.setting.exists_message_rejection reading.value

/-- A marker whose second suffix is rejected. -/
def restoringMarker : List Attribute :=
  match parseItem? "#[delta(suffix = \"Foo\", suffix = \"\")] struct A;" with
  | some (.struct decl _) => decl.attributes
  | _ => []

/-- The rejected suffix is reported as replaced by the default, but the first one is kept. -/
theorem not_lastCounts_restoringMarker :
    readings restoringMarker =
        [⟨.suffix, some (.string "Foo")⟩, ⟨.suffix, some (.string "")⟩] ∧
      (readConfig restoringMarker).2 = [.emptySuffix] ∧
      (readConfig restoringMarker).1.suffix = "Foo" ∧
      ¬ LastCounts restoringMarker .suffix := by
  refine ⟨?_, ?_, ?_, ?_⟩ <;> decide +kernel

end FieldDelta.Marker
