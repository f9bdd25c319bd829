import FieldDelta.Marker
import FieldDelta.Proofs.Syntax.Consumes

/-! # Arguments that are split over several attributes

The arguments of a marker may stand in one attribute or be spread over several, with other
attributes in between.  Where the list is cut makes no difference: `split_immaterial`.

* `WrittenArgument` — an argument as it is written: a key, and perhaps a value behind a `=`;
* `Lists` — tokens that write arguments with commas between them, and perhaps one at the end;
* `Cuts` — attributes that hold consecutive pieces of a list of arguments.

What is written is read back whatever comes next (`readArgumentsWithin_eq`), so that the attributes
are read as the pieces, and applying arguments goes from one piece to the next.
-/

namespace FieldDelta.Marker

open Syntax

/-! ## Written arguments -/

/-- The `::` between the segments of a path; the second character may be joint as well. -/
def pathSeparator (joint : Bool) : List TokenTree :=
  [.punct ':' true, .punct ':' joint]

/-- A key as it is written: a word, perhaps with a `::` in front, and further segments. -/
structure WrittenKey where
  /-- The `::` in front, if there is one: whether it is joint to the word. -/
  root : Option Bool := none
  first : String
  further : List (Bool × String) := []
deriving DecidableEq, Repr

namespace WrittenKey

def segment (part : Bool × String) : List TokenTree :=
  pathSeparator part.1 ++ [.word part.2]

def tokens (key : WrittenKey) : List TokenTree :=
  key.root.toList.flatMap pathSeparator ++ .word key.first :: key.further.flatMap segment

/-- The name of the key; a path of several segments has none. -/
def name (key : WrittenKey) : Option String :=
  if key.root.isSome || !key.further.isEmpty then none else some key.first

end WrittenKey

/-- A value as it is written: a literal token, a truth value, or a negated number. -/
inductive WrittenValue where
  | literal (text : String)
  | truth (value : Bool)
  | negative (joint : Bool) (text : String) (h_number : Ahead.isNumber text = true)
deriving DecidableEq, Repr

namespace WrittenValue

def tokens : WrittenValue → List TokenTree
  | literal text => [.literal text]
  | truth value => [.word (if value then "true" else "false")]
  | negative joint text _ => [.punct '-' joint, .literal text]

def value : WrittenValue → Literal
  | literal text => .ofText text
  | truth value => .truth value
  | negative .. => .other

end WrittenValue

/-- An argument as it is written. -/
structure WrittenArgument where
  key : WrittenKey
  /-- The value, and whether the `=` in front of it is joint. -/
  value : Option (Bool × WrittenValue) := none
deriving DecidableEq, Repr

namespace WrittenArgument

def valueTokens (argument : WrittenArgument) : List TokenTree :=
  match argument.value with
  | none => []
  | some (joint, value) => .punct '=' joint :: value.tokens

def tokens (argument : WrittenArgument) : List TokenTree :=
  argument.key.tokens ++ argument.valueTokens

/-- What is written. -/
def argument (written : WrittenArgument) : Argument where
  key := written.key.name
  value := written.value.map (·.2.value)

end WrittenArgument

/-- Tokens that write arguments with commas between them, and perhaps one at the end. -/
inductive Lists : List WrittenArgument → List TokenTree → Prop
  | nil : Lists [] []
  | last (argument : WrittenArgument) : Lists [argument] argument.tokens
  | cons (argument : WrittenArgument) (joint : Bool) {rest : List WrittenArgument}
      {tokens : List TokenTree} (h_rest : Lists rest tokens) :
      Lists (argument :: rest) (argument.tokens ++ .punct ',' joint :: tokens)

/-- The attribute holds the arguments. -/
structure Holds (attr : Attribute) (arguments : List WrittenArgument) : Prop where
  named : attr.isNamed helperName = true
  written : ∃ delimiter tokens, attr.input = .arguments delimiter tokens ∧ Lists arguments tokens

/-- The attributes hold consecutive pieces of the arguments, with other attributes in between. -/
inductive Cuts : List Attribute → List WrittenArgument → Prop
  | nil : Cuts [] []
  | other {attr : Attribute} {rest : List Attribute} {arguments : List WrittenArgument}
      (h_other : attr.isNamed helperName = false) (h_rest : Cuts rest arguments) :
      Cuts (attr :: rest) arguments
  | piece {attr : Attribute} {rest : List Attribute} {piece others : List WrittenArgument}
      (h_holds : Holds attr piece) (h_rest : Cuts rest others) :
      Cuts (attr :: rest) (piece ++ others)

/-! ## Reading what is written -/

theorem keySegments_of_end {rest : List TokenTree} (h_end : Ahead.op "::" rest = false) :
    keySegments rest = .ok (false, rest) := by
  unfold keySegments
  split
  · simp [Ahead.op, Ahead.isOp] at h_end
  · rfl

theorem keySegments_append (further : List (Bool × String)) {rest : List TokenTree}
    (h_end : Ahead.op "::" rest = false) :
    keySegments (further.flatMap WrittenKey.segment ++ rest) = .ok (!further.isEmpty, rest) := by
  induction further with
  | nil => exact keySegments_of_end h_end
  | cons part further ih =>
    rw [List.flatMap_cons]
    simp [WrittenKey.segment, pathSeparator, keySegments, ih]

/-- A key is read back in front of anything but a further segment. -/
theorem readKey_append (key : WrittenKey) {rest : List TokenTree}
    (h_end : Ahead.op "::" rest = false) :
    readKey (key.tokens ++ rest) = .ok (key.name, rest) := by
  obtain ⟨root, first, further⟩ := key
  have h_further := keySegments_append further h_end
  cases root with
  | none =>
    have h_unrooted : Ahead.op "::" (.word first :: (further.flatMap WrittenKey.segment ++ rest)) =
        false := rfl
    simp [readKey, WrittenKey.tokens, WrittenKey.name, h_unrooted, h_further, bind, Except.bind,
      pure, Except.pure]
  | some joint =>
    have h_rooted : Ahead.op "::" (.punct ':' true :: .punct ':' joint :: .word first ::
        (further.flatMap WrittenKey.segment ++ rest)) = true := rfl
    simp [readKey, WrittenKey.tokens, WrittenKey.name, h_rooted, h_further, bind, Except.bind,
      pure, Except.pure, pathSeparator]

theorem readLiteral_append (value : WrittenValue) (rest : List TokenTree) :
    readLiteral (value.tokens ++ rest) = .ok (value.value, rest) := by
  cases value with
  | literal text => rfl
  | truth value => cases value <;> rfl
  | negative joint text h_number => simp [WrittenValue.tokens, readLiteral, h_number]; rfl

/-- No value is read where none is written, unless what comes next begins with `=`. -/
theorem readValue_append (argument : WrittenArgument) {rest : List TokenTree}
    (h_end : Ahead.op "=" rest = false) :
    readValue (argument.valueTokens ++ rest) = .ok (argument.argument.value, rest) := by
  obtain ⟨key, value⟩ := argument
  cases value with
  | none =>
    simp [readValue, WrittenArgument.valueTokens, WrittenArgument.argument, h_end, pure,
      Except.pure]
  | some written =>
    obtain ⟨joint, value⟩ := written
    have h_equals : Ahead.op "=" (.punct '=' joint :: (value.tokens ++ rest)) = true := rfl
    simp [readValue, WrittenArgument.valueTokens, WrittenArgument.argument, h_equals,
      readLiteral_append, bind, Except.bind, pure, Except.pure]

/-! ## Reading lists of arguments -/

section Lists

variable {takesValue : Option String → Bool}

/-- A value is read for the argument if it has one. -/
def WrittenArgument.Accepted (takesValue : Option String → Bool) (argument : WrittenArgument) :
    Prop :=
  argument.value.isSome = true → takesValue argument.key.name = true

instance (takesValue : Option String → Bool) (argument : WrittenArgument) :
    Decidable (argument.Accepted takesValue) :=
  inferInstanceAs (Decidable (_ → _))

theorem isEmpty_tokens_append (argument : WrittenArgument) (behind : List TokenTree) :
    (argument.tokens ++ behind).isEmpty = false := by
  simp [WrittenArgument.tokens, WrittenKey.tokens]

theorem op_colons_valueTokens (argument : WrittenArgument) {behind : List TokenTree}
    (h_colons : Ahead.op "::" behind = false) :
    Ahead.op "::" (argument.valueTokens ++ behind) = false := by
  obtain ⟨key, _ | ⟨joint, value⟩⟩ := argument
  · exact h_colons
  · cases joint <;> rfl

/-- An argument is read back in front of what cannot go on with it. -/
theorem readArgumentsWithin_accepted {argument : WrittenArgument}
    (h_accepted : argument.Accepted takesValue) {behind : List TokenTree}
    (h_colons : Ahead.op "::" behind = false) (h_equals : Ahead.op "=" behind = false)
    (limit : Nat) :
    readArgumentsWithin takesValue (limit + 1) (argument.tokens ++ behind) =
      if behind.isEmpty then ([argument.argument], none)
      else if Ahead.op "," behind then
        (argument.argument :: (readArgumentsWithin takesValue limit (behind.drop 1)).1,
          (readArgumentsWithin takesValue limit (behind.drop 1)).2)
      else ([argument.argument], some .commaExpected) := by
  have h_key : readKey (argument.tokens ++ behind) =
      .ok (argument.key.name, argument.valueTokens ++ behind) := by
    rw [WrittenArgument.tokens, List.append_assoc]
    exact readKey_append argument.key (op_colons_valueTokens argument h_colons)
  have h_value : (if takesValue argument.key.name then readValue (argument.valueTokens ++ behind)
      else .ok (none, argument.valueTokens ++ behind)) = .ok (argument.argument.value, behind) := by
    by_cases h_takes : takesValue argument.key.name = true
    · rw [if_pos h_takes, readValue_append argument h_equals]
    · have h_none : argument.value = none := by
        simpa [WrittenArgument.Accepted, h_takes] using h_accepted
      simp [h_takes, WrittenArgument.valueTokens, WrittenArgument.argument, h_none]
  rw [readArgumentsWithin, isEmpty_tokens_append, h_key]
  simp only [h_value, Bool.false_eq_true, if_false]
  rfl

/-- A value that is not read for is not skipped. -/
theorem readArgumentsWithin_rejected {argument : WrittenArgument}
    (h_rejected : ¬ argument.Accepted takesValue) {behind : List TokenTree}
    (h_colons : Ahead.op "::" behind = false) (limit : Nat) :
    (readArgumentsWithin takesValue (limit + 1) (argument.tokens ++ behind)).2 =
      some .commaExpected := by
  obtain ⟨h_value, h_takes⟩ := Classical.not_imp.mp h_rejected
  have h_key : readKey (argument.tokens ++ behind) =
      .ok (argument.key.name, argument.valueTokens ++ behind) := by
    rw [WrittenArgument.tokens, List.append_assoc]
    exact readKey_append argument.key (op_colons_valueTokens argument h_colons)
  obtain ⟨⟨joint, value⟩, h_some⟩ := Option.isSome_iff_exists.mp h_value
  have h_tokens : argument.valueTokens ++ behind =
      .punct '=' joint :: (value.tokens ++ behind) := by
    simp [WrittenArgument.valueTokens, h_some]
  have h_comma : Ahead.op "," (.punct '=' joint :: (value.tokens ++ behind)) = false := rfl
  rw [readArgumentsWithin, isEmpty_tokens_append, h_key, h_tokens]
  simp [h_takes, h_comma]

theorem readArgumentsWithin_last {argument : WrittenArgument}
    (h_accepted : argument.Accepted takesValue) (limit : Nat) :
    readArgumentsWithin takesValue (limit + 1) argument.tokens = ([argument.argument], none) := by
  rw [← List.append_nil argument.tokens]
  exact readArgumentsWithin_accepted h_accepted rfl rfl limit

theorem readArgumentsWithin_cons {argument : WrittenArgument}
    (h_accepted : argument.Accepted takesValue) (joint : Bool) (tokens : List TokenTree)
    (limit : Nat) :
    readArgumentsWithin takesValue (limit + 1) (argument.tokens ++ .punct ',' joint :: tokens) =
      (argument.argument :: (readArgumentsWithin takesValue limit tokens).1,
        (readArgumentsWithin takesValue limit tokens).2) :=
  readArgumentsWithin_accepted h_accepted (by cases joint <;> rfl) rfl limit

theorem length_lt_of_append_comma {argument : WrittenArgument} {joint : Bool}
    {tokens : List TokenTree} {limit : Nat}
    (h_limit : (argument.tokens ++ .punct ',' joint :: tokens).length < limit + 1) :
    tokens.length < limit := by
  simp only [List.length_append, List.length_cons] at h_limit
  omega

/-- A list of arguments is read back if a value is read for every key that has one. -/
theorem readArgumentsWithin_eq {arguments : List WrittenArgument} {tokens : List TokenTree}
    (h_lists : Lists arguments tokens)
    (h_accepted : ∀ argument ∈ arguments, argument.Accepted takesValue) {limit : Nat}
    (h_limit : tokens.length < limit) :
    readArgumentsWithin takesValue limit tokens =
      (arguments.map WrittenArgument.argument, none) := by
  induction h_lists generalizing limit with
  | nil => cases limit <;> rfl
  | last argument =>
    cases limit with
    | zero => cases h_limit
    | succ limit => exact readArgumentsWithin_last (h_accepted argument (by simp)) limit
  | cons argument joint h_rest ih =>
    rw [List.forall_mem_cons] at h_accepted
    cases limit with
    | zero => cases h_limit
    | succ limit =>
      rw [readArgumentsWithin_cons h_accepted.1,
        ih h_accepted.2 (length_lt_of_append_comma h_limit)]
      rfl

/-- A list of arguments that is read without a fault has a value for no other key. -/
theorem accepted_of_no_fault {arguments : List WrittenArgument} {tokens : List TokenTree}
    (h_lists : Lists arguments tokens) {limit : Nat} (h_limit : tokens.length < limit)
    (h_fault : (readArgumentsWithin takesValue limit tokens).2 = none) :
    ∀ argument ∈ arguments, argument.Accepted takesValue := by
  induction h_lists generalizing limit with
  | nil => exact fun argument h_mem => absurd h_mem List.not_mem_nil
  | last argument =>
    cases limit with
    | zero => cases h_limit
    | succ limit =>
      rw [List.forall_mem_singleton]
      refine Decidable.byContradiction fun h_rejected => ?_
      rw [← List.append_nil argument.tokens, readArgumentsWithin_rejected h_rejected rfl] at h_fault
      cases h_fault
  | @cons argument joint rest tokens h_rest ih =>
    cases limit with
    | zero => cases h_limit
    | succ limit =>
      have h_colons : Ahead.op "::" (.punct ',' joint :: tokens) = false := by
        cases joint <;> rfl
      have h_first : argument.Accepted takesValue := by
        refine Decidable.byContradiction fun h_rejected => ?_
        rw [readArgumentsWithin_rejected h_rejected h_colons] at h_fault
        cases h_fault
      rw [readArgumentsWithin_cons h_first] at h_fault
      exact List.forall_mem_cons.mpr ⟨h_first, ih (length_lt_of_append_comma h_limit) h_fault⟩

end Lists

/-! ## Lists are all that is read without a fault -/

theorem exists_segments {trees rest : List TokenTree} {longer : Bool}
    (h_read : keySegments trees = .ok (longer, rest)) :
    ∃ further : List (Bool × String), trees = further.flatMap WrittenKey.segment ++ rest ∧
      longer = !further.isEmpty := by
  fun_induction keySegments trees generalizing longer rest with
  | case1 joint name behind found left h_behind ih =>
    obtain ⟨further, rfl, -⟩ := ih h_behind
    cases h_read
    exact ⟨(joint, name) :: further, rfl, rfl⟩
  | case2 => cases h_read
  | case3 => cases h_read
  | case4 => cases h_read
  | case5 trees =>
    cases h_read
    exact ⟨[], rfl, rfl⟩

/-- A word and further segments, which all keys end with. -/
theorem exists_word {trees rest : List TokenTree} {rooted : Bool} {name : Option String}
    (h_read : (match trees with
      | .word first :: behind => do
        let (longer, left) ← keySegments behind
        return (if rooted || longer then none else some first, left)
      | [] => .error Fault.keyMissing
      | other => .error (if Ahead.literal other then .literalKey else .otherKey)) =
        Except.ok (name, rest)) :
    ∃ first, ∃ further : List (Bool × String),
      trees = .word first :: (further.flatMap WrittenKey.segment ++ rest) ∧
        name = if rooted || !further.isEmpty then none else some first := by
  split at h_read
  next first behind =>
    cases h_segments : keySegments behind with
    | error fault => simp [h_segments, bind, Except.bind] at h_read
    | ok answer =>
      obtain ⟨longer, left⟩ := answer
      obtain ⟨further, rfl, rfl⟩ := exists_segments h_segments
      simp only [h_segments, bind, Except.bind, pure, Except.pure, Except.ok.injEq,
        Prod.mk.injEq] at h_read
      obtain ⟨rfl, rfl⟩ := h_read
      exact ⟨first, further, rfl, rfl⟩
  next => cases h_read
  next => cases h_read

theorem exists_of_op_colons {trees : List TokenTree} (h_colons : Ahead.op "::" trees = true) :
    ∃ joint rest, trees = .punct ':' true :: .punct ':' joint :: rest := by
  change Ahead.isOp [':', ':'] trees = true at h_colons
  unfold Ahead.isOp at h_colons
  split at h_colons
  next h_chars => cases h_chars
  next h_chars =>
    cases h_chars
    rw [Bool.and_eq_true, beq_iff_eq] at h_colons
    obtain ⟨rfl, h_second⟩ := h_colons
    obtain ⟨joint, rest, rfl⟩ := Reader.exists_of_isOp h_second
    exact ⟨joint, rest, rfl⟩
  next => cases h_colons

theorem exists_key {trees rest : List TokenTree} {name : Option String}
    (h_read : readKey trees = .ok (name, rest)) :
    ∃ key : WrittenKey, trees = key.tokens ++ rest ∧ name = key.name := by
  unfold readKey at h_read
  obtain ⟨first, further, h_trees, rfl⟩ := exists_word h_read
  by_cases h_colons : Ahead.op "::" trees = true
  · obtain ⟨joint, behind, rfl⟩ := exists_of_op_colons h_colons
    rw [if_pos h_colons] at h_trees
    obtain rfl : behind = _ := h_trees
    exact ⟨⟨some joint, first, further⟩, by simp [WrittenKey.tokens, pathSeparator],
      by simp [h_colons, WrittenKey.name]⟩
  · rw [if_neg h_colons] at h_trees
    subst h_trees
    exact ⟨⟨none, first, further⟩, rfl, by simp [h_colons, WrittenKey.name]⟩

theorem exists_literal {trees rest : List TokenTree} {value : Literal}
    (h_read : readLiteral trees = .ok (value, rest)) :
    ∃ written : WrittenValue, trees = written.tokens ++ rest ∧ value = written.value := by
  unfold readLiteral at h_read
  split at h_read
  next => cases h_read
  next text behind =>
    cases h_read
    exact ⟨.literal text, rfl, rfl⟩
  next =>
    cases h_read
    exact ⟨.truth true, rfl, rfl⟩
  next =>
    cases h_read
    exact ⟨.truth false, rfl, rfl⟩
  next joint text behind =>
    split at h_read
    next h_number =>
      cases h_read
      exact ⟨.negative joint text h_number, rfl, rfl⟩
    next => cases h_read
  next => cases h_read

/-- What is read behind a key is a value, or nothing. -/
theorem exists_value (key : WrittenKey) {trees rest : List TokenTree} {value : Option Literal}
    (h_read : readValue trees = .ok (value, rest)) :
    ∃ written : WrittenArgument, written.key = key ∧ trees = written.valueTokens ++ rest ∧
      value = written.argument.value := by
  unfold readValue at h_read
  by_cases h_equals : Ahead.op "=" trees = true
  · obtain ⟨joint, behind, rfl⟩ := Reader.exists_of_isOp (c := '=') h_equals
    rw [if_pos h_equals] at h_read
    cases h_literal : readLiteral behind with
    | error fault => simp [h_literal, bind, Except.bind] at h_read
    | ok answer =>
      obtain ⟨_, left⟩ := answer
      obtain ⟨written, rfl, rfl⟩ := exists_literal h_literal
      simp only [List.drop_succ_cons, List.drop_zero, h_literal, bind, Except.bind, pure,
        Except.pure, Except.ok.injEq, Prod.mk.injEq] at h_read
      obtain ⟨rfl, rfl⟩ := h_read
      exact ⟨⟨key, some (joint, written)⟩, rfl, rfl, rfl⟩
  · rw [if_neg h_equals] at h_read
    cases h_read
    exact ⟨⟨key, none⟩, rfl, rfl, rfl⟩

/-- What is read without a fault begins with an argument, which is all or has a comma behind it. -/
theorem exists_argument {limit : Nat} {tokens : List TokenTree} {arguments : List Argument}
    (h_some : tokens ≠ [])
    (h_read : readArgumentsWithin (fun _ => true) (limit + 1) tokens = (arguments, none)) :
    ∃ written : WrittenArgument, (tokens = written.tokens ∧ arguments = [written.argument]) ∨
      ∃ joint others more, tokens = written.tokens ++ .punct ',' joint :: others ∧
        arguments = written.argument :: more ∧
          readArgumentsWithin (fun _ => true) limit others = (more, none) := by
  rw [readArgumentsWithin, List.isEmpty_eq_false_iff.mpr h_some] at h_read
  cases h_key : readKey tokens with
  | error fault => simp [h_key] at h_read
  | ok answer =>
    obtain ⟨name, behind⟩ := answer
    obtain ⟨key, rfl, rfl⟩ := exists_key h_key
    cases h_value : readValue behind with
    | error fault => simp [h_key, h_value] at h_read
    | ok answer =>
      obtain ⟨value, rest⟩ := answer
      obtain ⟨written, rfl, rfl, rfl⟩ := exists_value key h_value
      refine ⟨written, ?_⟩
      rw [← List.append_assoc, ← WrittenArgument.tokens]
      simp only [h_key, h_value, if_true, Bool.false_eq_true, if_false] at h_read
      cases rest with
      | nil =>
        cases h_read
        exact .inl ⟨List.append_nil _, rfl⟩
      | cons next others =>
        by_cases h_comma : Ahead.op "," (next :: others) = true
        · obtain ⟨joint, _, ⟨⟩⟩ := Reader.exists_of_isOp (c := ',') h_comma
          simp only [List.isEmpty_cons, h_comma, Bool.false_eq_true, if_false, if_true,
            List.drop_succ_cons, List.drop_zero, Prod.mk.injEq] at h_read
          exact .inr ⟨joint, others, _, rfl, h_read.1.symm, Prod.ext rfl h_read.2⟩
        · simp [h_comma] at h_read

theorem exists_lists {limit : Nat} {tokens : List TokenTree} {arguments : List Argument}
    (h_limit : tokens.length < limit)
    (h_read : readArgumentsWithin (fun _ => true) limit tokens = (arguments, none)) :
    ∃ written, Lists written tokens ∧ arguments = written.map WrittenArgument.argument := by
  induction limit generalizing tokens arguments with
  | zero => cases h_limit
  | succ limit ih =>
    by_cases h_some : tokens = []
    · subst h_some
      cases h_read
      exact ⟨[], .nil, rfl⟩
    · obtain ⟨first, ⟨rfl, rfl⟩ | ⟨joint, others, more, rfl, rfl, h_more⟩⟩ :=
        exists_argument h_some h_read
      · exact ⟨[first], .last first, rfl⟩
      · obtain ⟨written, h_lists, rfl⟩ := ih (length_lt_of_append_comma h_limit) h_more
        exact ⟨first :: written, .cons first joint h_lists, rfl⟩

/-- The lists of arguments are the tokens that are read without a fault. -/
theorem readArguments_iff {delimiter : Delimiter} {tokens : List TokenTree}
    {arguments : List Argument} :
    readArguments (fun _ => true) (.arguments delimiter tokens) = (arguments, none) ↔
      ∃ written, Lists written tokens ∧ arguments = written.map WrittenArgument.argument := by
  constructor
  · exact exists_lists (Nat.lt_succ_self _)
  · rintro ⟨written, h_lists, rfl⟩
    exact readArgumentsWithin_eq h_lists (fun _ _ _ => rfl) (Nat.lt_succ_self _)

/-! ## Reading attributes -/

theorem Holds.readArguments_eq {attr : Attribute} {arguments : List WrittenArgument}
    (h_holds : Holds attr arguments) {takesValue : Option String → Bool}
    (h_accepted : ∀ argument ∈ arguments, argument.Accepted takesValue) :
    readArguments takesValue attr.input = (arguments.map WrittenArgument.argument, none) := by
  obtain ⟨delimiter, tokens, h_input, h_lists⟩ := h_holds.written
  rw [h_input]
  exact readArgumentsWithin_eq h_lists h_accepted (Nat.lt_succ_self _)

theorem Holds.accepted_of_no_fault {attr : Attribute} {arguments : List WrittenArgument}
    (h_holds : Holds attr arguments) {takesValue : Option String → Bool}
    (h_fault : (readArguments takesValue attr.input).2 = none) :
    ∀ argument ∈ arguments, argument.Accepted takesValue := by
  obtain ⟨delimiter, tokens, h_input, h_lists⟩ := h_holds.written
  rw [h_input] at h_fault
  exact Marker.accepted_of_no_fault h_lists (Nat.lt_succ_self _) h_fault

theorem helpers_cons_of_named {attr : Attribute} (h_named : attr.isNamed helperName = true)
    (rest : List Attribute) : helpers (attr :: rest) = attr :: helpers rest := by
  simp [helpers, h_named]

theorem helpers_cons_of_other {attr : Attribute} (h_other : attr.isNamed helperName = false)
    (rest : List Attribute) : helpers (attr :: rest) = helpers rest := by
  simp [helpers, h_other]

theorem Holds.cuts {attr : Attribute} {arguments : List WrittenArgument}
    (h_holds : Holds attr arguments) : Cuts [attr] arguments := by
  have h_cuts : Cuts [attr] (arguments ++ []) := .piece h_holds .nil
  rwa [List.append_nil] at h_cuts

/-! ## Configurations -/

theorem applyArguments_append (config : TrackingConfig) (first second : List Argument) :
    applyArguments config (first ++ second) =
      ((applyArguments (applyArguments config first).1 second).1,
        (applyArguments config first).2 ++
          (applyArguments (applyArguments config first).1 second).2) := by
  induction first generalizing config with
  | nil => rfl
  | cons argument first ih => simp [applyArguments, ih]

/-- Attributes that hold pieces of a list of arguments are read as the list. -/
theorem applyAttributes_of_cuts {attributes : List Attribute} {arguments : List WrittenArgument}
    (h_cuts : Cuts attributes arguments) (config : TrackingConfig) :
    applyAttributes config (helpers attributes) =
      applyArguments config (arguments.map WrittenArgument.argument) := by
  induction h_cuts generalizing config with
  | nil => rfl
  | other h_other h_rest ih => rw [helpers_cons_of_other h_other, ih]
  | piece h_holds h_rest ih =>
    -- A value is read for every key.
    have h_read : readArguments (fun _ => true) _ = _ := h_holds.readArguments_eq fun _ _ _ => rfl
    rw [helpers_cons_of_named h_holds.named, applyAttributes, h_read, List.map_append,
      applyArguments_append, ← ih]
    simp

/-! ## Fields -/

/-- A value is read for every key of a field but `ignore`. -/
def fieldTakesValue (key : Option String) : Bool :=
  key != some "ignore"

/-- Whether field arguments exclude the field. -/
def excludes (arguments : List Argument) : Bool :=
  !(arguments.filter (·.key == some "ignore")).isEmpty

/-- The issues of field arguments: one for each that is not `ignore`. -/
def fieldIssues (arguments : List Argument) : List Issue :=
  (arguments.filter (!·.key == some "ignore")).map fun _ => .fieldKey

theorem excludes_append (first second : List Argument) :
    excludes (first ++ second) = (excludes first || excludes second) := by
  simp only [excludes, List.filter_append]
  cases first.filter (·.key == some "ignore") <;> rfl

theorem fieldIssues_append (first second : List Argument) :
    fieldIssues (first ++ second) = fieldIssues first ++ fieldIssues second := by
  simp [fieldIssues]

theorem Holds.readFieldAttribute_eq {attr : Attribute} {arguments : List WrittenArgument}
    (h_holds : Holds attr arguments)
    (h_accepted : ∀ argument ∈ arguments, argument.Accepted fieldTakesValue) :
    readFieldAttribute attr =
      (excludes (arguments.map WrittenArgument.argument),
        fieldIssues (arguments.map WrittenArgument.argument)) := by
  have h_read : readArguments (· != some "ignore") attr.input = _ :=
    h_holds.readArguments_eq h_accepted
  rw [readFieldAttribute, h_read]
  simp only [List.partition_eq_filter_filter, Option.map_none, Option.toList_none, List.append_nil]
  rfl

/-- Attributes that hold pieces of a list of field arguments are read as the list, if a value is
    read for each key that has one. -/
theorem readField_of_cuts {attributes : List Attribute} {arguments : List WrittenArgument}
    (h_cuts : Cuts attributes arguments)
    (h_accepted : ∀ argument ∈ arguments, argument.Accepted fieldTakesValue) :
    readField attributes =
      (excludes (arguments.map WrittenArgument.argument),
        fieldIssues (arguments.map WrittenArgument.argument)) := by
  induction h_cuts with
  | nil => rfl
  | other h_other h_rest ih =>
    rw [readField, helpers_cons_of_other h_other, ← ih h_accepted, readField]
  | piece h_holds h_rest ih =>
    rw [List.forall_mem_append] at h_accepted
    have h_others := ih h_accepted.2
    rw [readField, Prod.mk.injEq] at h_others
    rw [readField, helpers_cons_of_named h_holds.named, List.map_cons, List.any_cons,
      List.flatMap_cons, h_holds.readFieldAttribute_eq h_accepted.1, h_others.1, h_others.2,
      List.map_append, excludes_append, fieldIssues_append]

/-- Without a malformed issue a value is read for each key that has one. -/
theorem Holds.accepted_of_not_malformed {attr : Attribute} {arguments : List WrittenArgument}
    (h_holds : Holds attr arguments)
    (h_issues : ∀ issue ∈ (readField [attr]).2, issue.kind ≠ .malformed) :
    ∀ argument ∈ arguments, argument.Accepted fieldTakesValue := by
  apply h_holds.accepted_of_no_fault
  cases h_fault : (readArguments fieldTakesValue attr.input).2 with
  | none => rfl
  | some fault =>
    have h_read : (readArguments (· != some "ignore") attr.input).2 = some fault := h_fault
    refine absurd rfl (h_issues (.malformed fault) ?_)
    rw [readField, helpers_cons_of_named h_holds.named]
    simp [readFieldAttribute, h_read]

/-- Arguments that are cut into consecutive pieces, each in an attribute of its own, with other
    attributes in between, are read as if one attribute held them all: a marker gives the same
    configuration and the same issues, and so do the arguments of a field, if none of these is that
    they are malformed. -/
theorem split_immaterial {attributes : List Attribute} {whole : Attribute}
    {arguments : List WrittenArgument} (h_cuts : Cuts attributes arguments)
    (h_whole : Holds whole arguments) :
    readConfig attributes = readConfig [whole] ∧
      ((∀ issue ∈ (readField [whole]).2, issue.kind ≠ .malformed) →
        readField attributes = readField [whole]) := by
  constructor
  · rw [readConfig, readConfig, applyAttributes_of_cuts h_cuts,
      applyAttributes_of_cuts h_whole.cuts]
  · intro h_issues
    have h_accepted := h_whole.accepted_of_not_malformed h_issues
    rw [readField_of_cuts h_cuts h_accepted, readField_of_cuts h_whole.cuts h_accepted]

/-- An attribute of the marker with arguments in parentheses. -/
def helperAttribute (tokens : List TokenTree) : Attribute where
  inner := false
  path := .mk false [.mk helperName .none]
  input := .arguments .paren tokens

/-- The arguments `suffix = "Change"` and `::extra`, in one attribute and in two. -/
theorem split_immaterial_suffix :
    let suffix : WrittenArgument := ⟨{ first := "suffix" }, some (false, .literal "\"Change\"")⟩
    let extra : WrittenArgument := ⟨{ root := some true, first := "extra" }, none⟩
    let whole := helperAttribute (suffix.tokens ++ .punct ',' false :: extra.tokens)
    let pieces := [helperAttribute (suffix.tokens ++ [.punct ',' false]), helperAttribute [],
      { helperAttribute [] with path := .mk false [.mk "doc" .none] },
      helperAttribute extra.tokens]
    Cuts pieces [suffix, extra] ∧ Holds whole [suffix, extra] ∧
      readConfig pieces = readConfig [whole] ∧
      ((∀ issue ∈ (readField [whole]).2, issue.kind ≠ .malformed) →
        readField pieces = readField [whole]) := by
  intro suffix extra whole pieces
  have h_whole : Holds whole [suffix, extra] :=
    ⟨by decide, _, _, rfl, .cons suffix false (.last extra)⟩
  have h_last : Cuts [helperAttribute extra.tokens] ([extra] ++ []) :=
    .piece ⟨by decide, _, _, rfl, .last extra⟩ .nil
  have h_others : Cuts pieces.tail ([] ++ ([extra] ++ [])) :=
    .piece ⟨by decide, _, _, rfl, .nil⟩ (.other (by decide) h_last)
  have h_cuts : Cuts pieces [suffix, extra] :=
    .piece ⟨by decide, _, _, rfl, .cons suffix false .nil⟩ h_others
  exact ⟨h_cuts, h_whole, split_immaterial h_cuts h_whole⟩

end FieldDelta.Marker
