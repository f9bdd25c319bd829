import FieldDelta.Proofs.Syntax.Writing

/-! # The grammar writes what it reads

Every reader of the grammar writes what it reads, so the phrase of a type that was parsed from text
can be written.

* `Rules.Write` — the knots;
* `writable_of_parseType?` — the tokens of a type that was parsed can be written.
-/

namespace FieldDelta.Syntax

open TokenTree (Writable)

/-! ## The knots -/

open Reader

/-- All readers among the rules go forward. -/
class Rules.Write (rules : Rules) : Prop where
  typeForm : ∀ plus, Writes (rules.typeForm plus)
  bound : ∀ form, Writes (rules.bound form)
  patternForm : ∀ alternatives, Writes (rules.patternForm alternatives)
  expression : ∀ place, Writes (rules.expression place)
  operand : ∀ structs, Writes (rules.operand structs)
  block : ∀ inner, Writes (rules.block inner)
  item : Writes rules.item

namespace Grammar

-- Readers are put together from many parts.
set_option synthInstance.maxSize 1000000000

variable (rules : Rules) [rules.Write] [rules.Advance] [rules.Consume]

instance (plus : Bool) : Writes (rules.typeForm plus) :=
  Rules.Write.typeForm plus

instance (form : BoundForm) : Writes (rules.bound form) :=
  Rules.Write.bound form

instance (alternatives : Bool) : Writes (rules.patternForm alternatives) :=
  Rules.Write.patternForm alternatives

instance (place : Place) : Writes (rules.expression place) :=
  Rules.Write.expression place

instance (structs : Bool) : Writes (rules.operand structs) :=
  Rules.Write.operand structs

instance (inner : Bool) : Writes (rules.block inner) :=
  Rules.Write.block inner

instance : Writes rules.item :=
  Rules.Write.item

instance (plus : Bool) : Writes (rules.type plus) := by
  unfold Rules.type
  infer_instance

instance (alternatives : Bool) : Writes (rules.pattern alternatives) := by
  unfold Rules.pattern
  infer_instance

instance : Writes rules.value := by
  unfold Rules.value
  infer_instance

/-! ## Paths -/

instance : Writes (constantArgument rules) := by
  unfold constantArgument
  infer_instance

instance : Writes (constraintBounds rules) := by
  unfold constraintBounds
  infer_instance

instance : Writes (associatedRest rules) := by
  unfold associatedRest
  infer_instance

/-- The name of an associated item is spelled like the path it was read as. -/
instance (phrase : Phrase) [Sound phrase] : Sound (asAssociatedName phrase) where
  holds := by
    have h_phrase := Sound.writable phrase
    unfold asAssociatedName
    split
    next _ name arguments _ =>
      have h_tokens : Fragment.tokensOfList [.path (.mk false [.mk name arguments])] =
          .word name :: arguments.tokens := by
        simp [Fragment.tokensOfList, Fragment.tokens, Path.tokens, Segment.tokensOfList,
          Segment.tokens, joinSegmentTokens]
      change TokenTree.Writable (Fragment.tokensOfList _) at h_phrase
      rw [h_tokens] at h_phrase
      split
      next _ turbofish found trailing _ =>
        change TokenTree.Writable (Fragment.tokensOfList _)
        convert h_phrase using 1
        cases turbofish <;>
          simp [Fragment.tokensOfList, Fragment.tokens, Arguments.tokens, tokensOfList_map_token]
      next => exact .append h_phrase.singleton_word .nil
    next => exact h_phrase

instance : Writes (genericArgument rules) := by
  unfold genericArgument
  infer_instance

instance : Writes (angleArguments rules) := by
  unfold angleArguments
  infer_instance

instance (style : PathStyle) : Writes (segment rules style) := by
  unfold segment
  infer_instance

instance (style : PathStyle) (limit : Nat) : Writes (moreSegments rules style limit) := by
  induction limit with
  | zero => exact inferInstanceAs (Writes failure)
  | succ limit ih =>
    unfold moreSegments
    infer_instance

instance (style : PathStyle) : Writes (barePath rules style) := by
  unfold barePath
  infer_instance

instance (style : PathStyle) : Writes (path rules style) := by
  unfold path
  infer_instance

instance (style : PathStyle) (limit : Nat) : Writes (qualifiedRest rules style limit) := by
  induction limit with
  | zero => exact inferInstanceAs (Writes failure)
  | succ limit ih =>
    unfold qualifiedRest
    infer_instance

instance (style : PathStyle) : Writes (qualified rules style) := by
  refine .bind (.captured ?_) fun _ => inferInstance
  refine .bind inferInstance fun _ => .bind inferInstance fun self => .bind inferInstance fun _ => ?_
  dsimp only
  split
  all_goals
    refine .bind inferInstance fun ⟨trait, h_trait⟩ => .bind inferInstance fun _ =>
      .bind inferInstance fun _ => .bind inferInstance fun _ => .bind inferInstance fun rest => ?_
    cases trait with
    | none => exact inferInstance
    | some path =>
      cases path with
      | mk leading segments =>
        have h_segments : Sound segments := ⟨h_trait _ rfl⟩
        exact inferInstance

instance (style : PathStyle) : Writes (qualifiedPath rules style) := by
  unfold qualifiedPath
  infer_instance

instance (limit : Nat) : Writes (plainNames limit) := by
  induction limit with
  | zero => exact inferInstanceAs (Writes failure)
  | succ limit ih =>
    unfold plainNames
    infer_instance

instance : Writes plainPath := by
  unfold plainPath
  infer_instance

/-! ## Attributes and visibilities -/

instance : Writes attributePath := by
  unfold attributePath
  infer_instance

instance : Writes (attributeInput rules) := by
  refine .bind inferInstance fun trees => ?_
  split <;> infer_instance

instance (inner : Bool) : Writes (attributeBody rules inner) := by
  unfold attributeBody
  infer_instance

instance : Writes (outerAttribute rules) := by
  unfold outerAttribute
  infer_instance

instance : Writes (innerAttribute rules) := by
  unfold innerAttribute
  infer_instance

instance (more : List TokenTree → Bool) (element : Reader Attribute) [Writes element] (limit : Nat) :
    Writes (attributesWhile more element limit) := by
  induction limit with
  | zero => exact inferInstanceAs (Writes failure)
  | succ limit ih =>
    unfold attributesWhile
    infer_instance

instance : Writes (outerAttributes rules) := by
  unfold outerAttributes
  infer_instance

instance : Writes (innerAttributes rules) := by
  unfold innerAttributes
  infer_instance

instance : Writes restriction := by
  unfold restriction
  infer_instance

instance : Writes visibility := by
  refine .bind inferInstance fun ⟨isPublic, _⟩ => ?_
  cases isPublic with
  | false =>
    have h_inherited : Sound Visibility.inherited := ⟨nofun⟩
    exact inferInstanceAs (Writes (pure _))
  | true =>
    refine writes_upcoming fun trees read value behind h_trees h_read => ?_
    split at h_read
    next inner rest =>
      cases h_within : (within inner restriction).run { rest := [] } with
      | none =>
        rw [h_within] at h_read
        cases h_read
        exact .of_eq nofun
      | some found =>
        obtain ⟨⟨visibility, phrase⟩, cursor⟩ := found
        rw [h_within] at h_read
        cases visibility with
        | restricted inPath path =>
          obtain ⟨h_visibility, -⟩ := wrote_within h_trees.inside h_within
          have h_path : Sound path := ⟨h_visibility _ _ rfl⟩
          have h_in : Sound "in" := ⟨.plainWord rfl (by decide +kernel)⟩
          cases h_read
          exact .of_read h_visibility h_trees.singleton_group rfl (Sound.writable [Fragment.group _ _])
        | pub =>
          cases h_read
          exact .of_eq nofun
        | inherited =>
          cases h_read
          exact .of_eq nofun
    next =>
      cases h_read
      exact .of_eq nofun

/-! ## Bounds, parameters and conditions -/

instance {α : Type} (elements : Reader (List α × Bool)) [Writes elements] :
    Writes (afterColon elements) := by
  unfold afterColon
  infer_instance

instance {α : Type} (bound : Reader α) [Writes bound] : Writes (parameterBounds bound) := by
  unfold parameterBounds
  infer_instance

instance : Writes (constantDefault rules) := by
  unfold constantDefault
  infer_instance

instance : Writes (parameter rules) := by
  unfold parameter
  infer_instance

instance : Writes (declaredParameter rules) := by
  unfold declaredParameter
  infer_instance

instance : Writes (parameters rules) := by
  unfold parameters
  infer_instance

instance : Writes (binder rules) := by
  have h_element : Writes (do
      let .mk _ phrase ← parameter rules
      emit phrase) := by
    refine .bind inferInstance fun ⟨argument, h_argument⟩ => ?_
    cases argument with
    | mk kind phrase =>
      have h_phrase : Sound phrase := ⟨h_argument⟩
      exact inferInstanceAs (Writes (emit phrase))
  unfold binder
  infer_instance

instance : Writes (binder? rules) := by
  unfold binder?
  infer_instance

instance (plus : Bool) : Writes (resultType rules plus) := by
  unfold resultType
  infer_instance

instance : Writes (parenthesizedArguments rules) := by
  unfold parenthesizedArguments
  infer_instance

/-- The last segment keeps its name. -/
instance (path : Path) (phrase : Phrase) [Sound path] [Sound phrase] :
    Sound (withParenthesized path phrase) where
  holds := by
    have h_path := Sound.writable path
    unfold withParenthesized
    split
    next last h_last =>
      intro segment h_segment
      rcases List.mem_append.mp h_segment with h_segment | h_segment
      · exact h_path segment (List.dropLast_subset _ h_segment)
      · rw [List.mem_singleton.mp h_segment]
        exact ⟨(h_path last (List.mem_of_getLast? h_last)).1, Sound.writable phrase⟩
    next => exact h_path

instance : Writes (traitPath rules) := by
  unfold traitPath
  infer_instance

instance (form : BoundForm) : Writes (traitBound rules form) := by
  unfold traitBound
  infer_instance

instance : Writes captureList := by
  unfold captureList
  infer_instance

instance (form : BoundForm) : Writes (bound rules form) := by
  unfold bound
  infer_instance

instance (form : BoundForm) (plus : Bool) (limit : Nat) :
    Writes (boundsWithin rules form plus limit) := by
  induction limit with
  | zero => exact inferInstanceAs (Writes failure)
  | succ limit ih =>
    unfold boundsWithin
    infer_instance

instance (form : BoundForm) (plus : Bool) : Writes (objectBounds rules form plus) := by
  unfold objectBounds
  infer_instance

instance (element : Reader Unit) [Writes element] (limit : Nat) :
    Writes (sumOf element limit) := by
  induction limit with
  | zero => exact inferInstanceAs (Writes failure)
  | succ limit ih =>
    unfold sumOf
    infer_instance

instance : Writes (boundsOfCondition rules) := by
  unfold boundsOfCondition
  infer_instance

instance : Writes (condition rules) := by
  unfold condition
  infer_instance

instance (limit : Nat) : Writes (conditionsWithin rules limit) := by
  induction limit with
  | zero => exact inferInstanceAs (Writes failure)
  | succ limit ih =>
    unfold conditionsWithin
    infer_instance

instance : Writes (conditions rules) := by
  unfold conditions
  infer_instance

/-! ## Types -/

instance (limit : Nat) : Writes (moreBounds rules limit) := by
  induction limit with
  | zero => exact inferInstanceAs (Writes failure)
  | succ limit ih =>
    unfold moreBounds
    infer_instance

instance : Writes (tupleContents rules) := by
  unfold tupleContents
  infer_instance

instance (phrase : Phrase) [Sound phrase] : Sound (withoutInnerParentheses phrase) where
  holds := by
    have h_phrase := Sound.writable phrase
    unfold withoutInnerParentheses
    split
    next inner => exact .append (TokenTree.Writable.inside h_phrase) .nil
    next => exact h_phrase

instance (plus : Bool) : Writes (parenthesizedType rules plus) := by
  refine .bind inferInstance fun ⟨trees, _⟩ => ?_
  dsimp only
  split <;> infer_instance

instance : Writes linkage? := by
  unfold linkage?
  infer_instance

instance (first : Bool) : Writes (pointerParameter rules first) := by
  unfold pointerParameter
  infer_instance

instance (first : Bool) (limit : Nat) : Writes (pointerParameters rules first limit) := by
  induction limit generalizing first with
  | zero => exact inferInstanceAs (Writes failure)
  | succ limit ih =>
    unfold pointerParameters
    infer_instance

instance : Writes (functionPointer rules) := by
  unfold functionPointer
  infer_instance

instance (limit : Nat) : Writes (boundSum rules limit) := by
  induction limit with
  | zero => exact inferInstanceAs (Writes failure)
  | succ limit ih =>
    unfold boundSum
    infer_instance

instance (plus : Bool) (binder : Phrase) [Sound binder] : Writes (pathType rules plus binder) := by
  refine .bind inferInstance fun ⟨⟨found, phrase⟩, h_found, h_phrase⟩ => ?_
  have : Sound phrase := ⟨h_phrase⟩
  cases found <;> exact inferInstance

instance : Writes builtin := by
  unfold builtin
  infer_instance

instance : Writes (reference rules) := by
  unfold reference
  infer_instance

instance : Writes (rawPointer rules) := by
  unfold rawPointer
  infer_instance

instance : Writes (sliceOrArray rules) := by
  unfold sliceOrArray
  infer_instance

instance (plus : Bool) : Writes (objectType rules plus) := by
  unfold objectType
  infer_instance

instance (plus : Bool) : Writes (boundType rules plus) := by
  unfold boundType
  infer_instance

instance (plus : Bool) : Writes (simpleType rules plus) := by
  unfold simpleType
  infer_instance

instance (plus : Bool) : Writes (type rules plus) := by
  unfold type
  infer_instance

instance (index : Nat) : Sound (indexToken index) where
  holds := .literal (Lexer.standsFree_index index)

instance : Writes fieldName := by
  refine writes_upcoming fun trees read value behind h_trees h_read => ?_
  split at h_read
  next text rest =>
    cases h_index : fieldIndex? text.toList with
    | none =>
      rw [h_index] at h_read
      cases h_read
    | some index =>
      rw [h_index] at h_read
      cases h_read
      exact .of_read trivial h_trees.singleton_literal rfl (Sound.writable [indexToken index])
  next => exact wrote (do let _ ← ident; return true) h_read h_trees

/-! ## Patterns -/

instance : Writes (constantBlock rules) := by
  unfold constantBlock
  infer_instance

instance : Writes (rangeEnd? rules) := by
  unfold rangeEnd?
  infer_instance

instance : Writes rangeDots := by
  have h_dots : ∀ c ∈ "...".toList, isPlainPunct c = true := by decide
  have h_closed : ∀ c ∈ "..=".toList, isPlainPunct c = true := by decide
  refine writes_upcoming fun trees read value behind h_trees h_read => ?_
  by_cases h_op : Ahead.op "..." trees = true
  · rw [if_pos h_op] at h_read
    cases h_read
    exact .of_read trivial (writable_take_of_isOp h_op h_dots) (List.take_append_drop 3 _).symm
      (sound_map_token (writable_operatorTokens h_closed))
  · rw [if_neg h_op] at h_read
    exact wrote (do
      if ← op? "..=" then return true
      op ".."
      return false) h_read h_trees

instance : Writes (rangeRest rules) := by
  unfold rangeRest
  infer_instance

instance : Writes (rangeToEnd rules) := by
  unfold rangeToEnd
  infer_instance

instance : Writes (fieldPattern rules) := by
  unfold fieldPattern
  infer_instance

instance (limit : Nat) : Writes (fieldPatterns rules limit) := by
  induction limit with
  | zero => exact inferInstanceAs (Writes failure)
  | succ limit ih =>
    unfold fieldPatterns
    infer_instance

instance : Writes (elementPattern rules) := by
  unfold elementPattern
  infer_instance

instance : Writes (pathPattern rules) := by
  unfold pathPattern
  infer_instance

instance : Writes (bindingPattern rules) := by
  unfold bindingPattern
  infer_instance

instance : Writes (literalPattern rules) := by
  unfold literalPattern
  infer_instance

instance : Writes (simplePattern rules) := by
  unfold simplePattern
  infer_instance

instance : Writes (singlePattern rules) := by
  unfold singlePattern
  infer_instance

instance (alternatives : Bool) : Writes (pattern rules alternatives) := by
  unfold pattern
  infer_instance

/-! ## Statements and blocks -/

instance : Writes (letStatement rules) := by
  unfold letStatement
  infer_instance

instance (attributes expression : Phrase) (shape : Shape) [Sound attributes] [Sound expression] :
    Sound (attributed attributes shape expression) := by
  unfold attributed
  cases shape <;> infer_instance

instance (attributes : Phrase) [Sound attributes] :
    Writes (expressionStatement rules attributes) := by
  unfold expressionStatement
  infer_instance

-- An item is read from the beginning again, with its attributes.
instance : Writes (statement rules) where
  wrote {before value behind} h_before h_read := by
    obtain ⟨_, _, h_beginning, h_read⟩ := bind_eq_some.mp h_read
    cases h_beginning
    obtain ⟨attributes, cursor, h_attributes, h_read⟩ := bind_eq_some.mp h_read
    have h_wrote := wrote _ h_attributes h_before
    have h_cursor := h_wrote.writable h_before
    have : Sound attributes := ⟨h_wrote.value⟩
    obtain ⟨trees, _, h_trees, h_read⟩ := bind_eq_some.mp h_read
    cases h_trees
    split at h_read
    · exact h_wrote.trans (wrote (do
        emit attributes
        let _ ← plainPath
        op "!"
        let _ ← rawGroup
        let _ ← op? ";"
        return Shape.block) h_read h_cursor)
    · split at h_read
      · exact h_wrote.trans (wrote (do
          emit attributes
          letStatement rules
          return Shape.block) h_read h_cursor)
      · split at h_read
        · exact wrote (do
            let _ ← rules.item
            return Shape.block) h_read h_before
        · exact h_wrote.trans (wrote (expressionStatement rules attributes) h_read h_cursor)

instance : Writes (statements rules) := by
  unfold statements
  infer_instance

instance (inner : Bool) : Writes (block rules inner) := by
  unfold block
  infer_instance

/-! ## Operators -/

instance : Writes (cast rules) := by
  unfold cast
  infer_instance

instance : Writes rangeLimits := by
  unfold rangeLimits
  infer_instance

theorem writable_slash : Writable [.punct '/' false] :=
  ⟨⟨by decide, nofun, nofun⟩, trivial⟩

/-- A division is written together with what it divides by. -/
theorem writes_slash {α : Type} [Content α] {next : Reader α} [Writes next] [Consumes next] :
    Writes (op "/" >>= fun _ => next) where
  wrote {before value behind} h_before h_read := by
    obtain ⟨_, cursor, h_op, h_read⟩ := bind_eq_some.mp h_read
    obtain ⟨trees, read⟩ := before
    unfold op at h_op
    obtain ⟨_, _, h_upcoming, h_op⟩ := bind_eq_some.mp h_op
    cases h_upcoming
    by_cases h_ahead : Ahead.op "/" trees = true
    · rw [if_pos h_ahead] at h_op
      cases h_op
      obtain ⟨joint, rest, rfl⟩ := exists_of_isOp (c := '/') h_ahead
      have h_wrote := wrote next h_read h_before.tail
      have h_shorter := length_lt next h_read
      obtain ⟨front, h_front, h_rest⟩ := h_wrote.front
      obtain ⟨phrase, h_phrase, h_eq⟩ := h_wrote.phrase
      obtain ⟨tree, more, rfl⟩ : ∃ tree more, front = tree :: more := by
        refine List.exists_cons_of_ne_nil ?_
        rintro rfl
        rw [h_rest] at h_shorter
        exact absurd h_shorter (Nat.lt_irrefl _)
      have h_before : Writable (.punct '/' joint :: (tree :: more ++ behind.rest)) := by
        rw [← h_rest]
        exact h_before
      refine ⟨h_wrote.value, ⟨.punct '/' joint :: tree :: more, h_before.slash h_front, ?_⟩,
        .token (.punct '/' false) :: phrase, writable_slash.append h_phrase, ?_⟩
      · exact congrArg _ h_rest
      · rw [h_eq, List.reverse_cons, List.append_assoc]
        rfl
    · rw [if_neg h_ahead] at h_op
      cases h_op

/-- A slash in front of an equals sign begins no comment. -/
instance : Writes (op "/=") := by
  refine writes_upcoming fun trees read value behind h_trees h_read => ?_
  by_cases h_ahead : Ahead.op "/=" trees = true
  · rw [if_pos h_ahead] at h_read
    cases h_read
    change Ahead.isOp ['/', '='] trees = true at h_ahead
    unfold Ahead.isOp at h_ahead
    split at h_ahead
    next h_cs => cases h_cs
    next d rest h_cs =>
      cases h_cs
      rw [Bool.and_eq_true, beq_iff_eq] at h_ahead
      obtain ⟨rfl, h_ahead⟩ := h_ahead
      obtain ⟨joint, rest, rfl⟩ := exists_of_isOp h_ahead
      have h_front : ∀ joint, Writable [.punct '/' true, .punct '=' joint] := fun joint =>
        ⟨⟨by decide, nofun, fun _ _ => ⟨.punct '=' joint, [], rfl, by decide, by decide⟩⟩,
          ⟨by decide, nofun, nofun⟩, trivial⟩
      exact .of_read trivial (h_front joint) rfl (sound_map_token (h_front false))
    next => cases h_ahead
  · rw [if_neg h_ahead] at h_read
    cases h_read

/-- The operators whose right operand is no type and may not be left out. -/
theorem text_of_operatorAhead? {trees : List TokenTree} {operator : Operator}
    (h_operator : operatorAhead? trees = some operator) (h_range : operator.strength ≠ .range)
    (h_cast : operator.strength ≠ .cast) :
    operator.text = "/" ∨ operator.text = "/=" ∨ operator.text.toList.all isPlainPunct = true := by
  have h_all : ∀ operator ∈ binaryOperators, operator.text = "/" ∨ operator.text = "/=" ∨
      operator.text.toList.all isPlainPunct = true := by
    decide
  unfold operatorAhead? at h_operator
  split at h_operator
  next h_find =>
    cases h_operator
    exact h_all _ (List.mem_of_find?_eq_some h_find)
  next =>
    split at h_operator
    · cases h_operator
      exact .inr (.inr (by decide))
    · split at h_operator
      · cases h_operator
        exact absurd rfl h_range
      · rw [Option.ite_none_right_eq_some] at h_operator
        cases h_operator.2
        exact absurd rfl h_cast

theorem writes_operator {α : Type} [Content α] {trees : List TokenTree} {operator : Operator}
    (h_operator : operatorAhead? trees = some operator) (h_range : operator.strength ≠ .range)
    (h_cast : operator.strength ≠ .cast) (next : Reader α) [Writes next] [Consumes next] :
    Writes (op operator.text >>= fun _ => next) := by
  rcases text_of_operatorAhead? h_operator h_range h_cast with h_text | h_text | h_plain
  · rw [h_text]
    exact writes_slash
  · rw [h_text]
    infer_instance
  · have : IsOperator operator.text := ⟨h_plain⟩
    infer_instance

theorem writes_operators (limit : Nat) :
    (∀ structs base shape, Writes (operatorsWithin rules structs base shape limit)) ∧
    (∀ structs strength, Writes (rightOperand rules structs strength limit)) ∧
    (∀ structs strength shape, Writes (tighterOperators rules structs strength shape limit)) ∧
    ∀ structs, Writes (rangeBehind rules structs limit) := by
  induction limit with
  | zero =>
    unfold operatorsWithin rightOperand tighterOperators rangeBehind
    refine ⟨?_, ?_, ?_, ?_⟩ <;> infer_instance
  | succ limit ih =>
    obtain ⟨h_operators, h_operand, h_tighter, h_range⟩ := ih
    refine ⟨fun structs base shape => ?_, fun structs strength => ?_,
      fun structs strength shape => ?_, fun structs => ?_⟩
    · rw [operatorsWithin.eq_2]
      refine .bind inferInstance fun trees => ?_
      split
      · infer_instance
      next operator h_operator =>
        dsimp only
        split
        · infer_instance
        · split
          next h_strength => infer_instance
          next h_strength => infer_instance
          next h_strength =>
            have h_next := writes_operator h_operator (h_strength.trans_ne (by decide))
              (h_strength.trans_ne (by decide)) (do
                rightOperand rules structs .comparison limit
                operatorsWithin rules structs base .comparison limit)
            infer_instance
          next h_range h_cast h_comparison =>
            exact writes_operator h_operator h_range h_cast _
    · rw [rightOperand.eq_2]
      infer_instance
    · rw [tighterOperators.eq_2]
      infer_instance
    · rw [rangeBehind.eq_2]
      infer_instance

instance (structs : Bool) (base : Strength) (shape : Shape) (limit : Nat) :
    Writes (operatorsWithin rules structs base shape limit) :=
  (writes_operators rules limit).1 structs base shape

instance (structs : Bool) (limit : Nat) : Writes (rangeBehind rules structs limit) :=
  (writes_operators rules limit).2.2.2 structs

instance : Writes stepLimit := by
  unfold stepLimit
  infer_instance

instance (structs : Bool) (base : Strength) (shape : Shape) :
    Writes (operators rules structs base shape) := by
  unfold operators
  infer_instance

instance (structs : Bool) : Writes (range rules structs) := by
  unfold range
  infer_instance

/-! ## Expressions -/

instance : Writes (conditionExpression rules) := by
  unfold conditionExpression
  infer_instance

instance : Writes (structField rules) := by
  unfold structField
  infer_instance

instance (limit : Nat) : Writes (structFields rules limit) := by
  induction limit with
  | zero => exact inferInstanceAs (Writes failure)
  | succ limit ih =>
    unfold structFields
    infer_instance

instance (structs : Bool) : Writes (pathExpression rules structs) := by
  unfold pathExpression
  infer_instance

instance : Writes (parenthesizedExpression rules) := by
  unfold parenthesizedExpression
  infer_instance

instance : Writes (arrayExpression rules) := by
  unfold arrayExpression
  infer_instance

instance : Writes (closureParameter rules) := by
  unfold closureParameter
  infer_instance

instance (structs : Bool) : Writes (closure rules structs) := by
  unfold closure
  infer_instance

instance : Writes (matchArm rules) := by
  unfold matchArm
  infer_instance

instance (limit : Nat) : Writes (ifExpression rules limit) := by
  induction limit with
  | zero => exact inferInstanceAs (Writes failure)
  | succ limit ih =>
    unfold ifExpression
    infer_instance

instance : Writes (matchExpression rules) := by
  unfold matchExpression
  infer_instance

instance : Writes (loopOrBlock rules) := by
  unfold loopOrBlock
  infer_instance

instance : Writes (labeledExpression rules) := by
  unfold labeledExpression
  infer_instance

instance : Writes (blockExpression rules) := by
  unfold blockExpression
  infer_instance

instance : Writes (optionalValue rules) := by
  unfold optionalValue
  infer_instance

instance (structs : Bool) : Writes (breakTarget rules structs) := by
  unfold breakTarget
  infer_instance

instance (structs : Bool) : Writes (letCondition rules structs) := by
  unfold letCondition
  infer_instance

instance (structs : Bool) : Writes (keywordExpression rules structs) := by
  unfold keywordExpression
  infer_instance

instance (structs : Bool) : Writes (atom rules structs) := by
  unfold atom
  infer_instance

theorem sound_of_indexTokens? {numbers : List (List Char)} {phrase : List Fragment}
    (h_phrase : indexTokens? numbers = some phrase) : Sound phrase := by
  fun_induction indexTokens? numbers generalizing phrase
  case case1 =>
    cases h_phrase
    exact inferInstance
  case case2 last =>
    obtain ⟨index, -, rfl⟩ := Option.map_eq_some_iff.mp h_phrase
    exact inferInstance
  case case3 first rest _ index others h_others h_index ih =>
    cases h_phrase
    have := ih h_others
    have h_point : Sound (Fragment.token (.punct '.' false)) := ⟨.punct (by decide)⟩
    exact inferInstance
  case case4 => cases h_phrase

instance : Writes indices? := by
  have h_point : Sound (Fragment.token (.punct '.' false)) := ⟨.punct (by decide)⟩
  refine writes_upcoming fun trees read value behind h_trees h_read => ?_
  split at h_read
  next text rest =>
    dsimp only at h_read
    split at h_read
    · cases h_read
      exact .of_eq nofun
    · generalize h_fragments : indexTokens? _ = fragments at h_read
      cases fragments with
      | none => cases h_read
      | some fragments =>
        have := sound_of_indexTokens? h_fragments
        cases h_read
        exact .of_read (fun _ _ => trivial) h_trees.singleton_literal rfl (Sound.writable _)
  next =>
    cases h_read
    exact .of_eq nofun

instance : Writes (namedMember rules) := by
  unfold namedMember
  infer_instance

instance : Writes (member rules) := by
  refine .bind inferInstance fun found => ?_
  split <;> infer_instance

instance (shape : Shape) : Writes (trailer rules shape) := by
  unfold trailer
  infer_instance

instance (shape : Shape) (limit : Nat) : Writes (trailersWithin rules shape limit) := by
  induction limit generalizing shape with
  | zero => exact inferInstanceAs (Writes failure)
  | succ limit ih =>
    unfold trailersWithin
    infer_instance

instance (shape : Shape) : Writes (trailers rules shape) := by
  unfold trailers
  infer_instance

instance : Writes referenceOperator := by
  unfold referenceOperator
  infer_instance

instance (structs : Bool) : Writes (bareOperand rules structs) := by
  unfold bareOperand
  infer_instance

instance (structs : Bool) : Writes (operand rules structs) := by
  unfold operand
  infer_instance

instance : Writes (statementExpression rules) := by
  unfold statementExpression
  infer_instance

instance (place : Place) : Writes (expression rules place) := by
  cases place <;> unfold expression <;> infer_instance

/-! ## Declarations -/

instance (nested : Reader Unit) [Writes nested] : Writes (namedField rules nested) := by
  unfold namedField
  infer_instance

instance : Writes (tupleField rules) := by
  unfold tupleField
  infer_instance

instance (limit : Nat) : Writes (namedFieldsWithin rules limit) := by
  induction limit with
  | zero => exact inferInstanceAs (Writes failure)
  | succ limit ih =>
    unfold namedFieldsWithin
    infer_instance

instance : Writes (namedFields rules) := by
  unfold namedFields
  infer_instance

instance : Writes (tupleFields rules) := by
  unfold tupleFields
  infer_instance

instance : Writes (structBody rules) := by
  unfold structBody
  infer_instance

instance : Writes (variant rules) := by
  unfold variant
  infer_instance

instance (attributes : List Attribute) (visibility : Visibility) :
    Writes (typeDeclaration rules attributes visibility) := by
  unfold typeDeclaration
  dsimp only
  repeat' first
    | infer_instance
    | refine .bind ?_ fun _ => ?_
    | split

/-! ## Functions -/

instance (reference mutable : Bool) (lifetime : Phrase) [Sound lifetime] :
    Sound (selfType reference lifetime mutable) := by
  have h_self : Sound "Self" := ⟨.plainWord rfl (by decide +kernel)⟩
  have h_mut : Sound "mut" := ⟨.plainWord rfl (by decide +kernel)⟩
  have h_mark : Sound (Fragment.token (.punct '&' false)) := ⟨.punct (by decide)⟩
  unfold selfType
  infer_instance

instance : Writes (receiver rules) := by
  unfold receiver
  infer_instance

instance : Writes (typedParameter rules) := by
  have h_name : Sound "_" := ⟨.plainWord rfl (by decide +kernel)⟩
  have h_colon : Sound (Fragment.token (.punct ':' false)) := ⟨.punct (by decide)⟩
  unfold typedParameter
  infer_instance

instance : Writes (functionParameter rules) := by
  unfold functionParameter
  infer_instance

instance (first : Bool) (limit : Nat) : Writes (functionParameters rules first limit) := by
  induction limit generalizing first with
  | zero => exact inferInstanceAs (Writes failure)
  | succ limit ih =>
    unfold functionParameters
    infer_instance

instance (safe : Bool) : Writes (signature rules safe) := by
  unfold signature
  infer_instance

instance : Writes (functionItem rules) := by
  unfold functionItem
  infer_instance

/-! ## Imports -/

instance (rooted : Bool) (limit : Nat) : Writes (useTree rooted limit) := by
  induction limit generalizing rooted with
  | zero => exact inferInstanceAs (Writes failure)
  | succ limit ih =>
    unfold useTree
    infer_instance

instance : Writes useItem := by
  unfold useItem
  infer_instance

/-! ## Members -/

instance : Writes (constantItem rules) := by
  unfold constantItem
  infer_instance

instance : Writes (staticItem rules) := by
  unfold staticItem
  infer_instance

instance (form : AliasForm) : Writes (typeItem rules form) := by
  unfold typeItem
  infer_instance

instance : Writes macroGroup := by
  unfold macroGroup
  infer_instance

instance : Writes memberMacro := by
  unfold memberMacro
  infer_instance

instance : Writes macroItem := by
  unfold macroItem
  infer_instance

instance : Writes macroDefinition := by
  unfold macroDefinition
  infer_instance

instance : Writes (traitMember rules) := by
  unfold traitMember
  infer_instance

instance : Writes (implementationMember rules) := by
  unfold implementationMember
  infer_instance

instance : Writes (foreignStatic rules) := by
  unfold foreignStatic
  infer_instance

instance : Writes (foreignFunction rules) := by
  unfold foreignFunction
  infer_instance

instance : Writes (foreignMember rules) := by
  unfold foreignMember
  infer_instance

instance (member : Reader Bool) [Writes member] : Writes (members rules member) := by
  unfold members
  infer_instance

instance : Writes (traitItem rules) := by
  unfold traitItem
  infer_instance

instance : Writes constantMark? := by
  unfold constantMark?
  infer_instance

instance (inherited : Bool) : Writes (implItem rules inherited) := by
  unfold implItem
  infer_instance

instance : Writes (foreignBlock rules) := by
  unfold foreignBlock
  infer_instance

instance : Writes externCrate := by
  unfold externCrate
  infer_instance

/-! ## Items -/

instance (limit : Nat) : Writes (itemsWithin rules limit) := by
  induction limit with
  | zero => exact inferInstanceAs (Writes failure)
  | succ limit ih =>
    unfold itemsWithin
    infer_instance

instance : Writes (items rules) := by
  unfold items
  infer_instance

instance (attributes : List Attribute) : Writes (moduleItem rules attributes) := by
  unfold moduleItem
  infer_instance

instance (reader : Reader Unit) [Writes reader] : Writes (other reader) := by
  unfold other
  infer_instance

instance (reader : Reader Bool) [Writes reader] : Writes (perhapsRaw reader) := by
  unfold perhapsRaw
  infer_instance

instance (inherited : Bool) : Writes (externItem rules inherited) := by
  unfold externItem
  infer_instance

instance (attributes : List Attribute) (inherited : Bool) :
    Writes (unsafeItem rules attributes inherited) := by
  unfold unsafeItem
  infer_instance

instance : Writes (valueItem rules) := by
  unfold valueItem
  infer_instance

instance (attributes : List Attribute) : Writes (itemBody rules attributes) := by
  unfold itemBody
  infer_instance

instance : Writes (item rules) := by
  unfold item
  infer_instance

end Grammar

namespace Rules

instance : Rules.none.Write where
  typeForm _ := inferInstanceAs (Writes failure)
  bound _ := inferInstanceAs (Writes failure)
  patternForm _ := inferInstanceAs (Writes failure)
  expression _ := inferInstanceAs (Writes failure)
  operand _ := inferInstanceAs (Writes failure)
  block _ := inferInstanceAs (Writes failure)
  item := inferInstanceAs (Writes failure)

instance (rules : Rules) [rules.Write] [rules.Advance] [rules.Consume] : rules.deeper.Write where
  typeForm plus := inferInstanceAs (Writes (Grammar.type rules plus))
  bound form := inferInstanceAs (Writes (Grammar.bound rules form))
  patternForm alternatives := inferInstanceAs (Writes (Grammar.pattern rules alternatives))
  expression place := inferInstanceAs (Writes (Grammar.expression rules place))
  operand structs := inferInstanceAs (Writes (Grammar.operand rules structs))
  block inner := inferInstanceAs (Writes (Grammar.block rules inner))
  item := inferInstanceAs (Writes (Grammar.item rules))

instance (depth : Nat) : (Rules.upTo depth).Write := by
  induction depth with
  | zero => exact inferInstanceAs Rules.none.Write
  | succ depth ih => exact inferInstanceAs (Rules.upTo depth).deeper.Write

end Rules

/-! ## Parsing -/

/-- What is read of trees that can be written can be written. -/
theorem writable_of_read? {α : Type} [Content α] {reader : Rules → Reader α}
    (h_reader : ∀ depth, Writes (reader (Rules.upTo depth))) {trees : List TokenTree} {value : α}
    (h_trees : Writable trees) (h_read : read? reader trees = some value) :
    Content.writable value := by
  unfold read? at h_read
  split at h_read
  next found cursor h_found =>
    split at h_read
    · cases h_read
      have : Writes (reader (Rules.for trees)) := h_reader _
      exact (wrote (reader (Rules.for trees)) h_found h_trees).value
    · cases h_read
  next => cases h_read

/-- The tokens of a type that was parsed can be written. -/
theorem writable_of_parseType? {text : String} {type : Phrase} (h_type : parseType? text = some type) :
    Writable type.tokens := by
  obtain ⟨trees, h_trees, h_read⟩ := Option.bind_eq_some_iff.mp h_type
  exact writable_of_read? (fun depth => inferInstance) (Lexer.writable_of_trees? h_trees) h_read

end FieldDelta.Syntax
