import FieldDelta.Syntax.Parse

/-! # Readers go forward

Whatever a reader of the grammar does, it leaves an end of the trees that it was given.  Being
such a reader is a class, so that it is found for a reader from its parts.
-/

namespace FieldDelta.Syntax

namespace Reader

/-- The reader leaves an end of the trees that it is given. -/
class Advances {α : Type} (reader : Reader α) : Prop where
  suffix : ∀ {before : Cursor} {value : α} {behind : Cursor},
    reader before = some (value, behind) → behind.rest <:+ before.rest

variable {α β : Type}

theorem rest_suffix (reader : Reader α) [Advances reader] {before : Cursor} {value : α}
    {behind : Cursor} (h_read : reader before = some (value, behind)) :
    behind.rest <:+ before.rest :=
  Advances.suffix h_read

/-! ## Combinators -/

theorem bind_eq_some {first : Reader α} {next : α → Reader β} {before : Cursor}
    {result : β × Cursor} :
    (first >>= next) before = some result ↔
      ∃ value cursor, first before = some (value, cursor) ∧ next value cursor = some result := by
  change ((first before).bind fun found => next found.1 found.2) = some result ↔ _
  rw [Option.bind_eq_some_iff]
  exact ⟨fun ⟨found, h_first, h_next⟩ => ⟨found.1, found.2, h_first, h_next⟩,
    fun ⟨value, cursor, h_first, h_next⟩ => ⟨(value, cursor), h_first, h_next⟩⟩

instance (value : α) : Advances (pure value : Reader α) where
  suffix h_read := by
    cases h_read
    exact List.suffix_refl _

instance : Advances (failure : Reader α) where
  suffix := nofun

instance (first : Reader α) (next : α → Reader β) [Advances first] [∀ value, Advances (next value)] :
    Advances (first >>= next) where
  suffix h_read := by
    obtain ⟨value, cursor, h_first, h_next⟩ := bind_eq_some.mp h_read
    exact (rest_suffix _ h_next).trans (rest_suffix _ h_first)

theorem Advances.bind {first : Reader α} {next : α → Reader β} (h_first : Advances first)
    (h_next : ∀ value, Advances (next value)) : Advances (first >>= next) :=
  inferInstance

instance (f : α → β) (reader : Reader α) [Advances reader] : Advances (f <$> reader) where
  suffix h_read := by
    rw [← bind_pure_comp] at h_read
    obtain ⟨value, cursor, h_first, h_next⟩ := bind_eq_some.mp h_read
    cases h_next
    exact rest_suffix reader h_first

instance (first second : Reader α) [Advances first] [Advances second] :
    Advances (first <|> second) where
  suffix {before value behind} h_read := by
    change (first before <|> second before) = some (value, behind) at h_read
    cases h_first : first before with
    | none =>
      rw [h_first] at h_read
      exact rest_suffix second h_read
    | some found =>
      rw [h_first] at h_read
      cases h_read
      exact rest_suffix first h_first

instance (c : Prop) [Decidable c] (first second : Reader α) [Advances first] [Advances second] :
    Advances (if c then first else second) := by
  split <;> infer_instance

/-! ## Questions and fragments -/

instance : Advances upcoming where
  suffix h_read := by
    cases h_read
    exact List.suffix_refl _

instance (question : List TokenTree → Bool) : Advances (ahead question) where
  suffix h_read := by
    cases h_read
    exact List.suffix_refl _

instance : Advances atEnd :=
  inferInstanceAs (Advances (ahead _))

instance (fragments : List Fragment) : Advances (emit fragments) where
  suffix h_read := by
    cases h_read
    exact List.suffix_refl _

theorem captured_eq_some {reader : Reader α} {before : Cursor} {value : α} {phrase : Phrase}
    {behind : Cursor} :
    captured reader before = some ((value, phrase), behind) ↔
      ∃ cursor, reader { before with read := [] } = some (value, cursor) ∧
        phrase = cursor.read.reverse ∧ behind = { cursor with read := before.read } := by
  change ((reader { before with read := [] }).bind fun found =>
    some ((found.1, found.2.read.reverse), { found.2 with read := before.read })) = _ ↔ _
  rw [Option.bind_eq_some_iff]
  constructor
  · rintro ⟨⟨value', cursor⟩, h_read, h_found⟩
    cases h_found
    exact ⟨cursor, h_read, rfl, rfl⟩
  · rintro ⟨cursor, h_read, rfl, rfl⟩
    exact ⟨(value, cursor), h_read, rfl⟩

instance (reader : Reader α) [Advances reader] : Advances (captured reader) where
  suffix {_ value _} h_read := by
    obtain ⟨value, phrase⟩ := value
    obtain ⟨cursor, h_inner, -, rfl⟩ := captured_eq_some.mp h_read
    have h_suffix := rest_suffix reader h_inner
    exact h_suffix

theorem Advances.captured {reader : Reader α} (h_reader : Advances reader) :
    Advances (captured reader) :=
  inferInstance

instance (reader : Reader Unit) [Advances reader] : Advances (phraseOf reader) := by
  unfold phraseOf
  infer_instance

instance (reader : Reader α) [Advances reader] : Advances (construct reader) := by
  unfold construct
  infer_instance

instance (turn : Turn) (reader : Reader α) [Advances reader] : Advances (inTurn turn reader) := by
  unfold inTurn
  infer_instance

instance (reader : Reader (α × Bool)) [Advances reader] : Advances (rawWhen reader) := by
  unfold rawWhen
  infer_instance

instance (reader : Reader Bool) [Advances reader] : Advances (rawIf reader) := by
  unfold rawIf
  infer_instance

instance (reader : Reader α) [Advances reader] : Advances (raw reader) := by
  unfold raw
  infer_instance

instance (trees : List TokenTree) (reader : Reader α) : Advances (within trees reader) := by
  unfold within
  split <;> infer_instance

/-! ## Tokens and groups -/

/-- A reader that begins by looking at the trees to come leaves an end of them, if what it does
    with them there does. -/
theorem advances_upcoming {next : List TokenTree → Reader α}
    (h_next : ∀ trees read value behind, next trees { rest := trees, read := read } =
      some (value, behind) → behind.rest <:+ trees) : Advances (upcoming >>= next) where
  suffix h_read := h_next _ _ _ _ h_read

instance (text : String) : Advances (op text) := by
  refine advances_upcoming fun trees read value behind h_read => ?_
  split at h_read
  · cases h_read
    exact List.drop_suffix _ _
  · cases h_read

instance (text : String) : Advances (op? text) := by
  unfold op?
  infer_instance

instance (p : String → Bool) : Advances (wordWith p) := by
  refine advances_upcoming fun trees read value behind h_read => ?_
  split at h_read
  next text rest =>
    split at h_read
    · cases h_read
      exact List.suffix_cons ..
    · cases h_read
  next => cases h_read

instance (text : String) : Advances (word text) := by
  unfold word
  infer_instance

instance (text : String) : Advances (word? text) := by
  unfold word?
  infer_instance

instance : Advances ident := by
  unfold ident
  infer_instance

instance : Advances anyIdent := by
  unfold anyIdent
  infer_instance

instance : Advances lifetime := by
  refine advances_upcoming fun trees read value behind h_read => ?_
  split at h_read
  next joint text rest =>
    cases h_read
    exact (List.suffix_cons ..).trans (List.suffix_cons ..)
  next => cases h_read

instance : Advances literal := by
  refine advances_upcoming fun trees read value behind h_read => ?_
  split at h_read
  next text rest =>
    cases h_read
    exact List.suffix_cons ..
  next text rest =>
    split at h_read
    · cases h_read
      exact List.suffix_cons ..
    · cases h_read
  next joint text rest =>
    split at h_read
    · cases h_read
      exact (List.suffix_cons ..).trans (List.suffix_cons ..)
    · cases h_read
  next => cases h_read

instance (delimiter : Delimiter) (reader : Reader α) : Advances (group delimiter reader) := by
  refine advances_upcoming fun trees read value behind h_read => ?_
  split at h_read
  next found inner rest =>
    split at h_read
    · obtain ⟨_, cursor, -, h_read⟩ := bind_eq_some.mp h_read
      cases h_read
      exact List.suffix_cons ..
    · cases h_read
  next => cases h_read

instance : Advances rawGroup := by
  refine advances_upcoming fun trees read value behind h_read => ?_
  split at h_read
  next delimiter inner rest =>
    cases h_read
    exact List.suffix_cons ..
  next => cases h_read

/-! ## Repetition -/

instance (step : Reader Bool) [Advances step] (bound : Nat) : Advances (repeatWithin step bound) := by
  induction bound with
  | zero => exact inferInstanceAs (Advances failure)
  | succ bound ih =>
    unfold repeatWithin
    infer_instance

instance (step : Reader Bool) [Advances step] : Advances (repeatedly step) := by
  unfold repeatedly
  infer_instance

instance (separator : String) (stop : List TokenTree → Bool) (element : Reader α)
    [Advances element] (bound : Nat) : Advances (listWithin separator stop element bound) := by
  induction bound with
  | zero => exact inferInstanceAs (Advances failure)
  | succ bound ih =>
    unfold listWithin
    infer_instance

instance (separator : String) (stop : List TokenTree → Bool) (element : Reader α)
    [Advances element] : Advances (listOf separator stop element) := by
  unfold listOf
  infer_instance

theorem Advances.listOf {separator : String} {stop : List TokenTree → Bool} {element : Reader α}
    (h_element : Advances element) : Advances (listOf separator stop element) :=
  inferInstance

instance (element : Reader α) [Advances element] : Advances (commaList element) := by
  unfold commaList
  infer_instance

end Reader

/-! ## The knots -/

open Reader

/-- All readers among the rules go forward. -/
class Rules.Advance (rules : Rules) : Prop where
  typeForm : ∀ plus, Advances (rules.typeForm plus)
  bound : ∀ form, Advances (rules.bound form)
  patternForm : ∀ alternatives, Advances (rules.patternForm alternatives)
  expression : ∀ place, Advances (rules.expression place)
  operand : ∀ structs, Advances (rules.operand structs)
  block : ∀ inner, Advances (rules.block inner)
  item : Advances rules.item

namespace Grammar

-- Readers are put together from many parts.
set_option synthInstance.maxSize 1000000000

variable (rules : Rules) [rules.Advance]

instance (plus : Bool) : Advances (rules.typeForm plus) :=
  Rules.Advance.typeForm plus

instance (form : BoundForm) : Advances (rules.bound form) :=
  Rules.Advance.bound form

instance (alternatives : Bool) : Advances (rules.patternForm alternatives) :=
  Rules.Advance.patternForm alternatives

instance (place : Place) : Advances (rules.expression place) :=
  Rules.Advance.expression place

instance (structs : Bool) : Advances (rules.operand structs) :=
  Rules.Advance.operand structs

instance (inner : Bool) : Advances (rules.block inner) :=
  Rules.Advance.block inner

instance : Advances rules.item :=
  Rules.Advance.item

instance (plus : Bool) : Advances (rules.type plus) := by
  unfold Rules.type
  infer_instance

instance (alternatives : Bool) : Advances (rules.pattern alternatives) := by
  unfold Rules.pattern
  infer_instance

instance : Advances rules.value := by
  unfold Rules.value
  infer_instance

/-! ## Paths -/

instance : Advances (constantArgument rules) := by
  unfold constantArgument
  infer_instance

instance : Advances (constraintBounds rules) := by
  unfold constraintBounds
  infer_instance

instance : Advances (associatedRest rules) := by
  unfold associatedRest
  infer_instance

instance : Advances (genericArgument rules) := by
  unfold genericArgument
  infer_instance

instance : Advances (angleArguments rules) := by
  unfold angleArguments
  infer_instance

instance (style : PathStyle) : Advances (segment rules style) := by
  unfold segment
  infer_instance

instance (style : PathStyle) (limit : Nat) : Advances (moreSegments rules style limit) := by
  induction limit with
  | zero => exact inferInstanceAs (Advances failure)
  | succ limit ih =>
    unfold moreSegments
    infer_instance

instance (style : PathStyle) : Advances (barePath rules style) := by
  unfold barePath
  infer_instance

instance (style : PathStyle) : Advances (path rules style) := by
  unfold path
  infer_instance

instance (style : PathStyle) (limit : Nat) : Advances (qualifiedRest rules style limit) := by
  induction limit with
  | zero => exact inferInstanceAs (Advances failure)
  | succ limit ih =>
    unfold qualifiedRest
    infer_instance

instance (style : PathStyle) : Advances (qualified rules style) := by
  refine .bind (.captured ?_) fun _ => inferInstanceAs (Advances (pure _))
  dsimp only
  repeat' first
    | infer_instance
    | refine .bind ?_ fun _ => ?_
    | split

instance (style : PathStyle) : Advances (qualifiedPath rules style) := by
  unfold qualifiedPath
  infer_instance

instance (limit : Nat) : Advances (plainNames limit) := by
  induction limit with
  | zero => exact inferInstanceAs (Advances failure)
  | succ limit ih =>
    unfold plainNames
    infer_instance

instance : Advances plainPath := by
  unfold plainPath
  infer_instance

/-! ## Attributes and visibilities -/

instance : Advances attributePath := by
  unfold attributePath
  infer_instance

instance : Advances (attributeInput rules) := by
  refine .bind inferInstance fun trees => ?_
  split <;> infer_instance

instance (inner : Bool) : Advances (attributeBody rules inner) := by
  unfold attributeBody
  infer_instance

instance : Advances (outerAttribute rules) := by
  unfold outerAttribute
  infer_instance

instance : Advances (innerAttribute rules) := by
  unfold innerAttribute
  infer_instance

instance (more : List TokenTree → Bool) (element : Reader Attribute) [Advances element] (limit : Nat) :
    Advances (attributesWhile more element limit) := by
  induction limit with
  | zero => exact inferInstanceAs (Advances failure)
  | succ limit ih =>
    unfold attributesWhile
    infer_instance

instance : Advances (outerAttributes rules) := by
  unfold outerAttributes
  infer_instance

instance : Advances (innerAttributes rules) := by
  unfold innerAttributes
  infer_instance

instance : Advances restriction := by
  unfold restriction
  infer_instance

instance : Advances visibility := by
  refine .bind inferInstance fun isPublic => ?_
  cases isPublic with
  | false => exact inferInstanceAs (Advances (pure _))
  | true =>
    refine advances_upcoming fun trees read value behind h_read => ?_
    split at h_read
    next inner rest =>
      generalize (within inner restriction).run { rest := [] } = found at h_read
      split at h_read
      · cases h_read
        exact List.suffix_cons ..
      · cases h_read
        exact List.suffix_refl _
    next =>
      cases h_read
      exact List.suffix_refl _

/-! ## Bounds, parameters and conditions -/

instance {α : Type} (elements : Reader (List α × Bool)) [Advances elements] :
    Advances (afterColon elements) := by
  unfold afterColon
  infer_instance

instance {α : Type} (bound : Reader α) [Advances bound] : Advances (parameterBounds bound) := by
  unfold parameterBounds
  infer_instance

instance : Advances (constantDefault rules) := by
  unfold constantDefault
  infer_instance

instance : Advances (parameter rules) := by
  unfold parameter
  infer_instance

instance : Advances (declaredParameter rules) := by
  unfold declaredParameter
  infer_instance

instance : Advances (parameters rules) := by
  unfold parameters
  infer_instance

instance : Advances (binder rules) := by
  refine .bind inferInstance fun _ => .bind inferInstance fun _ =>
    .bind (.listOf ?_) fun _ => inferInstance
  exact .bind inferInstance fun ⟨_, phrase⟩ => inferInstanceAs (Advances (emit phrase))

instance : Advances (binder? rules) := by
  unfold binder?
  infer_instance

instance (plus : Bool) : Advances (resultType rules plus) := by
  unfold resultType
  infer_instance

instance : Advances (parenthesizedArguments rules) := by
  unfold parenthesizedArguments
  infer_instance

instance : Advances (traitPath rules) := by
  unfold traitPath
  infer_instance

instance (form : BoundForm) : Advances (traitBound rules form) := by
  unfold traitBound
  infer_instance

instance : Advances captureList := by
  unfold captureList
  infer_instance

instance (form : BoundForm) : Advances (bound rules form) := by
  unfold bound
  infer_instance

instance (form : BoundForm) (plus : Bool) (limit : Nat) :
    Advances (boundsWithin rules form plus limit) := by
  induction limit with
  | zero => exact inferInstanceAs (Advances failure)
  | succ limit ih =>
    unfold boundsWithin
    infer_instance

instance (form : BoundForm) (plus : Bool) : Advances (objectBounds rules form plus) := by
  unfold objectBounds
  infer_instance

instance (element : Reader Unit) [Advances element] (limit : Nat) :
    Advances (sumOf element limit) := by
  induction limit with
  | zero => exact inferInstanceAs (Advances failure)
  | succ limit ih =>
    unfold sumOf
    infer_instance

instance : Advances (boundsOfCondition rules) := by
  unfold boundsOfCondition
  infer_instance

instance : Advances (condition rules) := by
  unfold condition
  infer_instance

instance (limit : Nat) : Advances (conditionsWithin rules limit) := by
  induction limit with
  | zero => exact inferInstanceAs (Advances failure)
  | succ limit ih =>
    unfold conditionsWithin
    infer_instance

instance : Advances (conditions rules) := by
  unfold conditions
  infer_instance

/-! ## Types -/

instance (limit : Nat) : Advances (moreBounds rules limit) := by
  induction limit with
  | zero => exact inferInstanceAs (Advances failure)
  | succ limit ih =>
    unfold moreBounds
    infer_instance

instance : Advances (tupleContents rules) := by
  unfold tupleContents
  infer_instance

instance (plus : Bool) : Advances (parenthesizedType rules plus) := by
  unfold parenthesizedType
  dsimp only
  repeat' first
    | infer_instance
    | refine .bind ?_ fun _ => ?_
    | split

instance : Advances linkage? := by
  unfold linkage?
  infer_instance

instance (first : Bool) : Advances (pointerParameter rules first) := by
  unfold pointerParameter
  infer_instance

instance (first : Bool) (limit : Nat) : Advances (pointerParameters rules first limit) := by
  induction limit generalizing first with
  | zero => exact inferInstanceAs (Advances failure)
  | succ limit ih =>
    unfold pointerParameters
    infer_instance

instance : Advances (functionPointer rules) := by
  unfold functionPointer
  infer_instance

instance (limit : Nat) : Advances (boundSum rules limit) := by
  induction limit with
  | zero => exact inferInstanceAs (Advances failure)
  | succ limit ih =>
    unfold boundSum
    infer_instance

instance (plus : Bool) (binder : Phrase) : Advances (pathType rules plus binder) := by
  unfold pathType
  dsimp only
  repeat' first
    | infer_instance
    | refine .bind ?_ fun _ => ?_
    | split

instance : Advances builtin := by
  unfold builtin
  infer_instance

instance : Advances (reference rules) := by
  unfold reference
  infer_instance

instance : Advances (rawPointer rules) := by
  unfold rawPointer
  infer_instance

instance : Advances (sliceOrArray rules) := by
  unfold sliceOrArray
  infer_instance

instance (plus : Bool) : Advances (objectType rules plus) := by
  unfold objectType
  infer_instance

instance (plus : Bool) : Advances (boundType rules plus) := by
  unfold boundType
  infer_instance

instance (plus : Bool) : Advances (simpleType rules plus) := by
  unfold simpleType
  infer_instance

instance (plus : Bool) : Advances (type rules plus) := by
  unfold type
  infer_instance

instance : Advances fieldName := by
  refine advances_upcoming fun trees read value behind h_read => ?_
  split at h_read
  next text rest =>
    generalize fieldIndex? text.toList = index at h_read
    cases index with
    | none => cases h_read
    | some index =>
      cases h_read
      exact List.suffix_cons ..
  next =>
    have h_suffix := rest_suffix (do let _ ← ident; return true) h_read
    exact h_suffix

/-! ## Patterns -/

instance : Advances (constantBlock rules) := by
  unfold constantBlock
  infer_instance

instance : Advances (rangeEnd? rules) := by
  unfold rangeEnd?
  infer_instance

instance : Advances rangeDots := by
  refine advances_upcoming fun trees read value behind h_read => ?_
  split at h_read
  · cases h_read
    exact List.drop_suffix _ _
  · have h_suffix := rest_suffix (do
      if ← op? "..=" then return true
      op ".."
      return false) h_read
    exact h_suffix

instance : Advances (rangeRest rules) := by
  unfold rangeRest
  infer_instance

instance : Advances (rangeToEnd rules) := by
  unfold rangeToEnd
  infer_instance

instance : Advances (fieldPattern rules) := by
  unfold fieldPattern
  infer_instance

instance (limit : Nat) : Advances (fieldPatterns rules limit) := by
  induction limit with
  | zero => exact inferInstanceAs (Advances failure)
  | succ limit ih =>
    unfold fieldPatterns
    infer_instance

instance : Advances (elementPattern rules) := by
  unfold elementPattern
  infer_instance

instance : Advances (pathPattern rules) := by
  unfold pathPattern
  infer_instance

instance : Advances (bindingPattern rules) := by
  unfold bindingPattern
  infer_instance

instance : Advances (literalPattern rules) := by
  unfold literalPattern
  infer_instance

instance : Advances (simplePattern rules) := by
  unfold simplePattern
  infer_instance

instance : Advances (singlePattern rules) := by
  unfold singlePattern
  infer_instance

instance (alternatives : Bool) : Advances (pattern rules alternatives) := by
  unfold pattern
  infer_instance

/-! ## Statements and blocks -/

instance : Advances (letStatement rules) := by
  unfold letStatement
  infer_instance

instance (attributes : Phrase) : Advances (expressionStatement rules attributes) := by
  unfold expressionStatement
  infer_instance

-- An item is read from the beginning again, with its attributes.
instance : Advances (statement rules) where
  suffix {before value behind} h_read := by
    obtain ⟨_, _, h_beginning, h_read⟩ := bind_eq_some.mp h_read
    cases h_beginning
    obtain ⟨attributes, cursor, h_attributes, h_read⟩ := bind_eq_some.mp h_read
    have h_cursor : cursor.rest <:+ before.rest := rest_suffix _ h_attributes
    obtain ⟨trees, _, h_trees, h_read⟩ := bind_eq_some.mp h_read
    cases h_trees
    split at h_read
    · exact (rest_suffix (do
        emit attributes
        let _ ← plainPath
        op "!"
        let _ ← rawGroup
        let _ ← op? ";"
        return Shape.block) h_read).trans h_cursor
    · split at h_read
      · exact (rest_suffix (do
          emit attributes
          letStatement rules
          return Shape.block) h_read).trans h_cursor
      · split at h_read
        · exact rest_suffix (do
            let _ ← rules.item
            return Shape.block) h_read
        · exact (rest_suffix (expressionStatement rules attributes) h_read).trans h_cursor

instance : Advances (statements rules) := by
  unfold statements
  infer_instance

instance (inner : Bool) : Advances (block rules inner) := by
  unfold block
  infer_instance

/-! ## Operators -/

instance : Advances (cast rules) := by
  unfold cast
  infer_instance

instance : Advances rangeLimits := by
  unfold rangeLimits
  infer_instance

theorem advances_operators (limit : Nat) :
    (∀ structs base shape, Advances (operatorsWithin rules structs base shape limit)) ∧
    (∀ structs strength, Advances (rightOperand rules structs strength limit)) ∧
    (∀ structs strength shape, Advances (tighterOperators rules structs strength shape limit)) ∧
    ∀ structs, Advances (rangeBehind rules structs limit) := by
  induction limit with
  | zero =>
    unfold operatorsWithin rightOperand tighterOperators rangeBehind
    refine ⟨?_, ?_, ?_, ?_⟩ <;> infer_instance
  | succ limit ih =>
    obtain ⟨h_operators, h_operand, h_tighter, h_range⟩ := ih
    refine ⟨fun structs base shape => ?_, fun structs strength => ?_,
      fun structs strength shape => ?_, fun structs => ?_⟩
    · rw [operatorsWithin.eq_2]
      refine .bind inferInstance fun trees => ?_
      split
      · infer_instance
      · dsimp only
        split
        · infer_instance
        · split <;> infer_instance
    · rw [rightOperand.eq_2]
      infer_instance
    · rw [tighterOperators.eq_2]
      infer_instance
    · rw [rangeBehind.eq_2]
      infer_instance

instance (structs : Bool) (base : Strength) (shape : Shape) (limit : Nat) :
    Advances (operatorsWithin rules structs base shape limit) :=
  (advances_operators rules limit).1 structs base shape

instance (structs : Bool) (limit : Nat) : Advances (rangeBehind rules structs limit) :=
  (advances_operators rules limit).2.2.2 structs

instance : Advances stepLimit := by
  unfold stepLimit
  infer_instance

instance (structs : Bool) (base : Strength) (shape : Shape) :
    Advances (operators rules structs base shape) := by
  unfold operators
  infer_instance

instance (structs : Bool) : Advances (range rules structs) := by
  unfold range
  infer_instance

/-! ## Expressions -/

instance : Advances (conditionExpression rules) := by
  unfold conditionExpression
  infer_instance

instance : Advances (structField rules) := by
  unfold structField
  infer_instance

instance (limit : Nat) : Advances (structFields rules limit) := by
  induction limit with
  | zero => exact inferInstanceAs (Advances failure)
  | succ limit ih =>
    unfold structFields
    infer_instance

instance (structs : Bool) : Advances (pathExpression rules structs) := by
  unfold pathExpression
  infer_instance

instance : Advances (parenthesizedExpression rules) := by
  unfold parenthesizedExpression
  infer_instance

instance : Advances (arrayExpression rules) := by
  unfold arrayExpression
  infer_instance

instance : Advances (closureParameter rules) := by
  unfold closureParameter
  infer_instance

instance (structs : Bool) : Advances (closure rules structs) := by
  unfold closure
  infer_instance

instance : Advances (matchArm rules) := by
  unfold matchArm
  infer_instance

instance (limit : Nat) : Advances (ifExpression rules limit) := by
  induction limit with
  | zero => exact inferInstanceAs (Advances failure)
  | succ limit ih =>
    unfold ifExpression
    infer_instance

instance : Advances (matchExpression rules) := by
  unfold matchExpression
  infer_instance

instance : Advances (loopOrBlock rules) := by
  unfold loopOrBlock
  infer_instance

instance : Advances (labeledExpression rules) := by
  unfold labeledExpression
  infer_instance

instance : Advances (blockExpression rules) := by
  unfold blockExpression
  infer_instance

instance : Advances (optionalValue rules) := by
  unfold optionalValue
  infer_instance

instance (structs : Bool) : Advances (breakTarget rules structs) := by
  unfold breakTarget
  infer_instance

instance (structs : Bool) : Advances (letCondition rules structs) := by
  unfold letCondition
  infer_instance

instance (structs : Bool) : Advances (keywordExpression rules structs) := by
  unfold keywordExpression
  infer_instance

instance (structs : Bool) : Advances (atom rules structs) := by
  unfold atom
  infer_instance

instance : Advances indices? := by
  refine advances_upcoming fun trees read value behind h_read => ?_
  split at h_read
  next text rest =>
    dsimp only at h_read
    split at h_read
    · cases h_read
      exact List.suffix_refl _
    · generalize indexTokens? _ = fragments at h_read
      cases fragments with
      | none => cases h_read
      | some fragments =>
        cases h_read
        exact List.suffix_cons ..
  next =>
    cases h_read
    exact List.suffix_refl _

instance : Advances (namedMember rules) := by
  unfold namedMember
  infer_instance

instance : Advances (member rules) := by
  refine .bind inferInstance fun found => ?_
  split <;> infer_instance

instance (shape : Shape) : Advances (trailer rules shape) := by
  unfold trailer
  infer_instance

instance (shape : Shape) (limit : Nat) : Advances (trailersWithin rules shape limit) := by
  induction limit generalizing shape with
  | zero => exact inferInstanceAs (Advances failure)
  | succ limit ih =>
    unfold trailersWithin
    infer_instance

instance (shape : Shape) : Advances (trailers rules shape) := by
  unfold trailers
  infer_instance

instance : Advances referenceOperator := by
  unfold referenceOperator
  infer_instance

instance (structs : Bool) : Advances (bareOperand rules structs) := by
  unfold bareOperand
  infer_instance

instance (structs : Bool) : Advances (operand rules structs) := by
  unfold operand
  infer_instance

instance : Advances (statementExpression rules) := by
  unfold statementExpression
  infer_instance

instance (place : Place) : Advances (expression rules place) := by
  cases place <;> unfold expression <;> infer_instance

/-! ## Declarations -/

instance (nested : Reader Unit) [Advances nested] : Advances (namedField rules nested) := by
  unfold namedField
  infer_instance

instance : Advances (tupleField rules) := by
  unfold tupleField
  infer_instance

instance (limit : Nat) : Advances (namedFieldsWithin rules limit) := by
  induction limit with
  | zero => exact inferInstanceAs (Advances failure)
  | succ limit ih =>
    unfold namedFieldsWithin
    infer_instance

instance : Advances (namedFields rules) := by
  unfold namedFields
  infer_instance

instance : Advances (tupleFields rules) := by
  unfold tupleFields
  infer_instance

instance : Advances (structBody rules) := by
  unfold structBody
  infer_instance

instance : Advances (variant rules) := by
  unfold variant
  infer_instance

instance (attributes : List Attribute) (visibility : Visibility) :
    Advances (typeDeclaration rules attributes visibility) := by
  unfold typeDeclaration
  dsimp only
  repeat' first
    | infer_instance
    | refine .bind ?_ fun _ => ?_
    | split

/-! ## Functions -/

instance : Advances (receiver rules) := by
  unfold receiver
  infer_instance

instance : Advances (typedParameter rules) := by
  unfold typedParameter
  infer_instance

instance : Advances (functionParameter rules) := by
  unfold functionParameter
  infer_instance

instance (first : Bool) (limit : Nat) : Advances (functionParameters rules first limit) := by
  induction limit generalizing first with
  | zero => exact inferInstanceAs (Advances failure)
  | succ limit ih =>
    unfold functionParameters
    infer_instance

instance (safe : Bool) : Advances (signature rules safe) := by
  unfold signature
  infer_instance

instance : Advances (functionItem rules) := by
  unfold functionItem
  infer_instance

/-! ## Imports -/

instance (rooted : Bool) (limit : Nat) : Advances (useTree rooted limit) := by
  induction limit generalizing rooted with
  | zero => exact inferInstanceAs (Advances failure)
  | succ limit ih =>
    unfold useTree
    infer_instance

instance : Advances useItem := by
  unfold useItem
  infer_instance

/-! ## Members -/

instance : Advances (constantItem rules) := by
  unfold constantItem
  infer_instance

instance : Advances (staticItem rules) := by
  unfold staticItem
  infer_instance

instance (form : AliasForm) : Advances (typeItem rules form) := by
  unfold typeItem
  infer_instance

instance : Advances macroGroup := by
  unfold macroGroup
  infer_instance

instance : Advances memberMacro := by
  unfold memberMacro
  infer_instance

instance : Advances macroItem := by
  unfold macroItem
  infer_instance

instance : Advances macroDefinition := by
  unfold macroDefinition
  infer_instance

instance : Advances (traitMember rules) := by
  unfold traitMember
  infer_instance

instance : Advances (implementationMember rules) := by
  unfold implementationMember
  infer_instance

instance : Advances (foreignStatic rules) := by
  unfold foreignStatic
  infer_instance

instance : Advances (foreignFunction rules) := by
  unfold foreignFunction
  infer_instance

instance : Advances (foreignMember rules) := by
  unfold foreignMember
  infer_instance

instance (member : Reader Bool) [Advances member] : Advances (members rules member) := by
  unfold members
  infer_instance

instance : Advances (traitItem rules) := by
  unfold traitItem
  infer_instance

instance : Advances constantMark? := by
  unfold constantMark?
  infer_instance

instance (inherited : Bool) : Advances (implItem rules inherited) := by
  unfold implItem
  infer_instance

instance : Advances (foreignBlock rules) := by
  unfold foreignBlock
  infer_instance

instance : Advances externCrate := by
  unfold externCrate
  infer_instance

/-! ## Items -/

instance (limit : Nat) : Advances (itemsWithin rules limit) := by
  induction limit with
  | zero => exact inferInstanceAs (Advances failure)
  | succ limit ih =>
    unfold itemsWithin
    infer_instance

instance : Advances (items rules) := by
  unfold items
  infer_instance

instance (attributes : List Attribute) : Advances (moduleItem rules attributes) := by
  unfold moduleItem
  infer_instance

instance (reader : Reader Unit) [Advances reader] : Advances (other reader) := by
  unfold other
  infer_instance

instance (reader : Reader Bool) [Advances reader] : Advances (perhapsRaw reader) := by
  unfold perhapsRaw
  infer_instance

instance (inherited : Bool) : Advances (externItem rules inherited) := by
  unfold externItem
  infer_instance

instance (attributes : List Attribute) (inherited : Bool) :
    Advances (unsafeItem rules attributes inherited) := by
  unfold unsafeItem
  infer_instance

instance : Advances (valueItem rules) := by
  unfold valueItem
  infer_instance

instance (attributes : List Attribute) : Advances (itemBody rules attributes) := by
  unfold itemBody
  infer_instance

instance : Advances (item rules) := by
  unfold item
  infer_instance

instance : Advances (file rules) := by
  unfold file
  infer_instance

end Grammar

namespace Rules

instance : Rules.none.Advance where
  typeForm _ := inferInstanceAs (Advances failure)
  bound _ := inferInstanceAs (Advances failure)
  patternForm _ := inferInstanceAs (Advances failure)
  expression _ := inferInstanceAs (Advances failure)
  operand _ := inferInstanceAs (Advances failure)
  block _ := inferInstanceAs (Advances failure)
  item := inferInstanceAs (Advances failure)

instance (rules : Rules) [rules.Advance] : rules.deeper.Advance where
  typeForm plus := inferInstanceAs (Advances (Grammar.type rules plus))
  bound form := inferInstanceAs (Advances (Grammar.bound rules form))
  patternForm alternatives := inferInstanceAs (Advances (Grammar.pattern rules alternatives))
  expression place := inferInstanceAs (Advances (Grammar.expression rules place))
  operand structs := inferInstanceAs (Advances (Grammar.operand rules structs))
  block inner := inferInstanceAs (Advances (Grammar.block rules inner))
  item := inferInstanceAs (Advances (Grammar.item rules))

instance (depth : Nat) : (Rules.upTo depth).Advance := by
  induction depth with
  | zero => exact inferInstanceAs Rules.none.Advance
  | succ depth ih => exact inferInstanceAs (Rules.upTo depth).deeper.Advance

instance (trees : List TokenTree) : (Rules.for trees).Advance :=
  inferInstanceAs (Rules.upTo _).Advance

end Rules
end FieldDelta.Syntax
