import FieldDelta.Proofs.Syntax.Advances

/-! # Readers that read something

Operands and blocks take at least one tree.  Like `Reader.Advances`, which says that a reader goes
forward at all, this is a class.

* `Reader.Consumes` — the readers that leave fewer trees than they are given;
* `Rules.Consume` — operands and blocks are read by such readers, however deep the rules reach.
-/

namespace FieldDelta.Syntax

namespace Reader

/-- The reader leaves fewer trees than it is given. -/
class Consumes {α : Type} (reader : Reader α) : Prop where
  shorter : ∀ {before : Cursor} {value : α} {behind : Cursor},
    reader before = some (value, behind) → behind.rest.length < before.rest.length

variable {α β : Type}

theorem length_lt (reader : Reader α) [Consumes reader] {before : Cursor} {value : α}
    {behind : Cursor} (h_read : reader before = some (value, behind)) :
    behind.rest.length < before.rest.length :=
  Consumes.shorter h_read

theorem length_le (reader : Reader α) [Advances reader] {before : Cursor} {value : α}
    {behind : Cursor} (h_read : reader before = some (value, behind)) :
    behind.rest.length ≤ before.rest.length :=
  (rest_suffix reader h_read).length_le

/-! ## Combinators -/

instance : Consumes (failure : Reader α) where
  shorter := nofun

instance (first : Reader α) (next : α → Reader β) [Consumes first] [∀ value, Advances (next value)] :
    Consumes (first >>= next) where
  shorter h_read := by
    obtain ⟨value, cursor, h_first, h_next⟩ := bind_eq_some.mp h_read
    exact Nat.lt_of_le_of_lt (length_le _ h_next) (length_lt first h_first)

theorem Consumes.bind {first : Reader α} {next : α → Reader β} (h_first : Consumes first)
    (h_next : ∀ value, Advances (next value)) : Consumes (first >>= next) :=
  inferInstance

instance (first : Reader α) (next : α → Reader β) [Advances first] [∀ value, Consumes (next value)] :
    Consumes (first >>= next) where
  shorter h_read := by
    obtain ⟨value, cursor, h_first, h_next⟩ := bind_eq_some.mp h_read
    exact Nat.lt_of_lt_of_le (length_lt _ h_next) (length_le first h_first)

instance (c : Prop) [Decidable c] (first second : Reader α) [Consumes first] [Consumes second] :
    Consumes (if c then first else second) := by
  split <;> infer_instance

instance (reader : Reader α) [Consumes reader] : Consumes (captured reader) where
  shorter {_ value _} h_read := by
    obtain ⟨value, phrase⟩ := value
    obtain ⟨cursor, h_inner, -, rfl⟩ := captured_eq_some.mp h_read
    have h_shorter := length_lt reader h_inner
    exact h_shorter

theorem Consumes.captured {reader : Reader α} (h_reader : Consumes reader) :
    Consumes (captured reader) :=
  inferInstance

instance (reader : Reader α) [Consumes reader] [Advances reader] : Consumes (construct reader) := by
  unfold construct
  infer_instance

instance (reader : Reader (α × Bool)) [Consumes reader] : Consumes (rawWhen reader) := by
  unfold rawWhen
  infer_instance

/-! ## Tokens and groups -/

/-- A reader that begins by looking at the trees to come. -/
theorem consumes_upcoming {next : List TokenTree → Reader α}
    (h_next : ∀ trees read value behind, next trees { rest := trees, read := read } =
      some (value, behind) → behind.rest.length < trees.length) : Consumes (upcoming >>= next) where
  shorter h_read := h_next _ _ _ _ h_read

/-- An operator is not empty. -/
theorem length_drop_of_isOp {cs : List Char} {trees : List TokenTree}
    (h_op : Ahead.isOp cs trees = true) : (trees.drop cs.length).length < trees.length := by
  fun_induction Ahead.isOp cs trees
  case case1 c d joint rest => simp
  case case2 c rest d trees _ ih =>
    rw [Bool.and_eq_true] at h_op
    have h_rest := ih h_op.2
    simp only [List.length_cons, List.drop_succ_cons]
    omega
  case case3 => cases h_op

theorem exists_of_isOp {c : Char} {trees : List TokenTree} (h_op : Ahead.isOp [c] trees = true) :
    ∃ joint rest, trees = .punct c joint :: rest := by
  cases trees with
  | nil => cases h_op
  | cons tree rest =>
    cases tree with
    | punct d joint =>
      have h_char : (c == d) = true := h_op
      rw [← beq_iff_eq.mp h_char]
      exact ⟨joint, rest, rfl⟩
    | word text => cases h_op
    | literal text => cases h_op
    | group delimiter inner => cases h_op

instance (text : String) : Consumes (op text) := by
  refine consumes_upcoming fun trees read value behind h_read => ?_
  by_cases h_op : Ahead.op text trees = true
  · rw [if_pos h_op] at h_read
    cases h_read
    exact length_drop_of_isOp h_op
  · rw [if_neg h_op] at h_read
    cases h_read

instance (p : String → Bool) : Consumes (wordWith p) := by
  refine consumes_upcoming fun trees read value behind h_read => ?_
  split at h_read
  next text rest =>
    split at h_read
    · cases h_read
      exact Nat.lt_succ_self _
    · cases h_read
  next => cases h_read

instance (text : String) : Consumes (word text) := by
  unfold word
  infer_instance

instance : Consumes ident := by
  unfold ident
  infer_instance

instance : Consumes anyIdent := by
  unfold anyIdent
  infer_instance

instance : Consumes lifetime := by
  refine consumes_upcoming fun trees read value behind h_read => ?_
  split at h_read
  next joint text rest =>
    cases h_read
    simp only [List.length_cons]
    omega
  next => cases h_read

instance : Consumes literal := by
  refine consumes_upcoming fun trees read value behind h_read => ?_
  split at h_read
  next text rest =>
    cases h_read
    simp
  next text rest =>
    split at h_read
    · cases h_read
      simp
    · cases h_read
  next joint text rest =>
    split at h_read
    · cases h_read
      simp only [List.length_cons]
      omega
    · cases h_read
  next => cases h_read

instance (delimiter : Delimiter) (reader : Reader α) : Consumes (group delimiter reader) := by
  refine consumes_upcoming fun trees read value behind h_read => ?_
  split at h_read
  next found inner rest =>
    split at h_read
    · obtain ⟨_, cursor, -, h_read⟩ := bind_eq_some.mp h_read
      cases h_read
      simp
    · cases h_read
  next => cases h_read

/-! ## Questions -/

/-- The reader answers `true` only if it leaves fewer trees than it is given. -/
class ConsumesIf (question : Reader Bool) : Prop where
  shorter : ∀ {before behind : Cursor},
    question before = some (true, behind) → behind.rest.length < before.rest.length

instance (question : List TokenTree → Bool) (reader : Reader Unit) [Consumes reader] :
    ConsumesIf (ahead question >>= fun found =>
      if found = true then reader >>= fun _ => pure true else pure false) where
  shorter {before behind} h_read := by
    obtain ⟨found, _, h_ahead, h_read⟩ := bind_eq_some.mp h_read
    cases h_ahead
    split at h_read
    · exact length_lt (reader >>= fun _ => pure true) h_read
    · cases h_read

instance (text : String) : ConsumesIf (op? text) := by
  unfold op?
  infer_instance

instance (text : String) : ConsumesIf (word? text) := by
  unfold word?
  infer_instance

/-- What is done after an answer `true` need not read anything more. -/
instance (question : Reader Bool) (first second : Reader α) [ConsumesIf question]
    [Advances question] [Advances first] [Consumes second] :
    Consumes (question >>= fun found => if found = true then first else second) where
  shorter h_read := by
    obtain ⟨found, cursor, h_question, h_read⟩ := bind_eq_some.mp h_read
    cases found with
    | true => exact Nat.lt_of_le_of_lt (length_le first h_read) (ConsumesIf.shorter h_question)
    | false => exact Nat.lt_of_lt_of_le (length_lt second h_read) (length_le question h_question)

end Reader

/-! ## The knots -/

open Reader

/-- The readers for operands and blocks among the rules read something. -/
class Rules.Consume (rules : Rules) : Prop where
  operand : ∀ structs, Consumes (rules.operand structs)
  block : ∀ inner, Consumes (rules.block inner)

namespace Grammar

-- Readers are put together from many parts.
set_option synthInstance.maxSize 1000000000

variable (rules : Rules) [rules.Advance]

/-! ## Readers that begin with a token or a group -/

instance (inner : Bool) : Consumes (block rules inner) := by
  unfold block
  infer_instance

instance (style : PathStyle) : Consumes (segment rules style) := by
  unfold segment
  infer_instance

instance (style : PathStyle) : Consumes (barePath rules style) := by
  unfold barePath
  infer_instance

instance (style : PathStyle) : Consumes (path rules style) := by
  unfold path
  infer_instance

instance (style : PathStyle) : Consumes (qualified rules style) := by
  refine .bind (.captured (.bind inferInstance fun _ => ?_)) fun _ =>
    inferInstanceAs (Advances (pure _))
  dsimp only
  repeat' first
    | infer_instance
    | refine Advances.bind ?_ fun _ => ?_
    | split

instance (style : PathStyle) : Consumes (qualifiedPath rules style) := by
  unfold qualifiedPath
  infer_instance

instance : Consumes rangeLimits := by
  unfold rangeLimits
  infer_instance

instance (structs : Bool) (limit : Nat) : Consumes (rangeBehind rules structs limit) := by
  cases limit with
  | zero =>
    unfold rangeBehind
    infer_instance
  | succ limit =>
    have h_operand := (advances_operators rules limit).2.1
    rw [rangeBehind.eq_2]
    infer_instance

instance (structs : Bool) : Consumes (range rules structs) := by
  unfold range
  infer_instance

instance (structs : Bool) : Consumes (pathExpression rules structs) := by
  unfold pathExpression
  infer_instance

instance : Consumes (parenthesizedExpression rules) := by
  unfold parenthesizedExpression
  infer_instance

instance : Consumes (arrayExpression rules) := by
  unfold arrayExpression
  infer_instance

instance (structs : Bool) : Consumes (closure rules structs) := by
  unfold closure
  infer_instance

instance (limit : Nat) : Consumes (ifExpression rules limit) := by
  cases limit with
  | zero => exact inferInstanceAs (Consumes failure)
  | succ limit =>
    unfold ifExpression
    infer_instance

instance : Consumes (matchExpression rules) := by
  unfold matchExpression
  infer_instance

instance : Consumes (labeledExpression rules) := by
  unfold labeledExpression
  infer_instance

instance (structs : Bool) : Consumes (letCondition rules structs) := by
  unfold letCondition
  infer_instance

instance : Consumes builtin := by
  unfold builtin
  infer_instance

instance : Consumes referenceOperator := by
  unfold referenceOperator
  infer_instance

/-! ## Readers that contain operands and blocks -/

variable [rules.Consume]

instance (structs : Bool) : Consumes (rules.operand structs) :=
  Rules.Consume.operand structs

instance (inner : Bool) : Consumes (rules.block inner) :=
  Rules.Consume.block inner

instance (structs : Bool) (strength : Strength) (limit : Nat) :
    Consumes (rightOperand rules structs strength limit) := by
  cases limit with
  | zero =>
    unfold rightOperand
    infer_instance
  | succ limit =>
    have h_tighter := (advances_operators rules limit).2.2.1
    rw [rightOperand.eq_2]
    infer_instance

instance : Consumes (loopOrBlock rules) := by
  unfold loopOrBlock
  infer_instance

instance : Consumes (blockExpression rules) := by
  unfold blockExpression
  infer_instance

instance (structs : Bool) : Consumes (keywordExpression rules structs) := by
  unfold keywordExpression
  infer_instance

instance (structs : Bool) : Consumes (atom rules structs) := by
  unfold atom
  infer_instance

instance (structs : Bool) : Consumes (bareOperand rules structs) := by
  unfold bareOperand
  infer_instance

instance (structs : Bool) : Consumes (operand rules structs) := by
  unfold operand
  infer_instance

end Grammar

namespace Rules

instance : Rules.none.Consume where
  operand _ := inferInstanceAs (Consumes failure)
  block _ := inferInstanceAs (Consumes failure)

instance (rules : Rules) [rules.Advance] [rules.Consume] : rules.deeper.Consume where
  operand structs := inferInstanceAs (Consumes (Grammar.operand rules structs))
  block inner := inferInstanceAs (Consumes (Grammar.block rules inner))

instance (depth : Nat) : (Rules.upTo depth).Consume := by
  induction depth with
  | zero => exact inferInstanceAs Rules.none.Consume
  | succ depth ih => exact inferInstanceAs (Rules.upTo depth).deeper.Consume

end Rules
end FieldDelta.Syntax
