import FieldDelta.Layout
import FieldDelta.Proofs.Text.Brackets

/-! # Blocks of a layout

A layout is well nested if every line that closes a block closes the innermost one, with the
brackets that are due there.  Laying it out never leaves a level that it has not entered, and the
brackets of its text are balanced.

* `Layout.Page.depth_run` — what the depth of the page comes to;
* `Layout.due?_render` — the brackets of a finished text are those of its lines;
* `Layout.Closes` — the steps that close given blocks and all that they open themselves;
* `Layout.Closes.depthAfter?`, `Layout.Closes.due?` — what that says of depth and brackets.
-/

namespace FieldDelta

open Text (IsBalanced brackets)

namespace Layout

/-! ## Depth -/

namespace Step

/-- The step goes one level back. -/
def Leaves : Step → Prop
  | closing _ | reopening _ | dedent => True
  | _ => False

/-- The depth after the step, unless it leaves the outermost level. -/
def depthAfter? (depth : Nat) : Step → Option Nat
  | line _ | blank => some depth
  | opening _ | indent => some (depth + 1)
  | closing _ | dedent => if depth = 0 then none else some (depth - 1)
  | reopening _ => if depth = 0 then none else some depth

/-- The line that the step writes. -/
def text : Step → String
  | line text | opening text | closing text | reopening text => text
  | _ => ""

end Step

/-- The depth after a list of steps, unless one of them leaves the outermost level. -/
def depthAfter? (depth : Nat) (steps : List Step) : Option Nat :=
  steps.foldlM Step.depthAfter? depth

@[simp] theorem depthAfter?_cons (depth : Nat) (step : Step) (rest : List Step) :
    depthAfter? depth (step :: rest) = (step.depthAfter? depth).bind (depthAfter? · rest) :=
  List.foldlM_cons

namespace Page

@[simp] theorem depth_line (page : Page) (text : String) : (page.line text).depth = page.depth := by
  unfold line
  split <;> rfl

@[simp] theorem depth_blank (page : Page) : page.blank.depth = page.depth := by
  unfold blank
  split <;> rfl

/-- Where no step leaves the outermost level, the page keeps the depth. -/
theorem depth_step {page : Page} {step : Step} {depth : Nat}
    (h_step : step.depthAfter? page.depth = some depth) :
    (page.step step).depth = depth ∧ (step.Leaves → page.depth ≠ 0) := by
  cases step <;> simp_all [Step.depthAfter?, Page.step, Step.Leaves, indent, dedent]
  omega

theorem run_cons (page : Page) (step : Step) (rest : List Step) :
    page.run (step :: rest) = (page.step step).run rest :=
  rfl

theorem depth_run {steps : List Step} {page : Page} {depth : Nat}
    (h_steps : depthAfter? page.depth steps = some depth) :
    (page.run steps).depth = depth ∧
      ∀ before step after, steps = before ++ step :: after → step.Leaves →
        (page.run before).depth ≠ 0 := by
  induction steps generalizing page with
  | nil => exact ⟨Option.some.inj h_steps, fun before => by cases before <;> simp⟩
  | cons first rest ih =>
    rw [depthAfter?_cons] at h_steps
    obtain ⟨next, h_first, h_rest⟩ := Option.bind_eq_some_iff.mp h_steps
    obtain ⟨h_depth, h_leaves⟩ := depth_step h_first
    rw [← h_depth] at h_rest
    obtain ⟨h_end, h_inside⟩ := ih h_rest
    refine ⟨h_end, fun before step after h_eq h_step => ?_⟩
    cases before with
    | nil =>
      obtain ⟨rfl, -⟩ := List.cons.inj h_eq
      exact h_leaves h_step
    | cons _ before =>
      obtain ⟨rfl, h_behind⟩ := List.cons.inj h_eq
      exact h_inside before step after h_behind h_step

end Page

/-! ## Brackets -/

/-- The closing brackets that are due behind the lines of a list of steps. -/
def due? (due : List Char) (steps : List Step) : Option (List Char) :=
  steps.foldlM (fun due step => Text.due? due step.text) due

@[simp] theorem due?_cons (due : List Char) (step : Step) (rest : List Step) :
    due? due (step :: rest) = (Text.due? due step.text).bind (due? · rest) :=
  List.foldlM_cons

@[simp] theorem due?_nil (due : List Char) : due? due [] = some due :=
  rfl

theorem brackets_margin (depth : Nat) : brackets (margin depth).toList = [] := by
  induction depth with
  | zero => rfl
  | succ depth ih =>
    have h_indentation : brackets indentation.toList = [] := by decide
    rw [margin, String.toList_append, Text.brackets_append, h_indentation, ih]
    rfl

theorem brackets_dropBlankLines (cs : List Char) :
    brackets (dropBlankLines cs) = brackets cs := by
  fun_induction dropBlankLines cs with
  | case1 rest ih => exact ih
  | case2 => rfl

namespace Page

theorem brackets_line (page : Page) (text : String) :
    brackets (page.line text).text.toList =
      brackets page.text.toList ++ brackets text.toList := by
  have h_newline : brackets "\n".toList = [] := by decide
  unfold line
  split
  next h_text =>
    rw [String.isEmpty_iff.mp h_text, String.toList_append, Text.brackets_append, h_newline]
    rfl
  next => simp only [String.toList_append, Text.brackets_append, brackets_margin, h_newline,
    List.nil_append, List.append_nil]

theorem brackets_blank (page : Page) :
    brackets page.blank.text.toList = brackets page.text.toList := by
  have h_newline : brackets "\n".toList = [] := by decide
  unfold blank
  split
  · rfl
  · rw [String.toList_append, Text.brackets_append, h_newline, List.append_nil]

/-- Only the lines of the steps bring brackets to a page. -/
theorem brackets_step (page : Page) (step : Step) :
    brackets (page.step step).text.toList =
      brackets page.text.toList ++ brackets step.text.toList := by
  cases step with
  | line text => exact brackets_line page text
  | opening text => exact brackets_line page text
  | closing text => exact brackets_line page.dedent text
  | reopening text => exact brackets_line page.dedent text
  | indent => exact (List.append_nil _).symm
  | dedent => exact (List.append_nil _).symm
  | blank => exact (brackets_blank page).trans (List.append_nil _).symm

theorem brackets_finish (page : Page) :
    brackets page.finish.toList = brackets page.text.toList := by
  have h_reverse (cs : List Char) : brackets cs.reverse = (brackets cs).reverse :=
    List.filter_reverse
  have h_drop := brackets_dropBlankLines page.text.toList.reverse
  rw [h_reverse] at h_drop
  unfold finish
  split
  next rest h_rest =>
    rw [String.toList_ofList, h_reverse, ← h_rest, h_drop, List.reverse_reverse]
  next =>
    have h_newline (cs : List Char) : brackets ('\n' :: cs) = brackets cs :=
      List.filter_cons_of_neg (by decide)
    rw [String.toList_ofList, h_reverse, h_newline, h_drop, List.reverse_reverse]

theorem due?_run (page : Page) (steps : List Step) (due : List Char) :
    Text.due? due (page.run steps).text =
      (Text.due? due page.text).bind (Layout.due? · steps) := by
  induction steps generalizing page with
  | nil => simp [run]
  | cons step rest ih =>
    have h_step : Text.due? due (page.step step).text = Text.due? due (page.text ++ step.text) := by
      apply Text.due?_congr
      rw [brackets_step, String.toList_append, Text.brackets_append]
    rw [run_cons, ih, h_step, Text.due?_append, Option.bind_assoc]
    simp

end Page

/-- The brackets of a finished text are those of its lines. -/
theorem due?_render (due : List Char) (steps : List Step) :
    Text.due? due (render steps) = due? due steps := by
  rw [render, Text.due?_congr (Page.brackets_finish _), Page.due?_run]
  rfl

/-! ## Blocks inside of blocks -/

/-- The steps close the blocks that stand open, the innermost first, and all that they open
    themselves.  What there is to know of an open block is which brackets are due at its end. -/
inductive Closes : List (List Char) → List Step → Prop where
  | nil : Closes [] []
  | line {blocks : List (List Char)} {text : String} {rest : List Step}
      (text_balanced : IsBalanced text) (rest_closes : Closes blocks rest) :
      Closes blocks (.line text :: rest)
  | blank {blocks : List (List Char)} {rest : List Step} (rest_closes : Closes blocks rest) :
      Closes blocks (.blank :: rest)
  | opening {blocks : List (List Char)} {text : String} {rest : List Step} (due : List Char)
      (text_opens : Text.due? [] text = some due) (rest_closes : Closes (due :: blocks) rest) :
      Closes blocks (.opening text :: rest)
  | closing {blocks : List (List Char)} {due : List Char} {text : String} {rest : List Step}
      (text_closes : Text.due? due text = some []) (rest_closes : Closes blocks rest) :
      Closes (due :: blocks) (.closing text :: rest)
  | reopening {blocks : List (List Char)} {due : List Char} {text : String} {rest : List Step}
      (due' : List Char) (text_turns : Text.due? due text = some due')
      (rest_closes : Closes (due' :: blocks) rest) :
      Closes (due :: blocks) (.reopening text :: rest)
  | indent {blocks : List (List Char)} {rest : List Step}
      (rest_closes : Closes ([] :: blocks) rest) : Closes blocks (.indent :: rest)
  | dedent {blocks : List (List Char)} {rest : List Step} (rest_closes : Closes blocks rest) :
      Closes ([] :: blocks) (.dedent :: rest)

namespace Closes

variable {blocks outer : List (List Char)} {steps more : List Step}

/-- What closes some blocks can stand inside of others. -/
theorem append (h_steps : Closes blocks steps) (h_more : Closes outer more) :
    Closes (blocks ++ outer) (steps ++ more) := by
  induction h_steps with
  | nil => exact h_more
  | line h_text _ ih => exact .line h_text ih
  | blank _ ih => exact .blank ih
  | opening due h_text _ ih => exact .opening due h_text ih
  | closing h_text _ ih => exact .closing h_text ih
  | reopening due' h_text _ ih => exact .reopening due' h_text ih
  | indent _ ih => exact .indent ih
  | dedent _ ih => exact .dedent ih

theorem flatMap {α : Type} {entries : List α} {group : α → List Step}
    (h_group : ∀ entry ∈ entries, Closes [] (group entry)) : Closes [] (entries.flatMap group) := by
  induction entries with
  | nil => exact .nil
  | cons first rest ih =>
    obtain ⟨h_first, h_rest⟩ := List.forall_mem_cons.mp h_group
    exact h_first.append (ih h_rest)

theorem lines {texts : List String} (h_texts : ∀ text ∈ texts, IsBalanced text) :
    Closes [] (texts.map .line) := by
  induction texts with
  | nil => exact .nil
  | cons first rest ih =>
    obtain ⟨h_first, h_rest⟩ := List.forall_mem_cons.mp h_texts
    exact .line h_first (ih h_rest)

/-- Every open block is one level. -/
theorem depthAfter? (h_steps : Closes blocks steps) :
    depthAfter? blocks.length steps = some 0 := by
  induction h_steps with
  | nil => rfl
  | line _ _ ih => exact ih
  | blank _ ih => exact ih
  | opening _ _ _ ih => exact ih
  | closing _ _ ih => simp [Step.depthAfter?, ih]
  | reopening _ _ _ ih => simpa [Step.depthAfter?] using ih
  | indent _ ih => exact ih
  | dedent _ ih => simp [Step.depthAfter?, ih]

/-- Inside of blocks, what is due at the end of each of them is due. -/
theorem due? (h_steps : Closes blocks steps) : due? blocks.flatten steps = some [] := by
  have h_none (due : List Char) : Text.due? due "" = some due := rfl
  induction h_steps with
  | nil => rfl
  | line h_text _ ih => simpa [Step.text, h_text.due?] using ih
  | blank _ ih => simpa [Step.text, h_none] using ih
  | @opening blocks _ _ due h_text _ ih =>
    have h_first := Text.due?_append_due h_text blocks.flatten
    rw [List.nil_append] at h_first
    simpa [Step.text, h_first] using ih
  | @closing blocks due _ _ h_text _ ih =>
    have h_last := Text.due?_append_due h_text blocks.flatten
    simpa [Step.text, h_last] using ih
  | @reopening blocks due _ _ due' h_text _ ih =>
    have h_middle := Text.due?_append_due h_text blocks.flatten
    simpa [Step.text, h_middle] using ih
  | indent _ ih => simpa [Step.text, h_none] using ih
  | dedent _ ih => simpa [Step.text, h_none] using ih

end Closes

end Layout
end FieldDelta
