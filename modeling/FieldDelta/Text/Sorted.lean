/-! # Sorted texts

`sorted` puts texts into rising order and drops repetitions.  Texts are ordered code point by
code point, which is also the order of their UTF-8 bytes.
-/

namespace FieldDelta.Text

/-- Puts a text at its place among texts in rising order, unless it is there already. -/
def insertSorted (text : String) : List String → List String
  | [] => [text]
  | first :: rest =>
    if text = first then first :: rest
    else if text < first then text :: first :: rest
    else first :: insertSorted text rest

/-- The distinct texts of a list, in rising order. -/
def sorted (texts : List String) : List String :=
  texts.foldr insertSorted []

theorem mem_insertSorted {text other : String} {texts : List String} :
    other ∈ insertSorted text texts ↔ other = text ∨ other ∈ texts := by
  induction texts with
  | nil => simp [insertSorted]
  | cons first rest ih =>
    unfold insertSorted
    split
    · next h => subst h; simp
    · split
      · simp
      · simp only [List.mem_cons, ih]
        constructor <;> rintro (h | h | h) <;> simp [h]

theorem mem_sorted {text : String} {texts : List String} : text ∈ sorted texts ↔ text ∈ texts := by
  induction texts with
  | nil => simp [sorted]
  | cons first rest ih =>
    rw [sorted, List.foldr_cons, ← sorted, mem_insertSorted, ih, List.mem_cons]

theorem pairwise_insertSorted {text : String} {texts : List String}
    (h_texts : texts.Pairwise (· < ·)) : (insertSorted text texts).Pairwise (· < ·) := by
  induction texts with
  | nil => exact List.pairwise_singleton _ _
  | cons first rest ih =>
    obtain ⟨h_first, h_rest⟩ := List.pairwise_cons.mp h_texts
    unfold insertSorted
    split
    next => exact h_texts
    next h_ne =>
      split
      next h_lt =>
        refine List.pairwise_cons.mpr ⟨fun other h_other => ?_, h_texts⟩
        rcases List.mem_cons.mp h_other with rfl | h_other
        · exact h_lt
        · exact String.lt_trans h_lt (h_first other h_other)
      next h_not_lt =>
        have h_gt : first < text := by
          refine String.not_le.mp fun h_le => h_ne ?_
          exact String.le_antisymm h_le (String.not_lt.mp h_not_lt)
        refine List.pairwise_cons.mpr ⟨fun other h_other => ?_, ih h_rest⟩
        rcases mem_insertSorted.mp h_other with rfl | h_other
        · exact h_gt
        · exact h_first other h_other

/-- Sorted texts are in rising order and distinct. -/
theorem pairwise_sorted (texts : List String) : (sorted texts).Pairwise (· < ·) := by
  induction texts with
  | nil => exact List.Pairwise.nil
  | cons first rest ih => exact pairwise_insertSorted ih

end FieldDelta.Text
