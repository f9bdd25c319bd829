/-! # Paths as text

A path such as `crate::models::User` is a text whose segments are separated by `::`.

* `splitSegments` cuts a text at every separator, left to right; `segments` does so on strings;
* `joinSegments` puts segments together again;
* `splitLast?` cuts at the last separator only.

Any text is a path: the empty text has one empty segment, and `a:::b` has the segments `a`
and `:b`.  A text is what its segments are joined to (`joinSegments_segments`), and names without
colons are the segments of what they are joined to (`segments_joinSegments`).
-/

namespace FieldDelta.Text

/-- Puts a character in front of the first of several pieces of text. -/
def consFirst (c : Char) : List (List Char) → List (List Char)
  | [] => [[c]]
  | piece :: pieces => (c :: piece) :: pieces

/-- The pieces of a text between its separators `::`, taken from left to right. -/
def splitSegments : List Char → List (List Char)
  | [] => [[]]
  | ':' :: ':' :: rest => [] :: splitSegments rest
  | c :: rest => consFirst c (splitSegments rest)

/-- The segments of a path.  There is always at least one. -/
def segments (path : String) : List String :=
  (splitSegments path.toList).map String.ofList

def joinSegments (segments : List String) : String :=
  "::".intercalate segments

/-- The texts before and after the last separator, if there is one. -/
def splitLast? : List Char → Option (List Char × List Char)
  | [] => none
  | c :: rest =>
    match splitLast? rest with
    | some (before, after) => some (c :: before, after)
    | none =>
      match c, rest with
      | ':', ':' :: after => some ([], after)
      | _, _ => none

/-! ## Cutting and joining undo each other -/

theorem splitSegments_ne_nil (cs : List Char) : splitSegments cs ≠ [] := by
  fun_cases splitSegments cs
  · exact List.cons_ne_nil _ _
  · exact List.cons_ne_nil _ _
  next c rest _ => cases h : splitSegments rest <;> simp [consFirst]

theorem segments_ne_nil (path : String) : segments path ≠ [] := by
  simpa [segments] using splitSegments_ne_nil path.toList

theorem splitSegments_of_not_mem {name : List Char} (h_name : ':' ∉ name) :
    splitSegments name = [name] := by
  fun_induction splitSegments name
  case case1 => rfl
  case case2 => simp at h_name
  case case3 ih => rw [ih (List.not_mem_of_not_mem_cons h_name), consFirst]

theorem splitSegments_append {name : List Char} (h_name : ':' ∉ name) (rest : List Char) :
    splitSegments (name ++ ':' :: ':' :: rest) = name :: splitSegments rest := by
  induction name with
  | nil => rw [List.nil_append, splitSegments]
  | cons c name ih =>
    obtain ⟨h_ne, h_name⟩ := not_or.mp (mt List.mem_cons.mpr h_name)
    rw [List.cons_append, splitSegments, ih h_name, consFirst]
    -- The first character starts no separator.
    rintro after rfl
    exact absurd rfl h_ne

theorem splitLast?_of_not_mem {name : List Char} (h_name : ':' ∉ name) :
    splitLast? name = none := by
  induction name with
  | nil => rfl
  | cons c rest ih =>
    rw [splitLast?, ih (List.not_mem_of_not_mem_cons h_name)]
    rintro after rfl
    exact absurd (.head _) h_name

theorem splitLast?_append {name : List Char} (h_name : ':' ∉ name) (front : List Char) :
    splitLast? (front ++ ':' :: ':' :: name) = some (front, name) := by
  induction front with
  | nil =>
    have h_none : splitLast? (':' :: name) = none := by
      rw [splitLast?, splitLast?_of_not_mem h_name]
      rintro after - rfl
      exact absurd (.head _) h_name
    rw [List.nil_append, splitLast?, h_none]
  | cons c rest ih =>
    rw [List.cons_append, splitLast?.eq_def]
    dsimp only
    rw [ih]

theorem toList_joinSegments_cons (name next : String) (rest : List String) :
    (joinSegments (name :: next :: rest)).toList =
      name.toList ++ ':' :: ':' :: (joinSegments (next :: rest)).toList := by
  simp [joinSegments, String.intercalate_cons_of_ne_nil]

/-- Names without a colon are the segments of the path that they are put together to. -/
theorem segments_joinSegments {names : List String} (h_nonempty : names ≠ [])
    (h_names : ∀ name ∈ names, ':' ∉ name.toList) : segments (joinSegments names) = names := by
  induction names with
  | nil => exact absurd rfl h_nonempty
  | cons name rest ih =>
    obtain ⟨h_name, h_rest⟩ := List.forall_mem_cons.mp h_names
    cases rest with
    | nil => simp [segments, joinSegments, splitSegments_of_not_mem h_name]
    | cons next rest =>
      rw [segments, toList_joinSegments_cons, splitSegments_append h_name, List.map_cons, String.ofList_toList,
        ← segments, ih (List.cons_ne_nil _ _) h_rest]

theorem intercalate_consFirst (c : Char) {pieces : List (List Char)} (h_pieces : pieces ≠ []) :
    List.intercalate [':', ':'] (consFirst c pieces) = c :: List.intercalate [':', ':'] pieces := by
  match pieces with
  | [piece] => simp [consFirst]
  | piece :: next :: pieces => simp [consFirst, List.intercalate_cons_cons]

theorem intercalate_splitSegments (cs : List Char) :
    List.intercalate [':', ':'] (splitSegments cs) = cs := by
  fun_induction splitSegments cs
  case case1 => rfl
  case case2 rest ih =>
    obtain ⟨piece, pieces, h_pieces⟩ := List.exists_cons_of_ne_nil (splitSegments_ne_nil rest)
    rw [h_pieces] at ih ⊢
    rw [List.intercalate_cons_cons, ih]
    rfl
  case case3 rest _ ih => rw [intercalate_consFirst _ (splitSegments_ne_nil rest), ih]

@[simp] theorem joinSegments_segments (path : String) : joinSegments (segments path) = path := by
  rw [← String.toList_inj, joinSegments, String.toList_intercalate, segments, List.map_map]
  simpa [Function.comp_def] using intercalate_splitSegments path.toList

theorem joinSegments_append {names others : List String} (h_names : names ≠ [])
    (h_others : others ≠ []) :
    joinSegments (names ++ others) = joinSegments names ++ "::" ++ joinSegments others := by
  induction names with
  | nil => exact absurd rfl h_names
  | cons name rest ih =>
    rw [joinSegments, List.cons_append,
      String.intercalate_cons_of_ne_nil (List.append_ne_nil_of_right_ne_nil _ h_others)]
    cases rest with
    | nil => simp [joinSegments]
    | cons next rest =>
      rw [← joinSegments, ih (List.cons_ne_nil _ _), joinSegments, joinSegments, joinSegments,
        String.intercalate_cons_of_ne_nil (List.cons_ne_nil _ _)]
      simp only [String.append_assoc]

theorem joinSegments_concat {names : List String} (h_names : names ≠ []) (last : String) :
    joinSegments (names ++ [last]) = joinSegments names ++ "::" ++ last := by
  rw [joinSegments_append h_names (List.cons_ne_nil _ _)]
  simp [joinSegments]

end FieldDelta.Text
