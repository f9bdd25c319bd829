import FieldDelta.Text.Substitution

/-! # Substitution piece by piece

A text may be cut where no occurrence of the pattern can lie across the cut, and the substitution
made on either side of it.

* `Text.Apart` — no occurrence lies across the cut;
* `Text.replaceFrom_append` — the substitution on either side of the cut.
-/

namespace FieldDelta.Text

variable {pattern replacement cs rest : List Char}

/-- What the text ends with and what the rest begins with do not stand next to each other in the
    pattern. -/
def Apart (pattern cs rest : List Char) : Prop :=
  ∀ init last first tail, cs = init ++ [last] → rest = first :: tail →
    last ∈ pattern.dropLast → first ∉ pattern.tail

/-- A pattern that begins the text and what follows it begins the text alone. -/
theorem isPrefix_of_apart {c : Char} (h_apart : Apart pattern (c :: cs) rest)
    (h_begins : pattern <+: c :: cs ++ rest) : pattern <+: c :: cs := by
  obtain ⟨behind, h_eq⟩ := h_begins
  rcases List.append_eq_append_iff.mp h_eq with ⟨more, h_cs, -⟩ | ⟨more, h_pattern, h_rest⟩
  · exact ⟨more, h_cs.symm⟩
  · cases more with
    | nil => exact ⟨[], by simp [h_pattern]⟩
    | cons first tail =>
      obtain ⟨init, last, h_last⟩ : ∃ init last, c :: cs = init ++ [last] :=
        ⟨_, _, (List.dropLast_concat_getLast (List.cons_ne_nil c cs)).symm⟩
      have h_mem : last ∈ pattern.dropLast := by
        rw [h_pattern, h_last, List.dropLast_append_of_ne_nil (List.cons_ne_nil first tail)]
        simp
      refine absurd ?_ (h_apart init last first _ h_last h_rest h_mem)
      rw [h_pattern]
      simp

theorem replaceFrom_append {skip : Nat} (h_apart : Apart pattern cs rest)
    (h_skip : skip ≤ cs.length) :
    replaceFrom pattern replacement skip (cs ++ rest) =
      replaceFrom pattern replacement skip cs ++ replaceFrom pattern replacement 0 rest := by
  induction cs generalizing skip with
  | nil =>
    obtain rfl : skip = 0 := Nat.le_zero.mp h_skip
    rfl
  | cons c cs ih =>
    have h_apart' : Apart pattern cs rest := fun init last first tail h_cs =>
      h_apart (c :: init) last first tail (by rw [h_cs, List.cons_append])
    cases skip with
    | succ skip => exact ih h_apart' (Nat.le_of_succ_le_succ h_skip)
    | zero =>
      rw [List.cons_append, replaceFrom, replaceFrom]
      by_cases h_begins : pattern <+: c :: cs
      · have h_length : pattern.length - 1 ≤ cs.length := by
          have h_le := h_begins.length_le
          rw [List.length_cons] at h_le
          omega
        have h_both : pattern <+: c :: (cs ++ rest) := h_begins.trans ⟨rest, rfl⟩
        rw [if_pos (List.isPrefixOf_iff_prefix.mpr h_begins),
          if_pos (List.isPrefixOf_iff_prefix.mpr h_both), ih h_apart' h_length, List.append_assoc]
      · have h_both : ¬ pattern <+: c :: (cs ++ rest) := fun h_both =>
          h_begins (isPrefix_of_apart h_apart h_both)
        rw [if_neg (mt List.isPrefixOf_iff_prefix.mp h_begins),
          if_neg (mt List.isPrefixOf_iff_prefix.mp h_both), ih h_apart' (Nat.zero_le _),
          List.cons_append]

/-- A character with which the pattern does not begin stays in front. -/
theorem replaceFrom_cons {c : Char} (h_c : ¬ pattern <+: c :: cs) :
    replaceFrom pattern replacement 0 (c :: cs) = c :: replaceFrom pattern replacement 0 cs := by
  rw [replaceFrom, if_neg (mt List.isPrefixOf_iff_prefix.mp h_c)]

theorem not_isPrefix_cons {c : Char} (h_pattern : pattern ≠ []) (h_c : c ∉ pattern) :
    ¬ pattern <+: c :: cs := by
  rintro ⟨behind, h_eq⟩
  cases pattern with
  | nil => exact h_pattern rfl
  | cons d pattern =>
    cases h_eq
    exact h_c (.head _)

/-- A text without the characters of the pattern stays as it is. -/
theorem replaceFrom_eq_self (h_pattern : pattern ≠ []) (h_cs : ∀ c ∈ cs, c ∉ pattern) :
    replaceFrom pattern replacement 0 cs = cs := by
  induction cs with
  | nil => rfl
  | cons c cs ih =>
    obtain ⟨h_c, h_cs⟩ := List.forall_mem_cons.mp h_cs
    rw [replaceFrom_cons (not_isPrefix_cons h_pattern h_c), ih h_cs]

/-- A character that is none of the pattern's stays at the end. -/
theorem replaceFrom_concat {c : Char} (h_pattern : pattern ≠ []) (h_c : c ∉ pattern) :
    replaceFrom pattern replacement 0 (cs ++ [c]) =
      replaceFrom pattern replacement 0 cs ++ [c] := by
  have h_apart : Apart pattern cs [c] := by
    rintro init last first tail h_cs ⟨⟩ -
    exact fun h_mem => h_c (List.mem_of_mem_tail h_mem)
  have h_last : replaceFrom pattern replacement 0 [c] = [c] :=
    replaceFrom_eq_self h_pattern fun d h_d => by rwa [List.mem_singleton.mp h_d]
  rw [replaceFrom_append h_apart (Nat.zero_le _), h_last]

end FieldDelta.Text
