import FieldDelta.Text.Quoted
import Mathlib.Data.List.Basic

/-! # Reading quoted text

A text in quotes stands on one line, and what is quoted can be read off it: no written form of a
character is the beginning of another one's.

* `Text.escapeChar_cases` — the three written forms;
* `Text.quote_inj` — different texts look different in quotes;
* `Text.newline_not_mem_quote` — quoted text has no line breaks.
-/

namespace FieldDelta.Text

/-- What stands before the first occurrence of a character can be read off a text. -/
theorem append_cons_inj {mark : Char} {front other rest rest' : List Char} (h_front : mark ∉ front)
    (h_other : mark ∉ other) (h_eq : front ++ mark :: rest = other ++ mark :: rest') :
    front = other ∧ rest = rest' := by
  rcases List.append_eq_append_iff.mp h_eq with ⟨more, rfl, h_rest⟩ | ⟨more, rfl, h_rest⟩ <;>
    cases more with
    | nil => simpa [eq_comm] using h_rest
    | cons c more =>
      cases h_rest
      simp at h_front h_other

/-! ## Hexadecimal digits -/

theorem hexDigits_eq (n : Nat) :
    hexDigits n =
      if n < 16 then [n.digitChar] else hexDigits (n / 16) ++ [(n % 16).digitChar] :=
  Nat.toDigits_eq_if (by decide)

theorem digitChar_inj {n m : Nat} (h_n : n < 16) (h_m : m < 16) (h_eq : n.digitChar = m.digitChar) :
    n = m := by
  have h_all : ∀ a : Fin 16, ∀ b : Fin 16, (a : Nat).digitChar = (b : Nat).digitChar → a = b := by
    decide
  exact Fin.mk.inj (h_all ⟨n, h_n⟩ ⟨m, h_m⟩ h_eq)

theorem hexDigits_ne_nil (n : Nat) : hexDigits n ≠ [] :=
  Nat.toDigits_ne_nil

theorem hexDigits_inj {n m : Nat} (h_eq : hexDigits n = hexDigits m) : n = m := by
  induction n using Nat.strongRecOn generalizing m with
  | ind n ih =>
    rw [hexDigits_eq n, hexDigits_eq m] at h_eq
    split at h_eq <;> split at h_eq
    next h_n h_m => exact digitChar_inj h_n h_m (List.singleton_inj.mp h_eq)
    -- One digit alone is never several.
    next => simp [List.singleton_eq_append_iff, hexDigits_ne_nil] at h_eq
    next => simp [List.append_eq_singleton_iff, hexDigits_ne_nil] at h_eq
    next h_n h_m =>
      obtain ⟨h_front, h_last⟩ := List.append_inj' h_eq rfl
      have h_div : n / 16 = m / 16 := ih (n / 16) (by omega) h_front
      have h_mod : n % 16 = m % 16 := digitChar_inj (by omega) (by omega)
        (List.singleton_inj.mp h_last)
      omega

theorem not_mem_hexDigits {c : Char} (h_c : ∀ n < 16, n.digitChar ≠ c) (n : Nat) :
    c ∉ hexDigits n := by
  induction n using Nat.strongRecOn with
  | ind n ih =>
    rw [hexDigits_eq]
    split
    next h_n => simpa using (h_c n h_n).symm
    next h_n =>
      have h_digit : c ≠ (n % 16).digitChar := (h_c (n % 16) (by omega)).symm
      simp [ih (n / 16) (by omega), h_digit]

/-! ## Written forms -/

/-- The characters that are written as a letter after a backslash, with that letter. -/
def letters : List (Char × Char) :=
  [('"', '"'), ('\\', '\\'), ('\n', 'n'), ('\t', 't'), ('\r', 'r'), ('\x00', '0')]

/-- A character is written as a letter after a backslash, as its code point, or as itself. -/
theorem escapeChar_cases (c : Char) :
    (∃ letter, (c, letter) ∈ letters ∧ escapeChar '"' c = ['\\', letter]) ∨
    escapeChar '"' c = escapeCodePoint c ∨
    c ≠ '\\' ∧ c ≠ '\n' ∧ escapeChar '"' c = [c] := by
  unfold escapeChar
  split
  next h_c => exact .inl ⟨c, by simp [letters, h_c], rfl⟩
  split
  next h_c => exact .inl ⟨'\\', by simp [letters, h_c], rfl⟩
  next h_backslash =>
  split
  next h_c => exact .inl ⟨'n', by simp [letters, h_c], rfl⟩
  next h_newline =>
  split
  next h_c => exact .inl ⟨'t', by simp [letters, h_c], rfl⟩
  split
  next h_c => exact .inl ⟨'r', by simp [letters, h_c], rfl⟩
  split
  next h_c => exact .inl ⟨'0', by simp [letters, h_c], rfl⟩
  split
  next => exact .inr (.inl rfl)
  next => exact .inr (.inr ⟨h_backslash, h_newline, rfl⟩)

theorem letters_inj {c d letter : Char} (h_c : (c, letter) ∈ letters) (h_d : (d, letter) ∈ letters) :
    c = d := by
  have h_all : ∀ a ∈ letters, ∀ b ∈ letters, a.2 = b.2 → a.1 = b.1 := by decide
  exact h_all _ h_c _ h_d rfl

/-- No letter is that of a code point. -/
theorem ne_u_of_mem_letters {c letter : Char} (h_c : (c, letter) ∈ letters) : letter ≠ 'u' := by
  have h_all : ∀ a ∈ letters, a.2 ≠ 'u' := by decide
  exact h_all _ h_c

theorem escapeCodePoint_append_inj {c d : Char} {rest rest' : List Char}
    (h_eq : escapeCodePoint c ++ rest = escapeCodePoint d ++ rest') : c = d ∧ rest = rest' := by
  have h_closed : ∀ n, '\x7d' ∉ hexDigits n := not_mem_hexDigits (by decide)
  simp only [escapeCodePoint, List.append_assoc, List.cons_append, List.nil_append,
    List.cons.injEq, true_and] at h_eq
  obtain ⟨h_digits, h_rest⟩ := append_cons_inj (h_closed _) (h_closed _) h_eq
  exact ⟨Char.toNat_inj.mp (hexDigits_inj h_digits), h_rest⟩

/-- A written form can be taken off the front of a text. -/
theorem escapeChar_append_inj {c d : Char} {rest rest' : List Char}
    (h_eq : escapeChar '"' c ++ rest = escapeChar '"' d ++ rest') : c = d ∧ rest = rest' := by
  rcases escapeChar_cases c with ⟨letter, h_c, h_form⟩ | h_form | ⟨h_c, -, h_form⟩ <;>
    rcases escapeChar_cases d with ⟨letter', h_d, h_form'⟩ | h_form' | ⟨h_d, -, h_form'⟩ <;>
    rw [h_form, h_form'] at h_eq
  · obtain ⟨rfl, h_rest⟩ : letter = letter' ∧ rest = rest' := by simpa using h_eq
    exact ⟨letters_inj h_c h_d, h_rest⟩
  · exact absurd (by simp [escapeCodePoint] at h_eq; exact h_eq.1) (ne_u_of_mem_letters h_c)
  · simp [h_d.symm] at h_eq
  · exact absurd (by simp [escapeCodePoint] at h_eq; exact h_eq.1.symm) (ne_u_of_mem_letters h_d)
  · exact escapeCodePoint_append_inj h_eq
  · simp [escapeCodePoint, h_d.symm] at h_eq
  · simp [h_c] at h_eq
  · simp [escapeCodePoint, h_c] at h_eq
  · simpa using h_eq

theorem escapeChar_ne_nil (c : Char) : escapeChar '"' c ≠ [] := by
  rcases escapeChar_cases c with ⟨letter, -, h_form⟩ | h_form | ⟨-, -, h_form⟩ <;>
    simp [h_form, escapeCodePoint]

theorem escape_inj {cs ds : List Char} (h_eq : escape cs = escape ds) : cs = ds := by
  induction cs generalizing ds with
  | nil =>
    cases ds with
    | nil => rfl
    | cons d ds => simp [escape, escapeChar_ne_nil] at h_eq
  | cons c cs ih =>
    cases ds with
    | nil => simp [escape, escapeChar_ne_nil] at h_eq
    | cons d ds =>
      obtain ⟨rfl, h_rest⟩ := escapeChar_append_inj h_eq
      rw [ih h_rest]

theorem quote_inj {text other : String} (h_eq : quote text = quote other) : text = other := by
  unfold quote at h_eq
  rw [String.ofList_inj] at h_eq
  obtain ⟨h_front, -⟩ := List.append_inj' h_eq rfl
  exact String.toList_inj.mp (escape_inj (List.cons.inj h_front).2)

theorem newline_not_mem_escapeChar (c : Char) : '\n' ∉ escapeChar '"' c := by
  rcases escapeChar_cases c with ⟨letter, h_c, h_form⟩ | h_form | ⟨-, h_c, h_form⟩
  · have h_all : ∀ a ∈ letters, a.2 ≠ '\n' := by decide
    have h_letter : letter ≠ '\n' := h_all _ h_c
    simp [h_form, h_letter.symm]
  · have h_digits : '\n' ∉ hexDigits c.toNat := not_mem_hexDigits (by decide) _
    simp [h_form, escapeCodePoint, h_digits]
  · simp [h_form, h_c.symm]

/-- Quoted text stands on one line. -/
theorem newline_not_mem_quote (text : String) : '\n' ∉ (quote text).toList := by
  simp [quote, escape, newline_not_mem_escapeChar]

end FieldDelta.Text
