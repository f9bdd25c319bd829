import FieldDelta.Proofs.Quoting

/-! # Brackets in texts

Brackets close in the order in which a text opens them, the innermost first.  `due?` reads a text
behind the closing brackets that are still due, and fails where a bracket closes another one or
none at all.

* `due?` — what is due behind a text;
* `IsBalanced` — the texts that close what they open and nothing else;
* `isBalanced_quote_iff` — quotes and escapes change nothing about that.
-/

namespace FieldDelta.Text

/-- The bracket that closes what the character opens. -/
def closer? : Char → Option Char
  | '(' => some ')'
  | '[' => some ']'
  | '\x7b' => some '\x7d'
  | _ => none

def closers : List Char :=
  [')', ']', '\x7d']

/-- The closing brackets that are due after one more character, innermost first. -/
def dueAfter? (due : List Char) (c : Char) : Option (List Char) :=
  match closer? c with
  | some closer => some (closer :: due)
  | none =>
    if c ∈ closers then
      match due with
      | [] => none
      | closer :: outer => if c = closer then some outer else none
    else some due

/-- The closing brackets that are due behind the text. -/
def due? (due : List Char) (text : String) : Option (List Char) :=
  text.toList.foldlM dueAfter? due

/-- The text closes every bracket that it opens, and no other. -/
def IsBalanced (text : String) : Prop :=
  due? [] text = some []

instance (text : String) : Decidable (IsBalanced text) :=
  inferInstanceAs (Decidable (_ = _))

@[simp] theorem due?_append (due : List Char) (text more : String) :
    due? due (text ++ more) = (due? due text).bind (due? · more) := by
  simp [due?, List.foldlM_append]

/-- Reading a text that is given by its characters.  A literal is such a text: read this way, it
    is not taken apart into its bytes first. -/
theorem due?_ofList {due after : List Char} {cs : List Char}
    (h_cs : cs.foldlM dueAfter? due = some after) : due? due (String.ofList cs) = some after := by
  rw [due?, String.toList_ofList, h_cs]

/-! ## Only brackets count -/

def IsBracket (c : Char) : Prop :=
  (closer? c).isSome ∨ c ∈ closers

instance (c : Char) : Decidable (IsBracket c) :=
  inferInstanceAs (Decidable (_ ∨ _))

/-- The brackets of a text, in their order. -/
def brackets (text : List Char) : List Char :=
  text.filter IsBracket

@[simp] theorem brackets_append (text more : List Char) :
    brackets (text ++ more) = brackets text ++ brackets more :=
  List.filter_append text more

theorem isBracket_iff_mem (c : Char) :
    IsBracket c ↔ c ∈ ['(', '[', '\x7b', ')', ']', '\x7d'] := by
  unfold IsBracket closer? closers
  split <;> simp_all

theorem dueAfter?_of_not_isBracket {c : Char} (h_c : ¬ IsBracket c) (due : List Char) :
    dueAfter? due c = some due := by
  obtain ⟨h_closer, h_mem⟩ := not_or.mp h_c
  rw [Option.not_isSome_iff_eq_none] at h_closer
  simp [dueAfter?, h_closer, h_mem]

theorem foldlM_brackets (due : List Char) (text : List Char) :
    (brackets text).foldlM dueAfter? due = text.foldlM dueAfter? due := by
  induction text generalizing due with
  | nil => rfl
  | cons c rest ih =>
    by_cases h_c : IsBracket c
    · rw [brackets, List.filter_cons_of_pos (by simpa using h_c), List.foldlM_cons,
        List.foldlM_cons]
      exact congrArg _ (funext ih)
    · rw [brackets, List.filter_cons_of_neg (by simpa using h_c), List.foldlM_cons,
        dueAfter?_of_not_isBracket h_c]
      exact ih due

theorem due?_congr {text other : String}
    (h_brackets : brackets text.toList = brackets other.toList) (due : List Char) :
    due? due text = due? due other := by
  rw [due?, due?, ← foldlM_brackets, h_brackets, foldlM_brackets]

/-! ## Balanced texts -/

/-- What is due further out is left alone. -/
theorem dueAfter?_append {due after : List Char} {c : Char} (h_c : dueAfter? due c = some after)
    (outer : List Char) : dueAfter? (due ++ outer) c = some (after ++ outer) := by
  unfold dueAfter? at h_c ⊢
  split at h_c
  next => simp [← Option.some.inj h_c]
  split at h_c
  next h_mem =>
    cases due with
    | nil => cases h_c
    | cons closer rest =>
      obtain ⟨h_eq, h_rest⟩ := Option.ite_none_right_eq_some.mp h_c
      simp [h_mem, if_pos h_eq, ← Option.some.inj h_rest]
  next h_mem => simp [h_mem, ← Option.some.inj h_c]

theorem due?_append_due {due after : List Char} {text : String}
    (h_text : due? due text = some after) (outer : List Char) :
    due? (due ++ outer) text = some (after ++ outer) := by
  unfold due? at h_text ⊢
  generalize text.toList = cs at h_text ⊢
  induction cs generalizing due with
  | nil => simp_all
  | cons c rest ih =>
    rw [List.foldlM_cons] at h_text ⊢
    obtain ⟨next, h_c, h_rest⟩ := Option.bind_eq_some_iff.mp h_text
    rw [dueAfter?_append h_c outer]
    exact ih h_rest

namespace IsBalanced

variable {text more : String}

/-- A balanced text leaves open what stands open before it. -/
theorem due? (h_text : IsBalanced text) (due : List Char) : due? due text = some due :=
  due?_append_due h_text due

theorem append (h_text : IsBalanced text) (h_more : IsBalanced more) :
    IsBalanced (text ++ more) := by
  show Text.due? [] (text ++ more) = some []
  simp [h_text.due?, h_more.due?]

end IsBalanced

/-! ## Quoted texts -/

theorem not_isBracket_of_mem_hexDigits {c : Char} {n : Nat} (h_c : c ∈ hexDigits n) :
    ¬ IsBracket c := by
  intro h_bracket
  have h_digits : ∀ m < 16, ¬ IsBracket m.digitChar := by decide
  have h_apart : ∀ m < 16, m.digitChar ≠ c := by
    rintro m h_m rfl
    exact h_digits m h_m h_bracket
  exact not_mem_hexDigits h_apart n h_c

/-- The braces around a code point are a pair. -/
theorem brackets_escapeCodePoint (c : Char) :
    brackets (escapeCodePoint c) = ['\x7b', '\x7d'] := by
  have h_digits : brackets (hexDigits c.toNat) = [] :=
    List.filter_eq_nil_iff.mpr fun digit h_digit => by
      simpa using not_isBracket_of_mem_hexDigits h_digit
  have h_front : brackets ['\\', 'u', '\x7b'] = ['\x7b'] := by decide
  rw [escapeCodePoint, brackets_append, brackets_append, h_digits, h_front]
  rfl

theorem escapeChar_of_isBracket {c : Char} (h_c : IsBracket c) : escapeChar '"' c = [c] := by
  have h_all : ['(', '[', '\x7b', ')', ']', '\x7d'].all
      (fun bracket => escapeChar '"' bracket = [bracket]) = true := by decide +kernel
  exact of_decide_eq_true (List.all_eq_true.mp h_all c ((isBracket_iff_mem c).mp h_c))

/-- The written form of a character leaves due what the character does. -/
theorem foldlM_escapeChar (due : List Char) (c : Char) :
    (escapeChar '"' c).foldlM dueAfter? due = dueAfter? due c := by
  by_cases h_c : IsBracket c
  · simp [escapeChar_of_isBracket h_c]
  rw [dueAfter?_of_not_isBracket h_c]
  rcases escapeChar_cases c with ⟨letter, h_letter, h_form⟩ | h_form | ⟨-, -, h_form⟩
  · have h_all : ∀ written ∈ letters, brackets ['\\', written.2] = [] := by decide
    rw [h_form, ← foldlM_brackets, h_all _ h_letter]
    rfl
  · rw [h_form, ← foldlM_brackets, brackets_escapeCodePoint]
    rfl
  · simp [h_form, dueAfter?_of_not_isBracket h_c]

theorem foldlM_escape (due : List Char) (text : List Char) :
    (escape text).foldlM dueAfter? due = text.foldlM dueAfter? due := by
  induction text generalizing due with
  | nil => rfl
  | cons c rest ih =>
    have h_escape : escape (c :: rest) = escapeChar '"' c ++ escape rest := by
      simp [escape]
    rw [h_escape, List.foldlM_append, foldlM_escapeChar, List.foldlM_cons]
    exact congrArg _ (funext ih)

/-- A quoted text is balanced just where the text itself is. -/
theorem isBalanced_quote_iff (text : String) : IsBalanced (quote text) ↔ IsBalanced text := by
  have h_mark (due : List Char) : dueAfter? due '"' = some due :=
    dueAfter?_of_not_isBracket (by decide) due
  show due? [] (quote text) = some [] ↔ due? [] text = some []
  simp [due?, quote, List.foldlM_append, foldlM_escape, h_mark]

end FieldDelta.Text
