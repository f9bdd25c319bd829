import FieldDelta.Proofs.Syntax.Words

/-! # Literals stand by themselves

How far a literal reaches depends on what follows it: `1` goes on in `1.5` and ends in `1..5`.  Some
characters go on with no literal, and a literal that is followed by one of them ends where it ended
in the text that it was read from.

* `Lexer.Stops` — what goes on with no word and no literal;
* `Lexer.StandsAlone` — a reader of the lexer takes the same text off, whatever it stops at;
* `Lexer.standsAlone_afterLiteral?` — literals of all kinds are read that way.
-/

namespace FieldDelta.Syntax.Lexer

open Unicode (isIdentifierStart isIdentifierContinue)

/-! ## Stops -/

/-- Characters that go on with no word and no literal. -/
def stopMarks : List Char :=
  [' ', ':', '<', '>', ',', ';', ')', ']']

/-- What goes on with no word and no literal: the end of the text, or a stop mark. -/
def Stops : List Char → Prop
  | [] => True
  | c :: _ => c ∈ stopMarks

theorem Stops.not_continue {c : Char} {rest : List Char} (h_stops : Stops (c :: rest)) :
    isIdentifierContinue c = false := by
  have h_all : ∀ c ∈ stopMarks, isIdentifierContinue c = false := by decide
  exact h_all c h_stops

theorem Stops.not_start {c : Char} {rest : List Char} (h_stops : Stops (c :: rest)) :
    isIdentifierStart c = false := by
  have h_all : ∀ c ∈ stopMarks, isIdentifierStart c = false := by decide
  exact h_all c h_stops

/-- Characters that a literal can end with. -/
def EndsLiteral (c : Char) : Prop :=
  isIdentifierContinue c = true ∨ c ∈ ['"', '\'', '#', '.']

/-- What the reader takes off the text is the same wherever it stops. -/
def StandsAlone (after : List Char → Option (List Char)) (cs rest : List Char) : Prop :=
  ∃ front last, cs = front ++ last :: rest ∧ EndsLiteral last ∧
    ∀ rest', Stops rest' → after (front ++ last :: rest') = some rest'

/-! ## Suffixes -/

theorem dropWhile_append_of_stops {p : Char → Bool} {front rest : List Char}
    (h_front : ∀ c ∈ front, p c = true) (h_rest : ∀ c tail, rest = c :: tail → p c = false) :
    (front ++ rest).dropWhile p = rest := by
  induction front with
  | nil =>
    cases rest with
    | nil => rfl
    | cons c tail => simp [h_rest c tail rfl]
  | cons c front ih =>
    rw [List.forall_mem_cons] at h_front
    simp [h_front.1, ih h_front.2]

theorem afterName?_append {name rest : List Char} (h_name : IsIdentifier name)
    (h_rest : ∀ c tail, rest = c :: tail → isIdentifierContinue c = false) :
    afterName? (name ++ rest) = some rest := by
  obtain ⟨first, tail, rfl, h_first, h_tail⟩ := h_name
  rw [List.cons_append, afterName?, if_pos h_first, dropWhile_append_of_stops h_tail h_rest]

/-- A suffix, which may be missing. -/
def IsSuffix (cs : List Char) : Prop :=
  cs = [] ∨ IsIdentifier cs

theorem exists_suffix (cs : List Char) : ∃ suffix, IsSuffix suffix ∧ cs = suffix ++ afterSuffix cs := by
  unfold afterSuffix
  cases h_name : afterName? cs with
  | none => exact ⟨[], .inl rfl, rfl⟩
  | some rest =>
    obtain ⟨name, h_name, h_cs⟩ := eq_append_of_afterName? h_name
    exact ⟨name, .inr h_name, h_cs⟩

theorem afterSuffix_append {suffix rest : List Char} (h_suffix : IsSuffix suffix)
    (h_rest : Stops rest) : afterSuffix (suffix ++ rest) = rest := by
  unfold afterSuffix
  rcases h_suffix with rfl | h_name
  · cases rest with
    | nil => rfl
    | cons c tail => simp [afterName?, h_rest.not_start]
  · rw [afterName?_append h_name]
    · rfl
    · rintro c tail rfl
      exact h_rest.not_continue

/-- A suffix ends with a character that a literal can end with, and so does the text before it. -/
theorem exists_last_append {c : Char} {suffix : List Char} (h_c : EndsLiteral c)
    (h_suffix : IsSuffix suffix) :
    ∃ front last, c :: suffix = front ++ [last] ∧ EndsLiteral last := by
  rcases h_suffix with rfl | ⟨first, rest, rfl, h_first, h_rest⟩
  · exact ⟨[], c, rfl, h_c⟩
  · obtain rfl | ⟨init, last, rfl⟩ := List.eq_nil_or_concat rest
    · exact ⟨[c], first, rfl, .inl (Unicode.isIdentifierContinue_of_start h_first)⟩
    · refine ⟨c :: first :: init, last, by simp, .inl (h_rest last ?_)⟩
      simp

theorem standsAlone_suffix {after : List Char → Option (List Char)} (front : List Char)
    {cs : List Char} {c : Char} (h_c : EndsLiteral c)
    (h_after : ∀ cs, after (front ++ c :: cs) = some (afterSuffix cs)) :
    StandsAlone after (front ++ c :: cs) (afterSuffix cs) := by
  obtain ⟨suffix, h_suffix, h_cs⟩ := exists_suffix cs
  obtain ⟨init, last, h_last, h_ends⟩ := exists_last_append h_c h_suffix
  have h_append : ∀ rest, front ++ c :: (suffix ++ rest) = (front ++ init) ++ last :: rest := by
    intro rest
    rw [← List.cons_append, h_last]
    simp
  refine ⟨front ++ init, last, ?_, h_ends, fun rest' h_stops => ?_⟩
  · rw [← h_append, ← h_cs]
  · rw [← h_append, h_after, afterSuffix_append h_suffix h_stops]

/-! ## Escapes -/

theorem eq_append_of_codePoint? {value digits : Nat} {cs rest : List Char} {found : Nat}
    (h_found : codePoint? value digits cs = some (found, rest)) :
    ∃ front, cs = front ++ rest ∧
      ∀ rest', codePoint? value digits (front ++ rest') = some (found, rest') := by
  induction cs generalizing value digits with
  | nil => cases h_found
  | cons c cs ih =>
    rw [codePoint?] at h_found
    split at h_found
    next digit h_digit =>
      split at h_found
      · cases h_found
      next h_digits =>
        obtain ⟨front, rfl, h_front⟩ := ih h_found
        refine ⟨c :: front, rfl, fun rest' => ?_⟩
        rw [List.cons_append, codePoint?, h_digit]
        simp [h_digits, h_front]
    next h_digit =>
      split at h_found
      · cases h_found
      next h_digits =>
        split at h_found
        next h_underscore =>
          obtain ⟨front, rfl, h_front⟩ := ih h_found
          refine ⟨c :: front, rfl, fun rest' => ?_⟩
          rw [List.cons_append, codePoint?, h_digit]
          simp [h_digits, h_underscore, h_front]
        next h_underscore =>
          split at h_found
          next h_end =>
            cases h_found
            refine ⟨[c], rfl, fun rest' => ?_⟩
            rw [List.singleton_append, codePoint?, h_digit]
            simp [h_digits, h_end]
          next => cases h_found

/-- The escape takes the same text off, and stands for the same character, whatever follows. -/
def Escapes (alphabet : Alphabet) (front : List Char) (value : Option Nat) : Prop :=
  ∀ rest, escaped? alphabet (front ++ rest) = value.map (·, rest)

theorem Escapes.eq_append {alphabet : Alphabet} (front : List Char) {behind rest : List Char}
    (value : Option Nat) {found : Nat} (h_front : Escapes alphabet front value)
    (h_found : escaped? alphabet (front ++ behind) = some (found, rest)) :
    ∃ front', front ++ behind = front' ++ rest ∧
      ∀ rest', escaped? alphabet (front' ++ rest') = some (found, rest') := by
  rw [h_front behind, Option.map_eq_some_iff] at h_found
  obtain ⟨found', rfl, h_eq⟩ := h_found
  cases h_eq
  exact ⟨front, rfl, h_front⟩

theorem exists_escapes_hex (alphabet : Alphabet) (high low : Char) :
    ∃ value, Escapes alphabet ['x', high, low] value := by
  cases h_high : hexValue? high with
  | none => exact ⟨none, fun rest => by simp [escaped?, h_high]⟩
  | some h =>
    cases h_low : hexValue? low with
    | none => exact ⟨none, fun rest => by simp [escaped?, h_high, h_low]⟩
    | some l =>
      cases alphabet with
      | text =>
        refine ⟨if h < 8 then some (h * 16 + l) else none, fun rest => ?_⟩
        by_cases h_small : h < 8 <;> simp [escaped?, h_high, h_low, h_small]
      | bytes => exact ⟨some (h * 16 + l), fun rest => by simp [escaped?, h_high, h_low]⟩
      | zeroTerminated =>
        refine ⟨if h * 16 + l = 0 then none else some (h * 16 + l), fun rest => ?_⟩
        simp only [List.cons_append, List.nil_append, escaped?, h_high, h_low]
        split <;> rfl

theorem eq_append_of_escaped? {alphabet : Alphabet} {cs rest : List Char} {found : Nat}
    (h_found : escaped? alphabet cs = some (found, rest)) :
    ∃ front, cs = front ++ rest ∧
      ∀ rest', escaped? alphabet (front ++ rest') = some (found, rest') := by
  have h_escaped := h_found
  unfold escaped? at h_found
  split at h_found
  next high low cs =>
    obtain ⟨value, h_value⟩ := exists_escapes_hex alphabet high low
    exact Escapes.eq_append _ value h_value h_escaped
  next cs =>
    split at h_found
    next => cases h_found
    next => cases h_found
    next h_bytes h_zero =>
      obtain ⟨front, rfl, h_front⟩ := eq_append_of_codePoint? h_found
      refine ⟨'u' :: '\x7b' :: front, rfl, fun rest' => ?_⟩
      rw [List.cons_append, List.cons_append, escaped?, h_front]
      · exact h_bytes
      · intro snd h_alphabet h_eq
        rw [h_front] at h_eq
        cases h_eq
        exact h_zero rest h_alphabet h_found
  next cs => exact Escapes.eq_append ['n'] (some 0x0A) (fun _ => rfl) h_escaped
  next cs => exact Escapes.eq_append ['r'] (some 0x0D) (fun _ => rfl) h_escaped
  next cs => exact Escapes.eq_append ['t'] (some 0x09) (fun _ => rfl) h_escaped
  next cs => exact Escapes.eq_append ['\\'] (some 0x5C) (fun _ => rfl) h_escaped
  next cs => exact Escapes.eq_append ['\''] (some 0x27) (fun _ => rfl) h_escaped
  next cs => exact Escapes.eq_append ['"'] (some 0x22) (fun _ => rfl) h_escaped
  next cs =>
    refine Escapes.eq_append ['0']
      (if alphabet = .zeroTerminated then none else some 0) (fun rest => ?_) h_escaped
    simp only [List.cons_append, List.nil_append, escaped?]
    split <;> rfl
  next => cases h_found

theorem eq_append_of_afterContinuation? {cs rest : List Char}
    (h_after : afterContinuation? cs = some rest) :
    ∃ front, cs = front ++ rest ∧
      ∀ rest', rest'.head? = rest.head? → afterContinuation? (front ++ rest') = some rest' := by
  fun_induction afterContinuation? cs
  case case1 cs ih =>
    obtain ⟨front, rfl, h_front⟩ := ih h_after
    exact ⟨'\r' :: '\n' :: front, rfl, fun rest' h_head => by simp [afterContinuation?, h_front rest' h_head]⟩
  case case2 => cases h_after
  case case3 cs ih | case4 cs ih | case5 cs ih =>
    obtain ⟨front, rfl, h_front⟩ := ih h_after
    exact ⟨_ :: front, rfl, fun rest' h_head => by simp [afterContinuation?, h_front rest' h_head]⟩
  case case6 => cases h_after
  case case7 cs h_none h_return h_space h_tab h_line h_nil =>
    cases h_after
    refine ⟨[], rfl, fun rest' h_head => ?_⟩
    -- What follows begins with the same character, which is no blank.
    cases rest with
    | nil => exact absurd rfl h_nil
    | cons c tail =>
      cases rest' with
      | nil => cases h_head
      | cons c' tail' =>
        cases h_head
        rw [List.nil_append, afterContinuation?]
        · rintro _ h_eq
          cases h_eq
          exact h_return _ rfl
        · rintro _ h_eq
          cases h_eq
          exact h_return _ rfl
        · rintro _ h_eq
          cases h_eq
          exact h_space _ rfl
        · rintro _ h_eq
          cases h_eq
          exact h_tab _ rfl
        · rintro _ h_eq
          cases h_eq
          exact h_line _ rfl
        · nofun

/-! ## Strings -/

/-- A string with escapes takes the same text off in any number of steps that suffices. -/
def CookedAlone (alphabet : Alphabet) (cs rest : List Char) : Prop :=
  ∃ front last, cs = front ++ last :: rest ∧ EndsLiteral last ∧
    ∀ rest' steps, Stops rest' → front.length < steps →
      afterCooked? alphabet steps (front ++ last :: rest') = some rest'

theorem head?_append_last {front rest rest' : List Char} {last : Char} :
    (front ++ last :: rest').head? = (front ++ last :: rest).head? := by
  cases front <;> rfl

theorem CookedAlone.prepend {alphabet : Alphabet} (start : List Char) {cs rest : List Char}
    (h_cs : CookedAlone alphabet cs rest) (h_start : start ≠ [])
    (h_step : ∀ steps behind, behind.head? = cs.head? →
      afterCooked? alphabet (steps + 1) (start ++ behind) = afterCooked? alphabet steps behind) :
    CookedAlone alphabet (start ++ cs) rest := by
  obtain ⟨front, last, rfl, h_ends, h_front⟩ := h_cs
  refine ⟨start ++ front, last, by simp, h_ends, fun rest' steps h_stops h_steps => ?_⟩
  have h_length : 0 < start.length := List.length_pos_iff.mpr h_start
  rw [List.length_append] at h_steps
  cases steps with
  | zero => omega
  | succ steps =>
    rw [List.append_assoc, h_step steps _ head?_append_last]
    exact h_front rest' steps h_stops (by omega)

/-- A backslash at the end of a line goes with the blanks behind it. -/
theorem CookedAlone.continuation {alphabet : Alphabet} {c : Char} {cs behind rest : List Char}
    (h_c : c = '\n' ∨ c = '\r') (h_blanks : afterContinuation? (c :: cs) = some behind)
    (h_behind : CookedAlone alphabet behind rest) : CookedAlone alphabet ('\\' :: c :: cs) rest := by
  obtain ⟨front, h_front, h_same⟩ := eq_append_of_afterContinuation? h_blanks
  rw [h_front, ← List.cons_append]
  refine h_behind.prepend _ (by simp) fun steps behind' h_head => ?_
  have h_line : (front ++ behind').head? = some c := by
    have h_first : (front ++ behind).head? = some c := by rw [← h_front]; rfl
    cases front with
    | nil => exact h_head.trans h_first
    | cons d front => exact h_first
  obtain ⟨tail, h_tail⟩ := List.head?_eq_some_iff.mp h_line
  have h_blanks' := h_same behind' h_head
  rw [h_tail] at h_blanks'
  rw [List.cons_append, h_tail]
  rcases h_c with rfl | rfl
  all_goals
    rw [afterCooked?.eq_def]
    simp only [h_blanks', Option.bind_some]

theorem CookedAlone.escape {alphabet : Alphabet} {cs behind rest : List Char} {found : Nat}
    (h_escaped : escaped? alphabet cs = some (found, behind))
    (h_behind : CookedAlone alphabet behind rest) : CookedAlone alphabet ('\\' :: cs) rest := by
  obtain ⟨front, rfl, h_same⟩ := eq_append_of_escaped? h_escaped
  rw [← List.cons_append]
  refine h_behind.prepend _ (by simp) fun steps behind' h_head => ?_
  have h_found := h_same behind'
  rw [List.cons_append]
  generalize front ++ behind' = tail at h_found ⊢
  simp only [afterCooked?]
  split
  next => cases h_found
  next => cases h_found
  next => rw [h_found, Option.bind_some]

theorem cookedAlone_of_afterCooked? {alphabet : Alphabet} {steps : Nat} {cs rest : List Char}
    (h_after : afterCooked? alphabet steps cs = some rest) : CookedAlone alphabet cs rest := by
  induction steps generalizing cs with
  | zero => cases h_after
  | succ steps ih =>
    rw [afterCooked?.eq_def] at h_after
    dsimp only at h_after
    split at h_after
    next => cases h_after
    next cs =>
      -- The closing quote, and the suffix behind it.
      cases h_after
      obtain ⟨suffix, h_suffix, h_cs⟩ := exists_suffix cs
      obtain ⟨front, last, h_last, h_ends⟩ :=
        exists_last_append (c := '"') (.inr (by decide)) h_suffix
      have h_append : ∀ rest, '"' :: (suffix ++ rest) = front ++ last :: rest := by
        intro rest
        rw [← List.cons_append, h_last, List.append_assoc]
        rfl
      refine ⟨front, last, by rw [← h_append, ← h_cs], h_ends, fun rest' steps h_stops h_steps => ?_⟩
      cases steps with
      | zero => omega
      | succ steps =>
        rw [← h_append, afterCooked?.eq_def]
        exact congrArg some (afterSuffix_append h_suffix h_stops)
    next cs =>
      exact (ih h_after).prepend ['\r', '\n'] (by simp) fun _ _ _ => by
        rw [afterCooked?.eq_def]
        rfl
    next => cases h_after
    next cs =>
      split at h_after
      next =>
        obtain ⟨behind, h_blanks, h_after⟩ := Option.bind_eq_some_iff.mp h_after
        exact .continuation (.inl rfl) h_blanks (ih h_after)
      next =>
        obtain ⟨behind, h_blanks, h_after⟩ := Option.bind_eq_some_iff.mp h_after
        exact .continuation (.inr rfl) h_blanks (ih h_after)
      next =>
        obtain ⟨⟨found, behind⟩, h_escaped, h_after⟩ := Option.bind_eq_some_iff.mp h_after
        exact .escape h_escaped (ih h_after)
    next c cs h_quote h_line h_return h_backslash =>
      rw [Option.ite_none_right_eq_some] at h_after
      obtain ⟨h_admits, h_after⟩ := h_after
      refine (ih h_after).prepend [c] (by simp) fun steps behind' h_head => ?_
      rw [List.singleton_append, afterCooked?, if_pos h_admits]
      · exact h_quote
      · exact fun _ h_eq => absurd h_eq h_return
      · exact h_return
      · exact h_backslash

/-! ## Raw strings -/

/-- Whether a text begins with another one is settled within a front that is long enough. -/
theorem isPrefixOf_append_of_length_le {mark front rest : List Char} (rest' : List Char)
    (h_length : mark.length ≤ front.length) :
    mark.isPrefixOf (front ++ rest) = mark.isPrefixOf (front ++ rest') := by
  have h_iff : ∀ rest, mark <+: front ++ rest ↔ mark <+: front := fun rest =>
    ⟨fun h_begins => List.prefix_of_prefix_length_le h_begins (List.prefix_append _ _) h_length,
      fun h_begins => h_begins.trans (List.prefix_append _ _)⟩
  rw [Bool.eq_iff_iff, List.isPrefixOf_iff_prefix, List.isPrefixOf_iff_prefix, h_iff, h_iff]

/-- The body of a raw string takes the same text off.  The front is at least as long as the hashes
    that end it, so no quote in it ends the string earlier. -/
def RawAlone (alphabet : Alphabet) (hashes cs rest : List Char) : Prop :=
  ∃ front last, cs = front ++ last :: rest ∧ EndsLiteral last ∧ hashes.length ≤ front.length ∧
    ∀ rest', Stops rest' →
      afterRawBody? alphabet hashes (front ++ last :: rest') = some rest'

theorem RawAlone.prepend {alphabet : Alphabet} {hashes : List Char} (start : List Char)
    {cs rest : List Char}
    (h_cs : RawAlone alphabet hashes cs rest)
    (h_step : ∀ front last rest', cs = front ++ last :: rest → hashes.length ≤ front.length →
      afterRawBody? alphabet hashes (start ++ (front ++ last :: rest')) =
        afterRawBody? alphabet hashes (front ++ last :: rest')) :
    RawAlone alphabet hashes (start ++ cs) rest := by
  obtain ⟨front, last, h_eq, h_ends, h_length, h_front⟩ := h_cs
  refine ⟨start ++ front, last, by simp [h_eq], h_ends, by simp; omega, fun rest' h_stops => ?_⟩
  rw [List.append_assoc, h_step front last rest' h_eq h_length, h_front rest' h_stops]

theorem rawAlone_of_afterRawBody? {alphabet : Alphabet} {hashes cs rest : List Char}
    (h_hashes : ∀ c ∈ hashes, c = '#') (h_after : afterRawBody? alphabet hashes cs = some rest) :
    RawAlone alphabet hashes cs rest := by
  fun_induction afterRawBody? alphabet hashes cs
  case case1 => cases h_after
  case case2 cs h_closed =>
    cases h_after
    obtain ⟨behind, rfl⟩ := List.isPrefixOf_iff_prefix.mp h_closed
    rw [List.drop_left]
    obtain ⟨init, e, h_init, h_e⟩ : ∃ init e, '"' :: hashes = init ++ [e] ∧ EndsLiteral e := by
      obtain rfl | ⟨init, e, rfl⟩ := List.eq_nil_or_concat hashes
      · exact ⟨[], '"', rfl, .inr (by decide)⟩
      · refine ⟨'"' :: init, e, by simp, .inr ?_⟩
        rw [h_hashes e (by simp)]
        decide
    obtain ⟨suffix, h_suffix, h_behind⟩ := exists_suffix behind
    obtain ⟨front, last, h_last, h_ends⟩ := exists_last_append h_e h_suffix
    have h_append : ∀ rest, '"' :: (hashes ++ (suffix ++ rest)) = (init ++ front) ++ last :: rest := by
      intro rest
      rw [← List.cons_append, h_init, List.append_assoc, List.append_assoc, List.singleton_append,
        ← List.cons_append, h_last, List.append_assoc]
      rfl
    refine ⟨init ++ front, last, by rw [← h_append, ← h_behind], h_ends, ?_, fun rest' h_stops => ?_⟩
    · have h_length := congrArg List.length h_init
      simp at h_length
      simp
      omega
    · rw [← h_append, afterRawBody?, if_pos (by simp), List.drop_left]
      exact congrArg some (afterSuffix_append h_suffix h_stops)
  case case3 cs h_open ih =>
    refine (ih h_after).prepend ['"'] fun front last rest' h_eq h_length => ?_
    rw [List.singleton_append, afterRawBody?, if_neg]
    rwa [isPrefixOf_append_of_length_le (last :: rest) h_length, ← h_eq]
  case case4 cs ih =>
    exact (ih h_after).prepend ['\r', '\n'] fun _ _ _ _ _ => by
      rw [List.cons_append, List.cons_append, List.nil_append, afterRawBody?]
  case case5 => cases h_after
  case case6 c cs h_quote h_line h_return h_admits ih =>
    refine (ih h_after).prepend [c] fun front last rest' h_eq h_length => ?_
    rw [List.singleton_append, afterRawBody?, if_pos h_admits]
    · exact h_quote
    · exact fun _ h_eq => absurd h_eq h_return
    · exact h_return
  case case7 => cases h_after

theorem standsAlone_afterRaw? {alphabet : Alphabet} {cs rest : List Char}
    (h_after : afterRaw? alphabet cs = some rest) : StandsAlone (afterRaw? alphabet) cs rest := by
  generalize h_hashes : cs.takeWhile (· == '#') = hashes at h_after
  have h_all : ∀ c ∈ hashes, c = '#' := by
    intro c h_c
    rw [← h_hashes] at h_c
    simpa using List.mem_takeWhile_imp h_c
  have h_cs : cs = hashes ++ cs.drop hashes.length := by
    have h_begins := List.prefix_iff_eq_append.mp (List.takeWhile_prefix (· == '#') (l := cs))
    rwa [h_hashes, eq_comm] at h_begins
  unfold afterRaw? at h_after
  rw [h_hashes] at h_after
  dsimp only at h_after
  split at h_after
  next body h_drop =>
    rw [Option.ite_none_right_eq_some] at h_after
    obtain ⟨h_few, h_after⟩ := h_after
    obtain ⟨front, last, rfl, h_ends, -, h_front⟩ := rawAlone_of_afterRawBody? h_all h_after
    rw [h_drop] at h_cs
    refine ⟨hashes ++ '"' :: front, last, by simp [h_cs], h_ends, fun rest' h_stops => ?_⟩
    have h_take : (hashes ++ '"' :: (front ++ last :: rest')).takeWhile (· == '#') = hashes := by
      rw [List.takeWhile_append_of_pos (by simpa using h_all)]
      simp
    rw [List.append_assoc, List.cons_append]
    unfold afterRaw?
    rw [h_take]
    simp only [List.drop_left, if_pos h_few]
    exact h_front rest' h_stops
  next => cases h_after

theorem StandsAlone.prepend {after after' : List Char → Option (List Char)} (start : List Char)
    {cs rest : List Char} (h_cs : StandsAlone after cs rest)
    (h_step : ∀ behind, after' (start ++ behind) = after behind) :
    StandsAlone after' (start ++ cs) rest := by
  obtain ⟨front, last, rfl, h_ends, h_front⟩ := h_cs
  refine ⟨start ++ front, last, by simp, h_ends, fun rest' h_stops => ?_⟩
  rw [List.append_assoc, h_step, h_front rest' h_stops]

/-- A string literal reads its body in as many steps as the text has characters. -/
theorem standsAlone_cooked {alphabet : Alphabet} (start : List Char) {cs rest : List Char}
    (h_step : ∀ behind, afterString? (start ++ behind) =
      afterCooked? alphabet (start ++ behind).length behind)
    (h_after : afterString? (start ++ cs) = some rest) :
    StandsAlone afterString? (start ++ cs) rest := by
  rw [h_step] at h_after
  obtain ⟨front, last, rfl, h_ends, h_front⟩ := cookedAlone_of_afterCooked? h_after
  refine ⟨start ++ front, last, by simp, h_ends, fun rest' h_stops => ?_⟩
  rw [List.append_assoc, h_step]
  exact h_front rest' _ h_stops (by simp; omega)

theorem standsAlone_afterString? {cs rest : List Char} (h_after : afterString? cs = some rest) :
    StandsAlone afterString? cs rest := by
  have h_string := h_after
  unfold afterString? at h_after
  dsimp only at h_after
  split at h_after
  next cs => exact standsAlone_cooked ['"'] (fun _ => rfl) h_string
  next cs => exact (standsAlone_afterRaw? h_after).prepend ['r'] fun _ => rfl
  next cs => exact standsAlone_cooked ['b', '"'] (fun _ => rfl) h_string
  next cs => exact (standsAlone_afterRaw? h_after).prepend ['b', 'r'] fun _ => rfl
  next cs => exact standsAlone_cooked ['c', '"'] (fun _ => rfl) h_string
  next cs => exact (standsAlone_afterRaw? h_after).prepend ['c', 'r'] fun _ => rfl
  next => cases h_after

/-! ## Characters -/

theorem standsAlone_afterClosingQuote? {cs rest : List Char}
    (h_after : afterClosingQuote? cs = some rest) : StandsAlone afterClosingQuote? cs rest := by
  unfold afterClosingQuote? at h_after
  split at h_after
  next cs =>
    cases h_after
    exact standsAlone_suffix [] (.inr (by decide)) fun _ => rfl
  next => cases h_after

theorem standsAlone_afterCharBody? {alphabet : Alphabet} {cs rest : List Char}
    (h_after : afterCharBody? alphabet cs = some rest) :
    StandsAlone (afterCharBody? alphabet) cs rest := by
  unfold afterCharBody? at h_after
  split at h_after
  next cs =>
    obtain ⟨⟨found, behind⟩, h_escaped, h_closing⟩ := Option.bind_eq_some_iff.mp h_after
    obtain ⟨front, rfl, h_same⟩ := eq_append_of_escaped? h_escaped
    refine (standsAlone_afterClosingQuote? h_closing).prepend ('\\' :: front) fun behind => ?_
    rw [List.cons_append, afterCharBody?, h_same, Option.bind_some]
  next c cs h_backslash =>
    rw [Option.ite_none_left_eq_some] at h_after
    obtain ⟨h_bytes, h_after⟩ := h_after
    refine (standsAlone_afterClosingQuote? h_after).prepend [c] fun behind => ?_
    rw [List.singleton_append, afterCharBody?, if_neg h_bytes]
    exact h_backslash
  next => cases h_after

theorem standsAlone_afterCharacter? {cs rest : List Char}
    (h_after : afterCharacter? cs = some rest) : StandsAlone afterCharacter? cs rest := by
  unfold afterCharacter? at h_after
  split at h_after
  next cs => exact (standsAlone_afterCharBody? h_after).prepend ['b', '\''] fun _ => rfl
  next cs => exact (standsAlone_afterCharBody? h_after).prepend ['\''] fun _ => rfl
  next => cases h_after

/-! ## Digits and suffixes of numbers -/

/-- The text does not go on with a character that satisfies `p`. -/
def EndsBefore (p : Char → Bool) (cs : List Char) : Prop :=
  ∀ c tail, cs = c :: tail → p c = false

theorem endsBefore_nil (p : Char → Bool) : EndsBefore p [] := by
  intro c tail h_eq
  cases h_eq

theorem endsBefore_dropWhile (p : Char → Bool) (cs : List Char) :
    EndsBefore p (cs.dropWhile p) := by
  intro c tail h_eq
  have h_head := List.head?_dropWhile_not p cs
  rw [h_eq] at h_head
  exact h_head

theorem EndsBefore.append {p : Char → Bool} {front rest rest' : List Char}
    (h_ends : EndsBefore p (front ++ rest)) (h_rest : EndsBefore p rest') :
    EndsBefore p (front ++ rest') := by
  cases front with
  | nil => exact h_rest
  | cons c front =>
    rintro _ _ ⟨⟩
    exact h_ends c (front ++ rest) rfl

theorem Stops.endsBefore {p : Char → Bool} (h_marks : ∀ c ∈ stopMarks, p c = false)
    {rest : List Char} (h_stops : Stops rest) : EndsBefore p rest := by
  rintro c tail rfl
  exact h_marks c h_stops

/-- No digit in the given base goes on here, nor one that the base lacks. -/
def isDigitIn (base : Nat) (c : Char) : Bool :=
  c == '_' || (hexValue? c).any fun digit => digit < base || c.isDigit

theorem toNat_lt_of_hexValue? {c : Char} {digit : Nat} (h_digit : hexValue? c = some digit) :
    c.toNat < 128 := by
  unfold hexValue? at h_digit
  split at h_digit
  next h_decimal =>
    simp only [Char.isDigit, Bool.and_eq_true, decide_eq_true_eq, ge_iff_le,
      UInt32.le_iff_toNat_le] at h_decimal
    have h_code : c.toNat ≤ 57 := h_decimal.2
    omega
  split at h_digit
  next h_lower =>
    have h_code : c.toNat ≤ 102 := h_lower.2
    omega
  split at h_digit
  next h_upper =>
    have h_code : c.toNat ≤ 70 := h_upper.2
    omega
  next => cases h_digit

theorem isContinue_of_hexValue? {c : Char} {digit : Nat} (h_digit : hexValue? c = some digit) :
    isIdentifierContinue c = true := by
  have h_all : ∀ n < 128, hexValue? (Char.ofNat n) ≠ none →
      isIdentifierContinue (Char.ofNat n) = true := by
    decide
  rw [← Char.ofNat_toNat c]
  refine h_all _ (toNat_lt_of_hexValue? h_digit) ?_
  rw [Char.ofNat_toNat, h_digit]
  exact Option.some_ne_none _

theorem afterDigits?_of_endsBefore {base : Nat} {rest : List Char}
    (h_rest : EndsBefore (isDigitIn base) rest) : afterDigits? base false rest = some rest := by
  cases rest with
  | nil => rfl
  | cons c tail =>
    have h_c := h_rest c tail rfl
    rw [isDigitIn, Bool.or_eq_false_iff] at h_c
    rw [afterDigits?, if_neg (by simpa using h_c.1)]
    cases h_digit : hexValue? c with
    | none => rfl
    | some digit =>
      have h_end := h_c.2
      rw [h_digit, Option.any_some, Bool.or_eq_false_iff] at h_end
      simp at h_end
      simp [h_end, Nat.not_lt.mpr h_end.1]

theorem eq_append_of_afterDigits? {base : Nat} {empty : Bool} {cs rest : List Char}
    (h_after : afterDigits? base empty cs = some rest) :
    ∃ digits, cs = digits ++ rest ∧ (empty = true → digits ≠ []) ∧
      (∀ c ∈ digits, isIdentifierContinue c = true) ∧ EndsBefore (isDigitIn base) rest ∧
      ∀ rest', EndsBefore (isDigitIn base) rest' →
        afterDigits? base empty (digits ++ rest') = some rest' := by
  fun_induction afterDigits? base empty cs
  case case1 | case3 | case6 | case8 => cases h_after
  case case2 empty h_empty =>
    cases h_after
    rw [Bool.not_eq_true] at h_empty
    subst h_empty
    exact ⟨[], rfl, nofun, nofun, nofun, fun _ => afterDigits?_of_endsBefore⟩
  case case4 empty cs h_base ih =>
    obtain ⟨digits, rfl, -, h_digits, h_ends, h_same⟩ := ih h_after
    refine ⟨'_' :: digits, rfl, fun _ => List.cons_ne_nil _ _,
      List.forall_mem_cons.mpr ⟨by decide, h_digits⟩, h_ends, fun rest' h_rest => ?_⟩
    rw [List.cons_append, afterDigits?, if_pos rfl, if_neg h_base, h_same rest' h_rest]
  case case5 c cs h_underscore digit h_digit h_less ih =>
    obtain ⟨digits, rfl, -, h_digits, h_ends, h_same⟩ := ih h_after
    refine ⟨c :: digits, rfl, fun _ => List.cons_ne_nil _ _,
      List.forall_mem_cons.mpr ⟨isContinue_of_hexValue? h_digit, h_digits⟩, h_ends,
      fun rest' h_rest => ?_⟩
    rw [List.cons_append, afterDigits?, if_neg h_underscore, h_digit]
    simp [h_less, h_same rest' h_rest]
  case case7 empty c cs h_underscore digit h_digit h_less h_end =>
    cases h_after
    rw [not_or, Bool.not_eq_true, Bool.not_eq_true] at h_end
    obtain ⟨h_letter, rfl⟩ := h_end
    refine ⟨[], rfl, nofun, nofun, ?_, fun _ => afterDigits?_of_endsBefore⟩
    rintro _ _ ⟨⟩
    simp [isDigitIn, h_underscore, h_digit, h_less, h_letter]
  case case9 empty c cs h_underscore h_digit h_empty =>
    cases h_after
    rw [Bool.not_eq_true] at h_empty
    subst h_empty
    refine ⟨[], rfl, nofun, nofun, ?_, fun _ => afterDigits?_of_endsBefore⟩
    rintro _ _ ⟨⟩
    simp [isDigitIn, h_underscore, h_digit]

theorem wordEnd?_eq_some {cs rest : List Char} :
    wordEnd? cs = some rest ↔ cs = rest ∧ EndsBefore isIdentifierContinue rest := by
  unfold wordEnd?
  split
  next c tail =>
    rw [Option.ite_none_left_eq_some]
    constructor
    · rintro ⟨h_c, ⟨⟩⟩
      refine ⟨rfl, ?_⟩
      rintro _ _ ⟨⟩
      simpa using h_c
    · rintro ⟨rfl, h_ends⟩
      exact ⟨by simp [h_ends c tail rfl], rfl⟩
  next =>
    constructor
    · rintro ⟨⟩
      exact ⟨rfl, nofun⟩
    · rintro ⟨rfl, -⟩
      rfl

theorem eq_append_of_afterNumberSuffix? {cs rest : List Char}
    (h_after : afterNumberSuffix? cs = some rest) :
    ∃ suffix, IsSuffix suffix ∧ cs = suffix ++ rest ∧ EndsBefore isIdentifierContinue rest := by
  obtain ⟨suffix, h_suffix, h_cs⟩ := exists_suffix cs
  obtain ⟨h_rest, h_ends⟩ := wordEnd?_eq_some.mp h_after
  rw [h_rest] at h_cs
  exact ⟨suffix, h_suffix, h_cs, h_ends⟩

theorem afterNumberSuffix?_append {suffix rest : List Char} (h_suffix : IsSuffix suffix)
    (h_stops : Stops rest) : afterNumberSuffix? (suffix ++ rest) = some rest := by
  rw [afterNumberSuffix?, afterSuffix_append h_suffix h_stops]
  refine wordEnd?_eq_some.mpr ⟨rfl, ?_⟩
  rintro c tail rfl
  exact h_stops.not_continue

/-! ## Integers -/

theorem IsSuffix.isContinue {suffix : List Char} (h_suffix : IsSuffix suffix) :
    ∀ c ∈ suffix, isIdentifierContinue c = true := by
  rcases h_suffix with rfl | ⟨first, rest, rfl, h_first, h_rest⟩
  · nofun
  · exact List.forall_mem_cons.mpr ⟨Unicode.isIdentifierContinue_of_start h_first, h_rest⟩

theorem standsAlone_of_append {after : List Char → Option (List Char)} {text rest : List Char}
    (h_text : text ≠ []) (h_last : EndsLiteral (text.getLast h_text))
    (h_after : ∀ rest', Stops rest' → after (text ++ rest') = some rest') :
    StandsAlone after (text ++ rest) rest := by
  refine ⟨text.dropLast, text.getLast h_text, ?_, h_last, fun rest' h_stops => ?_⟩
  · rw [← List.singleton_append, ← List.append_assoc, List.dropLast_concat_getLast]
  · rw [← List.singleton_append, ← List.append_assoc, List.dropLast_concat_getLast]
    exact h_after rest' h_stops

theorem isDigit_of_afterDigits? {c : Char} {cs rest : List Char}
    (h_after : afterDigits? 10 true (c :: cs) = some rest) : c.isDigit = true := by
  by_contra h_letter
  rw [afterDigits?] at h_after
  have h_none : ∀ digit, hexValue? c = some digit → ¬ digit < 10 := by
    intro digit h_digit
    unfold hexValue? at h_digit
    rw [if_neg h_letter] at h_digit
    split at h_digit
    · cases h_digit
      omega
    · split at h_digit
      · cases h_digit
        omega
      · cases h_digit
  split at h_after
  · simp at h_after
  · split at h_after
    next digit h_digit => simp [h_none digit h_digit] at h_after
    next => simp at h_after

theorem Stops.endsDigits {base : Nat} {rest : List Char} (h_stops : Stops rest) :
    EndsBefore (isDigitIn base) rest := by
  refine h_stops.endsBefore fun c h_c => ?_
  have h_all : ∀ c ∈ stopMarks, (c == '_') = false ∧ hexValue? c = none := by decide
  simp [isDigitIn, h_all c h_c]

theorem eq_append_of_digits {base : Nat} {cs rest : List Char}
    (h_after : (afterDigits? base true cs).bind afterNumberSuffix? = some rest) :
    ∃ text, text ≠ [] ∧ cs = text ++ rest ∧ (∀ c ∈ text, isIdentifierContinue c = true) ∧
      EndsBefore isIdentifierContinue rest ∧ ∀ rest', Stops rest' →
        (afterDigits? base true (text ++ rest')).bind afterNumberSuffix? = some rest' := by
  obtain ⟨behind, h_digits, h_number⟩ := Option.bind_eq_some_iff.mp h_after
  obtain ⟨digits, rfl, h_empty, h_chars, h_behind, h_same⟩ := eq_append_of_afterDigits? h_digits
  obtain ⟨suffix, h_suffix, rfl, h_rest⟩ := eq_append_of_afterNumberSuffix? h_number
  refine ⟨digits ++ suffix, ?_, by simp, ?_, h_rest, fun rest' h_stops => ?_⟩
  · exact List.append_ne_nil_of_left_ne_nil (h_empty rfl) _
  · exact List.forall_mem_append.mpr ⟨h_chars, h_suffix.isContinue⟩
  · rw [List.append_assoc, h_same _ (h_behind.append h_stops.endsDigits), Option.bind_some]
    exact afterNumberSuffix?_append h_suffix h_stops

/-- The text of an integer: a digit, and what may follow it. -/
theorem eq_append_of_afterInteger? {cs rest : List Char} (h_after : afterInteger? cs = some rest) :
    ∃ first text, cs = first :: (text ++ rest) ∧ first.isDigit = true ∧
      (∀ c ∈ text, isIdentifierContinue c = true) ∧ EndsBefore isIdentifierContinue rest ∧
      ∀ rest', Stops rest' → afterInteger? (first :: (text ++ rest')) = some rest' := by
  -- Behind the mark of a base, its digits.
  have h_marked : ∀ mark base, isIdentifierContinue mark = true →
      (∀ behind, afterInteger? ('0' :: mark :: behind) =
        (afterDigits? base true behind).bind afterNumberSuffix?) →
      ∀ behind, cs = '0' :: mark :: behind → ∃ first text, cs = first :: (text ++ rest) ∧
        first.isDigit = true ∧ (∀ c ∈ text, isIdentifierContinue c = true) ∧
        EndsBefore isIdentifierContinue rest ∧
        ∀ rest', Stops rest' → afterInteger? (first :: (text ++ rest')) = some rest' := by
    rintro mark base h_mark h_step behind rfl
    rw [h_step] at h_after
    obtain ⟨text, -, rfl, h_text, h_rest, h_same⟩ := eq_append_of_digits h_after
    refine ⟨'0', mark :: text, rfl, rfl, List.forall_mem_cons.mpr ⟨h_mark, h_text⟩, h_rest, ?_⟩
    intro rest' h_stops
    rw [List.cons_append, h_step, h_same rest' h_stops]
  by_cases h_base : ∃ mark ∈ ['x', 'o', 'b'], ∃ behind, cs = '0' :: mark :: behind
  · obtain ⟨mark, h_mark, behind, h_cs⟩ := h_base
    simp only [List.mem_cons, List.not_mem_nil, or_false] at h_mark
    rcases h_mark with rfl | rfl | rfl
    · exact h_marked 'x' 16 (by decide) (fun _ => rfl) behind h_cs
    · exact h_marked 'o' 8 (by decide) (fun _ => rfl) behind h_cs
    · exact h_marked 'b' 2 (by decide) (fun _ => rfl) behind h_cs
  · have h_decimal : ∀ cs, (¬ ∃ mark ∈ ['x', 'o', 'b'], ∃ behind, cs = '0' :: mark :: behind) →
        afterInteger? cs = (afterDigits? 10 true cs).bind afterNumberSuffix? := by
      intro cs h_base
      unfold afterInteger?
      split
      next => exact absurd ⟨'x', by simp, _, rfl⟩ h_base
      next => exact absurd ⟨'o', by simp, _, rfl⟩ h_base
      next => exact absurd ⟨'b', by simp, _, rfl⟩ h_base
      next => rfl
    rw [h_decimal cs h_base] at h_after
    obtain ⟨text, h_ne, rfl, h_text, h_rest, h_same⟩ := eq_append_of_digits h_after
    obtain ⟨first, text, rfl⟩ := List.exists_cons_of_ne_nil h_ne
    obtain ⟨_, h_digits, -⟩ := Option.bind_eq_some_iff.mp h_after
    refine ⟨first, text, rfl, isDigit_of_afterDigits? h_digits,
      (List.forall_mem_cons.mp h_text).2, h_rest, fun rest' h_stops => ?_⟩
    rw [h_decimal, ← List.cons_append, h_same rest' h_stops]
    rintro ⟨mark, h_mark, behind, h_eq⟩
    cases text with
    | nil =>
      -- What follows a single digit does not mark a base.
      cases h_eq
      have h_all : ∀ mark ∈ ['x', 'o', 'b'], mark ∉ stopMarks := by decide
      exact h_all mark h_mark h_stops
    | cons second text =>
      cases h_eq
      exact h_base ⟨mark, h_mark, _, rfl⟩

/-! ## Floating point numbers -/

theorem isContinue_of_isDigitOrUnderscore {c : Char} (h_c : isDigitOrUnderscore c = true) :
    isIdentifierContinue c = true := by
  rw [isDigitOrUnderscore, Bool.or_eq_true] at h_c
  rcases h_c with h_digit | h_underscore
  · have h_value : hexValue? c = some (c.toNat - '0'.toNat) := by rw [hexValue?, if_pos h_digit]
    exact isContinue_of_hexValue? h_value
  · rw [beq_iff_eq.mp h_underscore]
    decide

theorem Stops.endsDecimal {rest : List Char} (h_stops : Stops rest) :
    EndsBefore isDigitOrUnderscore rest :=
  h_stops.endsBefore (by decide)

/-- The digits of an exponent: an underscore may be among them, and a digit is. -/
structure IsExponentDigits (digits : List Char) : Prop where
  chars : ∀ c ∈ digits, isDigitOrUnderscore c = true
  any : digits.any Char.isDigit = true

/-- A sign, or none where no further underscore can be taken from the digits. -/
def IsSign (sign digits : List Char) : Prop :=
  sign = ['+'] ∨ sign = ['-'] ∨ (sign = [] ∧ EndsBefore (· == '_') digits)

theorem afterExponent?_append {underscores sign digits rest : List Char}
    (h_underscores : ∀ c ∈ underscores, (c == '_') = true) (h_sign : IsSign sign digits)
    (h_digits : IsExponentDigits digits) (h_rest : EndsBefore isDigitOrUnderscore rest) :
    afterExponent? (underscores ++ (sign ++ (digits ++ rest))) = some rest := by
  have h_behind : (digits ++ rest).dropWhile isDigitOrUnderscore = rest :=
    dropWhile_append_of_stops h_digits.chars h_rest
  have h_front : EndsBefore (· == '_') (sign ++ (digits ++ rest)) := by
    rcases h_sign with rfl | rfl | ⟨rfl, h_first⟩
    · rintro _ _ ⟨⟩
      rfl
    · rintro _ _ ⟨⟩
      rfl
    · obtain ⟨first, digits, rfl⟩ : ∃ first behind, digits = first :: behind := by
        refine List.exists_cons_of_ne_nil ?_
        rintro rfl
        exact absurd h_digits.any (by decide)
      rintro _ _ ⟨⟩
      exact h_first _ _ rfl
  unfold afterExponent?
  rw [dropWhile_append_of_stops h_underscores h_front]
  rcases h_sign with rfl | rfl | ⟨rfl, -⟩
  · simp [h_behind, taken_append, h_digits.any]
  · simp [h_behind, taken_append, h_digits.any]
  · -- The first digit is no sign.
    have h_taken : (taken (digits ++ rest) rest).any Char.isDigit = true := by
      rw [taken_append, h_digits.any]
    have h_first : ∀ c tail, digits ++ rest = c :: tail → isDigitOrUnderscore c = true := by
      intro c tail h_eq
      cases digits with
      | nil => exact absurd h_digits.any (by decide)
      | cons first digits =>
        cases h_eq
        exact h_digits.chars _ (.head _)
    rw [List.nil_append]
    generalize digits ++ rest = unsigned at h_behind h_taken h_first ⊢
    split
    next => exact absurd (h_first _ _ rfl) (by decide)
    next => exact absurd (h_first _ _ rfl) (by decide)
    next => simp only [h_behind, if_pos h_taken]

theorem eq_append_of_afterExponent? {cs rest : List Char}
    (h_after : afterExponent? cs = some rest) :
    ∃ underscores sign digits, cs = underscores ++ (sign ++ (digits ++ rest)) ∧
      (∀ c ∈ underscores, (c == '_') = true) ∧ IsSign sign digits ∧ IsExponentDigits digits ∧
      EndsBefore isDigitOrUnderscore rest := by
  have h_cs := List.takeWhile_append_dropWhile (p := (· == '_')) (l := cs)
  have h_underscores : ∀ c ∈ cs.takeWhile (· == '_'), (c == '_') = true := by
    intro c h_c
    exact List.mem_takeWhile_imp (p := (· == '_')) h_c
  have h_front := endsBefore_dropWhile (· == '_') cs
  -- The digits are those behind the sign, and the text ends with them.
  have h_unsigned : ∀ unsigned, (if (taken unsigned (unsigned.dropWhile isDigitOrUnderscore)).any
      Char.isDigit then some (unsigned.dropWhile isDigitOrUnderscore) else none) = some rest →
      ∃ digits, unsigned = digits ++ rest ∧ IsExponentDigits digits ∧
        EndsBefore isDigitOrUnderscore rest := by
    intro unsigned h_some
    rw [Option.ite_none_right_eq_some] at h_some
    obtain ⟨h_any, h_rest⟩ := h_some
    cases h_rest
    have h_split := List.takeWhile_append_dropWhile (p := isDigitOrUnderscore) (l := unsigned)
    have h_taken : taken unsigned (unsigned.dropWhile isDigitOrUnderscore) =
        unsigned.takeWhile isDigitOrUnderscore := by
      have h_append := taken_append (unsigned.takeWhile isDigitOrUnderscore)
        (unsigned.dropWhile isDigitOrUnderscore)
      rwa [h_split] at h_append
    rw [h_taken] at h_any
    exact ⟨_, h_split.symm, ⟨fun c h_c => List.mem_takeWhile_imp h_c, h_any⟩,
      endsBefore_dropWhile _ _⟩
  unfold afterExponent? at h_after
  dsimp only at h_after
  generalize cs.dropWhile (· == '_') = behind at h_cs h_front h_after
  split at h_after
  next unsigned =>
    obtain ⟨digits, rfl, h_digits, h_rest⟩ := h_unsigned _ h_after
    exact ⟨_, ['+'], digits, h_cs.symm, h_underscores, .inl rfl, h_digits, h_rest⟩
  next unsigned =>
    obtain ⟨digits, rfl, h_digits, h_rest⟩ := h_unsigned _ h_after
    exact ⟨_, ['-'], digits, h_cs.symm, h_underscores, .inr (.inl rfl), h_digits, h_rest⟩
  next =>
    obtain ⟨digits, rfl, h_digits, h_rest⟩ := h_unsigned _ h_after
    refine ⟨_, [], digits, h_cs.symm, h_underscores, .inr (.inr ⟨rfl, ?_⟩), h_digits, h_rest⟩
    rintro c tail rfl
    exact h_front c _ rfl

/-- An exponent, without the letter in front. -/
structure IsExponent (text : List Char) : Prop where
  chars : ∀ c ∈ text, c ∈ ['+', '-'] ∨ isDigitOrUnderscore c = true
  last : ∃ init last, text = init ++ [last] ∧ isDigitOrUnderscore last = true
  after : ∀ rest, EndsBefore isDigitOrUnderscore rest → afterExponent? (text ++ rest) = some rest

theorem exists_isExponent {cs rest : List Char} (h_after : afterExponent? cs = some rest) :
    ∃ text, IsExponent text ∧ cs = text ++ rest ∧ EndsBefore isDigitOrUnderscore rest := by
  obtain ⟨underscores, sign, digits, rfl, h_underscores, h_sign, h_digits, h_rest⟩ :=
    eq_append_of_afterExponent? h_after
  refine ⟨underscores ++ (sign ++ digits), ⟨?_, ?_, fun rest h_rest => ?_⟩, by simp, h_rest⟩
  · refine List.forall_mem_append.mpr ⟨fun c h_c => .inr ?_, List.forall_mem_append.mpr
      ⟨fun c h_c => ?_, fun c h_c => .inr (h_digits.chars c h_c)⟩⟩
    · simp [isDigitOrUnderscore, h_underscores c h_c]
    · rcases h_sign with rfl | rfl | ⟨rfl, -⟩
      · rw [List.mem_singleton.mp h_c]
        exact .inl (.head _)
      · rw [List.mem_singleton.mp h_c]
        exact .inl (.tail _ (.head _))
      · cases h_c
  · obtain rfl | ⟨init, last, rfl⟩ := List.eq_nil_or_concat digits
    · exact absurd h_digits.any (by decide)
    · exact ⟨underscores ++ (sign ++ init), last, by simp, h_digits.chars last (by simp)⟩
  · rw [List.append_assoc, List.append_assoc]
    exact afterExponent?_append h_underscores h_sign h_digits h_rest

/-- An exponent does not reach beyond a stop. -/
theorem exists_isExponent_of_stops {front rest behind : List Char} (h_stops : Stops rest)
    (h_after : afterExponent? (front ++ rest) = some behind) :
    ∃ text middle, front = text ++ middle ∧ behind = middle ++ rest ∧ IsExponent text ∧
      EndsBefore isDigitOrUnderscore behind := by
  obtain ⟨text, h_text, h_eq, h_behind⟩ := exists_isExponent h_after
  rcases List.append_eq_append_iff.mp h_eq with ⟨middle, h_front, h_rest⟩ | ⟨middle, h_front, h_rest⟩
  · cases middle with
    | nil => exact ⟨text, [], by simp [h_front], by simp [h_rest], h_text, h_behind⟩
    | cons c middle =>
      -- A stop is neither a sign nor a digit.
      rw [h_rest] at h_stops
      have h_all : ∀ c ∈ stopMarks, c ∉ ['+', '-'] ∧ isDigitOrUnderscore c = false := by decide
      obtain ⟨h_sign, h_digit⟩ := h_all c h_stops
      rcases h_text.chars c (by simp [h_front]) with h_c | h_c
      · exact absurd h_c h_sign
      · rw [h_digit] at h_c
        cases h_c
  · exact ⟨text, middle, h_front, h_rest, h_text, h_behind⟩

theorem afterFloatTail?_letter {pointed : Bool} {letter : Char} (cs : List Char)
    (h_letter : letter ∈ ['e', 'E']) :
    afterFloatTail? pointed (letter :: cs) =
      (afterExponent? cs).or (if pointed then some (letter :: cs) else none) := by
  simp only [List.mem_cons, List.not_mem_nil, or_false] at h_letter
  rcases h_letter with rfl | rfl <;> rfl

theorem afterFloatTail?_other {pointed : Bool} {cs : List Char}
    (h_other : ∀ letter ∈ ['e', 'E'], ∀ behind, cs ≠ letter :: behind) :
    afterFloatTail? pointed cs = if pointed then some cs else none := by
  unfold afterFloatTail?
  split
  next => exact absurd rfl (h_other 'e' (by simp) _)
  next => exact absurd rfl (h_other 'E' (by simp) _)
  next => rfl

theorem EndsBefore.mono {p q : Char → Bool} {cs : List Char} (h_cs : EndsBefore p cs)
    (h_imp : ∀ c, q c = true → p c = true) : EndsBefore q cs := by
  intro c tail h_eq
  have h_c := h_cs c tail h_eq
  cases h_q : q c with
  | false => rfl
  | true =>
    rw [h_imp c h_q] at h_c
    cases h_c

/-- What follows the digits of a floating point number, or those behind its point. -/
structure IsFloatTail (pointed : Bool) (text : List Char) : Prop where
  ne_nil : pointed = false → text ≠ []
  starts : ∀ c tail, text = c :: tail → isIdentifierStart c = true
  last : ∀ h_text : text ≠ [], EndsLiteral (text.getLast h_text)
  after : ∀ rest, Stops rest →
    (afterFloatTail? pointed (text ++ rest)).bind afterNumberSuffix? = some rest

theorem getLast_append_suffix {text suffix : List Char} {last : Char} (h_last : EndsLiteral last)
    (h_suffix : IsSuffix suffix) :
    ∀ h_text : text ++ last :: suffix ≠ [],
      EndsLiteral ((text ++ last :: suffix).getLast h_text) := by
  intro h_text
  rw [List.getLast_append_of_ne_nil h_text (List.cons_ne_nil _ _)]
  rcases List.mem_cons.mp (List.getLast_mem (List.cons_ne_nil last suffix)) with h_eq | h_mem
  · rwa [h_eq]
  · exact .inl (h_suffix.isContinue _ h_mem)

/-- Behind an exponent, only a suffix can follow. -/
theorem isFloatTail_exponent {pointed : Bool} {letter : Char} {exponent suffix : List Char}
    (h_letter : letter ∈ ['e', 'E']) (h_exponent : IsExponent exponent)
    (h_suffix : IsSuffix suffix) (h_ends : ∀ rest, Stops rest →
      EndsBefore isDigitOrUnderscore (suffix ++ rest)) :
    IsFloatTail pointed (letter :: (exponent ++ suffix)) where
  ne_nil _ := List.cons_ne_nil _ _
  starts := by
    rintro _ _ ⟨⟩
    have h_all : ∀ letter ∈ ['e', 'E'], isIdentifierStart letter = true := by decide
    exact h_all letter h_letter
  last := by
    obtain ⟨init, last, rfl, h_last⟩ := h_exponent.last
    rw [List.append_assoc, ← List.cons_append]
    exact getLast_append_suffix (.inl (isContinue_of_isDigitOrUnderscore h_last)) h_suffix
  after rest h_stops := by
    rw [List.cons_append, List.append_assoc, afterFloatTail?_letter _ h_letter,
      h_exponent.after _ (h_ends rest h_stops)]
    exact afterNumberSuffix?_append h_suffix h_stops

/-- Behind a point, a suffix may follow at once.  If it begins with the letter of an exponent, then
    what follows is none, and no stop makes it one. -/
theorem isFloatTail_suffix {suffix rest : List Char} (h_suffix : IsSuffix suffix)
    (h_rest : EndsBefore isIdentifierContinue rest)
    (h_none : ∀ letter ∈ ['e', 'E'], ∀ more, suffix = letter :: more →
      afterExponent? (more ++ rest) = none) :
    IsFloatTail true suffix where
  ne_nil := nofun
  starts := by
    rintro c tail rfl
    cases h_suffix with
    | inl h_nil => cases h_nil
    | inr h_name =>
      obtain ⟨first, behind, h_eq, h_first, -⟩ := h_name
      cases h_eq
      exact h_first
  last h_ne := .inl (h_suffix.isContinue _ (List.getLast_mem h_ne))
  after rest' h_stops := by
    have h_tail : afterFloatTail? true (suffix ++ rest') = some (suffix ++ rest') := by
      by_cases h_letter : ∃ letter ∈ ['e', 'E'], ∃ more, suffix = letter :: more
      · obtain ⟨letter, h_letter, more, rfl⟩ := h_letter
        have h_exponent : afterExponent? (more ++ rest') = none := by
          cases h_some : afterExponent? (more ++ rest') with
          | none => rfl
          | some behind =>
            obtain ⟨exponent, middle, rfl, rfl, h_text, h_behind⟩ :=
              exists_isExponent_of_stops h_stops h_some
            have h_found := h_none letter h_letter _ rfl
            rw [List.append_assoc, h_text.after _ (h_behind.append
              (h_rest.mono fun _ => isContinue_of_isDigitOrUnderscore))] at h_found
            cases h_found
        rw [List.cons_append, afterFloatTail?_letter _ h_letter, h_exponent]
        rfl
      · rw [afterFloatTail?_other]
        · rfl
        · intro letter h_mem behind h_eq
          cases suffix with
          | nil =>
            have h_all : ∀ letter ∈ ['e', 'E'], letter ∉ stopMarks := by decide
            rw [List.nil_append] at h_eq
            rw [h_eq] at h_stops
            exact h_all letter h_mem h_stops
          | cons c more =>
            cases h_eq
            exact h_letter ⟨letter, h_mem, more, rfl⟩
    rw [h_tail, Option.bind_some]
    exact afterNumberSuffix?_append h_suffix h_stops

theorem exists_isFloatTail {pointed : Bool} {cs rest : List Char}
    (h_after : (afterFloatTail? pointed cs).bind afterNumberSuffix? = some rest) :
    ∃ text, IsFloatTail pointed text ∧ cs = text ++ rest ∧
      EndsBefore isIdentifierContinue rest := by
  -- Without an exponent there has to be a point, and the text is a suffix.
  have h_plain (h_tail : afterFloatTail? pointed cs = if pointed then some cs else none)
      (h_none : ∀ letter ∈ ['e', 'E'], ∀ more, cs = letter :: more →
        afterExponent? more = none) :
      ∃ text, IsFloatTail pointed text ∧ cs = text ++ rest ∧
        EndsBefore isIdentifierContinue rest := by
    cases pointed with
    | false =>
      rw [h_tail] at h_after
      cases h_after
    | true =>
      rw [h_tail] at h_after
      obtain ⟨suffix, h_suffix, rfl, h_rest⟩ := eq_append_of_afterNumberSuffix? h_after
      refine ⟨suffix, isFloatTail_suffix h_suffix h_rest fun letter h_letter more h_eq => ?_,
        rfl, h_rest⟩
      rw [h_eq] at h_none
      exact h_none letter h_letter _ rfl
  by_cases h_letter : ∃ letter ∈ ['e', 'E'], ∃ more, cs = letter :: more
  · obtain ⟨letter, h_letter, more, rfl⟩ := h_letter
    cases h_exponent : afterExponent? more with
    | none =>
      refine h_plain (by rw [afterFloatTail?_letter _ h_letter, h_exponent]; rfl) ?_
      rintro _ - _ ⟨⟩
      exact h_exponent
    | some behind =>
      rw [afterFloatTail?_letter _ h_letter, h_exponent] at h_after
      obtain ⟨exponent, h_text, rfl, h_behind⟩ := exists_isExponent h_exponent
      obtain ⟨suffix, h_suffix, rfl, h_rest⟩ := eq_append_of_afterNumberSuffix? h_after
      exact ⟨letter :: (exponent ++ suffix), isFloatTail_exponent h_letter h_text h_suffix
        fun rest' h_stops => h_behind.append h_stops.endsDecimal, by simp, h_rest⟩
  · refine h_plain (afterFloatTail?_other fun letter h_mem more h_eq =>
      h_letter ⟨letter, h_mem, more, h_eq⟩) ?_
    intro letter h_mem more h_eq
    exact absurd ⟨letter, h_mem, more, h_eq⟩ h_letter

/-- A point is followed neither by another one nor by a name. -/
def isPointRefused (c : Char) : Bool :=
  c == '.' || isIdentifierStart c

/-- The digits in front of a floating point number. -/
structure IsDecimal (digits : List Char) : Prop where
  first : ∃ first rest, digits = first :: rest ∧ first.isDigit = true
  chars : ∀ c ∈ digits, isDigitOrUnderscore c = true

theorem afterFloat?_pointed {digits fraction : List Char} (h_digits : IsDecimal digits)
    (h_fraction : EndsBefore isPointRefused fraction) :
    afterFloat? (digits ++ '.' :: fraction) =
      (afterFloatTail? true (fraction.dropWhile isDigitOrUnderscore)).bind afterNumberSuffix? := by
  have h_drop : (digits ++ '.' :: fraction).dropWhile isDigitOrUnderscore = '.' :: fraction := by
    refine dropWhile_append_of_stops h_digits.chars ?_
    rintro _ _ ⟨⟩
    decide
  obtain ⟨first, behind, rfl, h_first⟩ := h_digits.first
  rw [List.cons_append] at h_drop ⊢
  rw [afterFloat?, if_pos h_first]
  simp only [h_drop]
  cases fraction with
  | nil => rfl
  | cons c tail =>
    have h_c := h_fraction c tail rfl
    rw [isPointRefused, Bool.or_eq_false_iff, beq_eq_false_iff_ne] at h_c
    simp [h_c.1, h_c.2]

theorem afterFloat?_plain {digits tail : List Char} (h_digits : IsDecimal digits)
    (h_tail : EndsBefore (fun c => isDigitOrUnderscore c || c == '.') tail) :
    afterFloat? (digits ++ tail) = (afterFloatTail? false tail).bind afterNumberSuffix? := by
  have h_drop : (digits ++ tail).dropWhile isDigitOrUnderscore = tail := by
    refine dropWhile_append_of_stops h_digits.chars fun c behind h_eq => ?_
    exact (Bool.or_eq_false_iff.mp (h_tail c behind h_eq)).1
  obtain ⟨first, behind, rfl, h_first⟩ := h_digits.first
  rw [List.cons_append] at h_drop ⊢
  rw [afterFloat?, if_pos h_first]
  simp only [h_drop]
  split
  next fraction => exact absurd (h_tail '.' fraction rfl) (by decide)
  next => rfl

theorem isDecimal_takeWhile {c : Char} (cs : List Char) (h_c : c.isDigit = true) :
    IsDecimal ((c :: cs).takeWhile isDigitOrUnderscore) where
  first := by
    have h_first : isDigitOrUnderscore c = true := by simp [isDigitOrUnderscore, h_c]
    rw [List.takeWhile_cons_of_pos h_first]
    exact ⟨c, _, rfl, h_c⟩
  chars _ h_mem := List.mem_takeWhile_imp h_mem

theorem afterFloat?_cases {cs rest : List Char} (h_after : afterFloat? cs = some rest) :
    (∃ digits fraction, IsDecimal digits ∧ cs = digits ++ '.' :: fraction ∧
      EndsBefore isPointRefused fraction ∧
      (afterFloatTail? true (fraction.dropWhile isDigitOrUnderscore)).bind afterNumberSuffix? =
        some rest) ∨
    (∃ digits tail, IsDecimal digits ∧ cs = digits ++ tail ∧
      EndsBefore (fun c => isDigitOrUnderscore c || c == '.') tail ∧
      (afterFloatTail? false tail).bind afterNumberSuffix? = some rest) := by
  cases cs with
  | nil => cases h_after
  | cons c cs =>
    have h_digit : c.isDigit = true := by
      by_contra h_letter
      rw [afterFloat?, if_neg h_letter] at h_after
      cases h_after
    have h_digits := isDecimal_takeWhile cs h_digit
    have h_cs := List.takeWhile_append_dropWhile (p := isDigitOrUnderscore) (l := c :: cs)
    have h_ends := endsBefore_dropWhile isDigitOrUnderscore (c :: cs)
    generalize h_tail : (c :: cs).dropWhile isDigitOrUnderscore = tail at h_cs h_ends
    by_cases h_point : ∃ fraction, tail = '.' :: fraction
    · obtain ⟨fraction, rfl⟩ := h_point
      have h_fraction : EndsBefore isPointRefused fraction := by
        rintro d behind rfl
        by_contra h_refused
        rw [Bool.not_eq_false, isPointRefused, Bool.or_eq_true, beq_iff_eq] at h_refused
        rw [afterFloat?, if_pos h_digit, h_tail] at h_after
        simp [h_refused] at h_after
      rw [← h_cs, afterFloat?_pointed h_digits h_fraction] at h_after
      exact .inl ⟨_, fraction, h_digits, h_cs.symm, h_fraction, h_after⟩
    · have h_plain : EndsBefore (fun c => isDigitOrUnderscore c || c == '.') tail := by
        rintro d behind rfl
        refine Bool.or_eq_false_iff.mpr ⟨h_ends d behind rfl, ?_⟩
        rw [beq_eq_false_iff_ne]
        rintro rfl
        exact h_point ⟨behind, rfl⟩
      rw [← h_cs, afterFloat?_plain h_digits h_plain] at h_after
      exact .inr ⟨_, tail, h_digits, h_cs.symm, h_plain, h_after⟩

theorem standsAlone_afterFloat? {cs rest : List Char} (h_after : afterFloat? cs = some rest) :
    StandsAlone afterFloat? cs rest := by
  rcases afterFloat?_cases h_after with
    ⟨digits, fraction, h_digits, rfl, h_fraction, h_tail⟩ | ⟨digits, tail, h_digits, rfl, h_ends, h_tail⟩
  · obtain ⟨text, h_text, h_eq, -⟩ := exists_isFloatTail h_tail
    have h_split := List.takeWhile_append_dropWhile (p := isDigitOrUnderscore) (l := fraction)
    have h_behind := endsBefore_dropWhile isDigitOrUnderscore fraction
    have h_chars : ∀ c ∈ fraction.takeWhile isDigitOrUnderscore, isDigitOrUnderscore c = true :=
      fun c h_c => List.mem_takeWhile_imp h_c
    generalize fraction.takeWhile isDigitOrUnderscore = decimals at h_split h_chars
    rw [h_eq] at h_split h_behind
    rw [← h_split] at h_fraction ⊢
    have h_point : '.' :: (decimals ++ text) ≠ [] := List.cons_ne_nil _ _
    have h_last : EndsLiteral (('.' :: (decimals ++ text)).getLast h_point) := by
      by_cases h_nil : text = []
      · subst h_nil
        rcases List.mem_cons.mp (List.getLast_mem h_point) with h_eq | h_mem
        · rw [h_eq]
          exact .inr (by decide)
        · cases List.mem_append.mp h_mem with
          | inl h_mem => exact .inl (isContinue_of_isDigitOrUnderscore (h_chars _ h_mem))
          | inr h_mem => cases h_mem
      · show EndsLiteral ((('.' :: decimals) ++ text).getLast h_point)
        rw [List.getLast_append_of_ne_nil _ h_nil]
        exact h_text.last h_nil
    have h_whole : digits ++ '.' :: (decimals ++ text) ≠ [] :=
      List.append_ne_nil_of_right_ne_nil _ h_point
    have h_alone : StandsAlone afterFloat? ((digits ++ '.' :: (decimals ++ text)) ++ rest) rest := by
      refine standsAlone_of_append h_whole ?_ fun rest' h_stops => ?_
      · rwa [List.getLast_append_of_ne_nil h_whole h_point]
      · rw [List.append_assoc, List.cons_append, List.append_assoc]
        have h_marks : ∀ c ∈ stopMarks, isPointRefused c = false := by decide
        rw [← List.append_assoc] at h_fraction
        have h_refused := h_fraction.append (h_stops.endsBefore h_marks)
        rw [List.append_assoc] at h_refused
        rw [afterFloat?_pointed h_digits h_refused,
          dropWhile_append_of_stops h_chars (h_behind.append h_stops.endsDecimal)]
        exact h_text.after rest' h_stops
    simpa using h_alone
  · obtain ⟨text, h_text, rfl, -⟩ := exists_isFloatTail h_tail
    have h_ne := h_text.ne_nil rfl
    have h_whole : digits ++ text ≠ [] := List.append_ne_nil_of_right_ne_nil _ h_ne
    rw [← List.append_assoc]
    refine standsAlone_of_append h_whole ?_ fun rest' h_stops => ?_
    · rw [List.getLast_append_of_ne_nil h_whole h_ne]
      exact h_text.last h_ne
    · rw [List.append_assoc, afterFloat?_plain h_digits
        (h_ends.append (h_stops.endsBefore (by decide)))]
      exact h_text.after rest' h_stops

/-! ## Literals -/

theorem afterNumberSuffix?_names {names rest : List Char}
    (h_names : ∀ c ∈ names, isIdentifierContinue c = true)
    (h_rest : EndsBefore isIdentifierContinue rest) :
    afterNumberSuffix? (names ++ rest) =
      if names.head?.all isIdentifierStart then some rest else none := by
  have h_end : wordEnd? rest = some rest := wordEnd?_eq_some.mpr ⟨rfl, h_rest⟩
  unfold afterNumberSuffix? afterSuffix
  cases names with
  | nil =>
    have h_none : afterName? rest = none := by
      cases rest with
      | nil => rfl
      | cons c tail =>
        have h_start := h_rest.mono (fun _ => Unicode.isIdentifierContinue_of_start) c tail rfl
        simp [afterName?, h_start]
    simp [h_none, h_end]
  | cons c names =>
    rw [List.forall_mem_cons] at h_names
    rw [List.cons_append, afterName?, dropWhile_append_of_stops h_names.2 h_rest]
    cases h_start : isIdentifierStart c with
    | true => simp [h_start, h_end]
    | false => simp [h_start, wordEnd?, h_names.1]

/-- What is no floating point number does not become one at a stop. -/
theorem afterFloat?_eq_none {text rest rest' : List Char} (h_stops : Stops rest')
    (h_text : ∀ c ∈ text, isIdentifierContinue c = true)
    (h_rest : EndsBefore isIdentifierContinue rest) (h_none : afterFloat? (text ++ rest) = none) :
    afterFloat? (text ++ rest') = none := by
  cases h_some : afterFloat? (text ++ rest') with
  | none => rfl
  | some behind =>
    exfalso
    -- The digits end within the text.
    have h_within : ∀ digits tail, IsDecimal digits → text ++ rest' = digits ++ tail →
        ∃ middle, text = digits ++ middle ∧ tail = middle ++ rest' := by
      intro digits tail h_digits h_eq
      rcases List.append_eq_append_iff.mp h_eq with
        ⟨middle, h_front, h_behind⟩ | ⟨middle, h_front, h_behind⟩
      · cases middle with
        | nil => exact ⟨[], by simpa using h_front.symm, by simpa using h_behind.symm⟩
        | cons c middle =>
          have h_digit := h_digits.chars c (by simp [h_front])
          have h_end := h_stops.endsDecimal c (middle ++ tail) (by simp [h_behind])
          rw [h_digit] at h_end
          cases h_end
      · exact ⟨middle, h_front, h_behind⟩
    rcases afterFloat?_cases h_some with
      ⟨digits, fraction, h_digits, h_eq, -, -⟩ | ⟨digits, tail, h_digits, h_eq, h_ends, h_tail⟩
    · obtain ⟨middle, rfl, h_middle⟩ := h_within _ _ h_digits h_eq
      cases middle with
      | nil =>
        rw [List.nil_append] at h_middle
        rw [← h_middle] at h_stops
        have h_point : '.' ∉ stopMarks := by decide
        exact h_point h_stops
      | cons c middle =>
        cases h_middle
        exact absurd (h_text '.' (by simp)) (by decide)
    · obtain ⟨middle, rfl, rfl⟩ := h_within _ _ h_digits h_eq
      by_cases h_letter : ∃ letter ∈ ['e', 'E'], ∃ more, middle = letter :: more
      · obtain ⟨letter, h_letter, more, rfl⟩ := h_letter
        rw [List.cons_append, afterFloatTail?_letter _ h_letter] at h_tail
        obtain ⟨left, h_left, h_suffix⟩ := Option.bind_eq_some_iff.mp h_tail
        have h_exponent : afterExponent? (more ++ rest') = some left := by
          cases h_some : afterExponent? (more ++ rest') with
          | none =>
            rw [h_some] at h_left
            cases h_left
          | some found =>
            rw [h_some] at h_left
            exact h_left
        obtain ⟨exponent, names, rfl, rfl, h_exponent, h_names⟩ :=
          exists_isExponent_of_stops h_stops h_exponent
        -- The same exponent is read in the other text.
        have h_decimal := h_rest.mono fun _ => isContinue_of_isDigitOrUnderscore
        have h_head : EndsBefore (fun c => isDigitOrUnderscore c || c == '.')
            (letter :: (exponent ++ names) ++ rest) := by
          rintro _ _ ⟨⟩
          exact h_ends _ _ rfl
        have h_chars : ∀ c ∈ names, isIdentifierContinue c = true := by
          intro c h_c
          exact h_text c (by simp [h_c])
        rw [List.append_assoc, afterFloat?_plain h_digits h_head, List.cons_append,
          afterFloatTail?_letter _ h_letter, List.append_assoc,
          h_exponent.after _ (h_names.append h_decimal), Option.some_or, Option.bind_some,
          afterNumberSuffix?_names h_chars h_rest] at h_none
        rw [afterNumberSuffix?_names h_chars fun c tail h_eq => by
          rw [h_eq] at h_stops
          exact h_stops.not_continue] at h_suffix
        split at h_none
        next => cases h_none
        next h_start =>
          rw [if_neg h_start] at h_suffix
          cases h_suffix
      · rw [afterFloatTail?_other] at h_tail
        · cases h_tail
        · intro letter h_mem behind h_eq
          cases middle with
          | nil =>
            have h_all : ∀ letter ∈ ['e', 'E'], letter ∉ stopMarks := by decide
            rw [List.nil_append] at h_eq
            rw [h_eq] at h_stops
            exact h_all letter h_mem h_stops
          | cons c more =>
            cases h_eq
            exact h_letter ⟨letter, h_mem, more, rfl⟩

theorem StandsAlone.mono {after after' : List Char → Option (List Char)} {cs rest : List Char}
    (h_cs : StandsAlone after cs rest)
    (h_imp : ∀ cs rest, after cs = some rest → after' cs = some rest) :
    StandsAlone after' cs rest := by
  obtain ⟨front, last, h_eq, h_ends, h_front⟩ := h_cs
  exact ⟨front, last, h_eq, h_ends, fun rest' h_stops => h_imp _ _ (h_front rest' h_stops)⟩

/-- No string and no character begins with a digit. -/
theorem afterString?_of_isDigit {c : Char} (h_c : c.isDigit = true) (cs : List Char) :
    afterString? (c :: cs) = none ∧ afterCharacter? (c :: cs) = none := by
  have h_ne : ∀ mark ∈ ['"', 'r', 'b', 'c', '\''], c ≠ mark := by
    rintro mark h_mark rfl
    revert h_mark h_c
    have h_all : ∀ mark ∈ ['"', 'r', 'b', 'c', '\''], ¬ mark.isDigit = true := by decide
    exact fun h_digit h_mark => h_all c h_mark h_digit
  constructor
  · unfold afterString?
    dsimp only
    split
    all_goals
      first
      | rfl
      | exact absurd (List.cons.inj ‹c :: cs = _›).1 (h_ne _ (by simp))
  · unfold afterCharacter?
    split
    all_goals
      first
      | rfl
      | exact absurd (List.cons.inj ‹c :: cs = _›).1 (h_ne _ (by simp))

theorem afterLiteral?_of_afterFloat? {cs rest : List Char} (h_after : afterFloat? cs = some rest) :
    afterLiteral? cs = some rest := by
  cases cs with
  | nil => cases h_after
  | cons c cs =>
    have h_digit : c.isDigit = true := by
      by_contra h_letter
      rw [afterFloat?, if_neg h_letter] at h_after
      cases h_after
    obtain ⟨h_string, h_character⟩ := afterString?_of_isDigit h_digit cs
    rw [afterLiteral?, h_string, h_character, h_after]
    rfl

theorem afterLiteral?_of_afterCharacter? {cs rest : List Char}
    (h_after : afterCharacter? cs = some rest) : afterLiteral? cs = some rest := by
  have h_string : afterString? cs = none := by
    unfold afterCharacter? at h_after
    split at h_after
    next => rfl
    next => rfl
    next => cases h_after
  rw [afterLiteral?, h_string, h_after]
  rfl

/-- A literal of any kind is read as it stands, whatever it stops at. -/
theorem standsAlone_afterLiteral? {cs rest : List Char} (h_after : afterLiteral? cs = some rest) :
    StandsAlone afterLiteral? cs rest := by
  unfold afterLiteral? at h_after
  cases h_string : afterString? cs with
  | some found =>
    rw [h_string] at h_after
    cases h_after
    exact (standsAlone_afterString? h_string).mono fun _ _ h_found => by
      rw [afterLiteral?, h_found, Option.some_or]
  | none =>
    cases h_character : afterCharacter? cs with
    | some found =>
      rw [h_string, h_character] at h_after
      cases h_after
      exact (standsAlone_afterCharacter? h_character).mono fun _ _ =>
        afterLiteral?_of_afterCharacter?
    | none =>
      cases h_float : afterFloat? cs with
      | some found =>
        rw [h_string, h_character, h_float] at h_after
        cases h_after
        exact (standsAlone_afterFloat? h_float).mono fun _ _ => afterLiteral?_of_afterFloat?
      | none =>
        rw [h_string, h_character, h_float] at h_after
        obtain ⟨first, text, rfl, h_first, h_text, h_rest, h_same⟩ :=
          eq_append_of_afterInteger? h_after
        have h_chars : ∀ c ∈ first :: text, isIdentifierContinue c = true := by
          refine List.forall_mem_cons.mpr ⟨isContinue_of_isDigitOrUnderscore ?_, h_text⟩
          rw [isDigitOrUnderscore, h_first, Bool.true_or]
        rw [← List.cons_append] at h_float ⊢
        refine standsAlone_of_append (List.cons_ne_nil _ _)
          (.inl (h_chars _ (List.getLast_mem (List.cons_ne_nil _ _)))) fun rest' h_stops => ?_
        obtain ⟨h_string', h_character'⟩ := afterString?_of_isDigit h_first (text ++ rest')
        have h_float' := afterFloat?_eq_none h_stops h_chars h_rest h_float
        rw [List.cons_append] at h_float' ⊢
        rw [afterLiteral?, h_string', h_character', h_float', h_same rest' h_stops]
        rfl

end FieldDelta.Syntax.Lexer
