import FieldDelta.Proofs.Syntax.Consumes
import FieldDelta.Proofs.Syntax.Lexemes

/-! # What readers write

A reader of the grammar turns the trees it reads into phrases.  If the trees can be written, so can
the phrases: their words and literals are those of the trees, and what stands close together in
them stood so in the trees or belongs to an operator.  As with `Reader.Advances`, this is a class, so
that it is found for a reader from its parts.

* `TokenTree.Writable` — lemmas about trees that can be written;
* `Content`, `Sound` — what has to hold of a reader's answer for it to be written;
* `Reader.Writes` — the readers that write what they read.
-/

namespace FieldDelta.Syntax

open TokenTree (flattenList Writable)
open Unicode (isIdentifierStart isIdentifierContinue)
open Lexer (StandsFree IsProperWord punctuation AreWritable)

/-! ## Trees that can be written -/

namespace TokenTree.Writable

variable {tree : TokenTree} {trees others rest inner : List TokenTree} {delimiter : Delimiter}
  {text : String}

theorem nil : Writable [] :=
  trivial

theorem append (h_trees : Writable trees) (h_others : Writable others) :
    Writable (trees ++ others) := by
  rw [Writable, flattenList_append]
  exact AreWritable.append h_trees h_others

theorem cons (h_tree : Writable [tree]) (h_rest : Writable rest) : Writable (tree :: rest) :=
  append h_tree h_rest

theorem right (h_both : Writable (trees ++ others)) : Writable others := by
  rw [Writable, flattenList_append] at h_both
  exact AreWritable.right h_both

theorem tail (h_trees : Writable (tree :: rest)) : Writable rest :=
  @right [tree] rest h_trees

theorem word (h_text : IsProperWord text) : Writable [.word text] :=
  ⟨h_text, trivial⟩

theorem literal (h_text : StandsFree (.literal text)) : Writable [.literal text] :=
  ⟨h_text, trivial⟩

theorem plainWord {first : Char} {letters : List Char} (h_text : text.toList = first :: letters)
    (h_letters : (isIdentifierStart first && letters.all isIdentifierContinue) = true) :
    Writable [.word text] := by
  rw [Bool.and_eq_true] at h_letters
  exact .word (.inl ⟨first, letters, h_text, h_letters.1, List.all_eq_true.mp h_letters.2⟩)

/-- Words and literals are written whatever follows them. -/
theorem singleton_word (h_trees : Writable (.word text :: rest)) : Writable [.word text] :=
  ⟨h_trees.1, trivial⟩

theorem singleton_literal (h_trees : Writable (.literal text :: rest)) :
    Writable [.literal text] :=
  ⟨h_trees.1, trivial⟩

theorem group (h_inner : Writable inner) : Writable [.group delimiter inner] := by
  have h_closing : AreWritable [.closing delimiter] := ⟨trivial, trivial⟩
  exact ⟨trivial, AreWritable.append (AreWritable.append h_inner h_closing) trivial⟩

theorem inside (h_trees : Writable (.group delimiter inner :: rest)) : Writable inner := by
  have h_flatten : flattenList (.group delimiter inner :: rest) =
      .opening delimiter :: (flattenList inner ++ .closing delimiter :: flattenList rest) := by
    simp [flattenList, TokenTree.flatten]
  rw [Writable, h_flatten] at h_trees
  exact h_trees.2.inside

theorem singleton_group (h_trees : Writable (.group delimiter inner :: rest)) :
    Writable [.group delimiter inner] :=
  group h_trees.inside

/-- The mark of a lifetime and its name. -/
theorem lifetime {joint : Bool} (h_trees : Writable (.punct '\'' joint :: .word text :: rest)) :
    Writable [.punct '\'' true, .word text] ∧ Writable [.punct '\'' joint, .word text] := by
  have h_word : IsProperWord text := h_trees.2.1
  obtain ⟨rfl, token, more, h_eq, -, h_token⟩ := h_trees.1.2.1 rfl
  cases h_eq
  have h_both : Writable [.punct '\'' true, .word text] :=
    ⟨⟨by decide, fun _ => ⟨rfl, .word text, [], rfl, trivial, h_token⟩, nofun⟩,
      h_word, trivial⟩
  exact ⟨h_both, h_both⟩

/-- A slash is written together with the tree behind it. -/
theorem slash {joint : Bool} (h_trees : Writable (.punct '/' joint :: (tree :: trees ++ rest)))
    (h_front : Writable (tree :: trees)) : Writable (.punct '/' joint :: tree :: trees) := by
  obtain ⟨h_char, h_quote, h_slash⟩ := h_trees.1
  refine ⟨⟨h_char, nofun, fun h_eq h_joint => ?_⟩, h_front⟩
  obtain ⟨token, behind, h_behind, h_token⟩ := h_slash h_eq h_joint
  cases tree with
  | group delimiter inner => cases h_behind
  | word text => exact ⟨.word text, flattenList trees, rfl, trivial⟩
  | literal text => exact ⟨.literal text, flattenList trees, rfl, trivial⟩
  | punct char joint =>
    cases h_behind
    exact ⟨.punct char joint, flattenList trees, rfl, h_token⟩

end TokenTree.Writable

/-- A character of operators that stands next to anything. -/
def isPlainPunct (c : Char) : Bool :=
  punctuation.contains c && c != '\'' && c != '/'

theorem TokenTree.Writable.punct {c : Char} {joint : Bool} (h_c : isPlainPunct c = true) :
    Writable [.punct c joint] := by
  simp only [isPlainPunct, Bool.and_eq_true, bne_iff_ne] at h_c
  obtain ⟨⟨h_mem, h_quote⟩, h_slash⟩ := h_c
  exact ⟨⟨List.contains_iff_mem.mp h_mem, fun h_eq => absurd h_eq h_quote,
    fun h_eq => absurd h_eq h_slash⟩, trivial⟩

/-- The text of an operator whose characters stand next to anything. -/
class IsOperator (text : String) : Prop where
  chars : text.toList.all isPlainPunct = true

instance : IsOperator "!" := ⟨by decide⟩
instance : IsOperator "#" := ⟨by decide⟩
instance : IsOperator "&" := ⟨by decide⟩
instance : IsOperator "*" := ⟨by decide⟩
instance : IsOperator "+" := ⟨by decide⟩
instance : IsOperator "," := ⟨by decide⟩
instance : IsOperator "-" := ⟨by decide⟩
instance : IsOperator "->" := ⟨by decide⟩
instance : IsOperator "." := ⟨by decide⟩
instance : IsOperator ".." := ⟨by decide⟩
instance : IsOperator "..." := ⟨by decide⟩
instance : IsOperator "..=" := ⟨by decide⟩
instance : IsOperator ":" := ⟨by decide⟩
instance : IsOperator "::" := ⟨by decide⟩
instance : IsOperator ";" := ⟨by decide⟩
instance : IsOperator "<" := ⟨by decide⟩
instance : IsOperator ">" := ⟨by decide⟩
instance : IsOperator "=" := ⟨by decide⟩
instance : IsOperator "=>" := ⟨by decide⟩
instance : IsOperator "?" := ⟨by decide⟩
instance : IsOperator "@" := ⟨by decide⟩
instance : IsOperator "|" := ⟨by decide⟩

theorem writable_operatorTokens {cs : List Char} (h_cs : ∀ c ∈ cs, isPlainPunct c = true) :
    Writable (operatorTokens cs) := by
  fun_induction operatorTokens cs
  case case1 => exact .nil
  case case2 c => exact .punct (h_cs c (.head _))
  case case3 c rest _ ih =>
    obtain ⟨h_c, h_rest⟩ := List.forall_mem_cons.mp h_cs
    exact .cons (.punct h_c) (ih h_rest)

/-- An operator that comes next is made up of its characters. -/
theorem writable_take_of_isOp {cs : List Char} {trees : List TokenTree}
    (h_op : Ahead.isOp cs trees = true) (h_cs : ∀ c ∈ cs, isPlainPunct c = true) :
    Writable (trees.take cs.length) := by
  fun_induction Ahead.isOp cs trees
  case case1 c d joint rest =>
    rw [← beq_iff_eq.mp h_op]
    exact .punct (h_cs c (.head _))
  case case2 c rest d trees _ ih =>
    rw [Bool.and_eq_true] at h_op
    obtain ⟨h_c, h_rest⟩ := List.forall_mem_cons.mp h_cs
    rw [← beq_iff_eq.mp h_op.1]
    exact .cons (.punct h_c) (ih h_op.2 h_rest)
  case case3 => cases h_op

/-! ## Phrases and their parts -/

@[simp] theorem tokensOfList_append (phrase others : List Fragment) :
    Fragment.tokensOfList (phrase ++ others) =
      Fragment.tokensOfList phrase ++ Fragment.tokensOfList others := by
  induction phrase with
  | nil => rfl
  | cons fragment rest ih => simp [Fragment.tokensOfList, ih]

theorem tokensOfList_map_token (trees : List TokenTree) :
    Fragment.tokensOfList (trees.map .token) = trees := by
  induction trees with
  | nil => rfl
  | cons tree rest ih => simp [Fragment.tokensOfList, Fragment.tokens, ih]

theorem writable_flatMap {α : Type} {f : α → List TokenTree} {values : List α}
    (h_values : ∀ value ∈ values, Writable (f value)) : Writable (values.flatMap f) := by
  induction values with
  | nil => exact .nil
  | cons value rest ih =>
    obtain ⟨h_value, h_rest⟩ := List.forall_mem_cons.mp h_values
    exact h_value.append (ih h_rest)

theorem writable_separatorTokens : Writable separatorTokens :=
  writable_operatorTokens (by decide)

theorem writable_comma : Writable [comma] :=
  .punct (by decide)

theorem fst_mem_of_mem_withCommas {trailing : Bool} {elements : List AngleElement}
    {pair : AngleElement × Bool} (h_pair : pair ∈ withCommas trailing elements) :
    pair.1 ∈ elements := by
  fun_induction withCommas trailing elements
  case case1 => cases h_pair
  case case2 element =>
    rw [List.mem_singleton.mp h_pair]
    exact .head _
  case case3 element rest _ ih =>
    rcases List.mem_cons.mp h_pair with rfl | h_pair
    · exact .head _
    · exact .tail _ (ih h_pair)

theorem writable_punctuated {pair : AngleElement × Bool} (h_pair : Writable pair.1.tokens) :
    Writable (punctuated pair) := by
  unfold punctuated
  split
  · exact h_pair.append writable_comma
  · exact h_pair.append .nil

theorem writable_spellElements {separated : Bool} {pairs : List (AngleElement × Bool)}
    (h_pairs : ∀ pair ∈ pairs, Writable pair.1.tokens) :
    Writable (spellElements separated pairs) := by
  induction pairs generalizing separated with
  | nil => exact .nil
  | cons pair rest ih =>
    obtain ⟨h_pair, h_rest⟩ := List.forall_mem_cons.mp h_pairs
    rw [spellElements]
    refine .append (.append ?_ (writable_punctuated h_pair)) (ih h_rest)
    split
    · exact .nil
    · exact writable_comma

/-- A list between angle brackets can be written if its elements can. -/
theorem writable_angleTokens {elements : List AngleElement} {trailing : Bool}
    (h_elements : ∀ element ∈ elements, Writable element.tokens) :
    Writable (angleTokens elements trailing) := by
  have h_pairs : ∀ pair ∈ withCommas trailing elements, Writable pair.1.tokens :=
    fun pair h_pair => h_elements _ (fst_mem_of_mem_withCommas h_pair)
  have h_filter (p : AngleElement × Bool → Bool) :
      ∀ pair ∈ (withCommas trailing elements).filter p, Writable pair.1.tokens :=
    fun pair h_pair => h_pairs pair (List.mem_filter.mp h_pair).1
  unfold angleTokens
  refine .append (.append (.append (.punct (by decide)) ?_) ?_) (.punct (by decide))
  · exact writable_flatMap fun pair h_pair => writable_punctuated (h_filter _ pair h_pair)
  · exact writable_spellElements (h_filter _)

theorem writable_joinSegmentTokens {segments : List (List TokenTree)}
    (h_segments : ∀ segment ∈ segments, Writable segment) :
    Writable (joinSegmentTokens segments) := by
  fun_induction joinSegmentTokens segments
  case case1 => exact .nil
  case case2 tokens => exact h_segments tokens (.head _)
  case case3 tokens rest _ ih =>
    obtain ⟨h_tokens, h_rest⟩ := List.forall_mem_cons.mp h_segments
    exact (h_tokens.append writable_separatorTokens).append (ih h_rest)

theorem writable_qualifiedTokens {self : List TokenTree} {position : Nat} {leading : Bool}
    {segments : List (List TokenTree)} (h_self : Writable self)
    (h_segments : ∀ segment ∈ segments, Writable segment) :
    Writable (qualifiedTokens self position leading segments) := by
  have h_lead : Writable (if leading then separatorTokens else []) := by
    split
    · exact writable_separatorTokens
    · exact .nil
  have h_as : Writable [.word "as"] := .plainWord rfl (by decide +kernel)
  have h_trait := writable_joinSegmentTokens fun segment h_segment =>
    h_segments segment (List.mem_of_mem_take (i := position) h_segment)
  have h_rest := writable_joinSegmentTokens fun segment h_segment =>
    h_segments segment (List.mem_of_mem_drop (i := position) h_segment)
  have h_opening : Writable [.punct '<' false] := .punct (by decide)
  have h_closing : Writable [.punct '>' false] := .punct (by decide)
  unfold qualifiedTokens
  dsimp only
  split
  · exact (((h_opening.append h_self).append h_closing).append h_lead).append
      (writable_joinSegmentTokens h_segments)
  · refine .append (.append (.append (.append (.append (.append h_opening h_self) h_as) h_lead)
      h_trait) h_closing) ?_
    split
    · exact .nil
    · exact writable_separatorTokens.append h_rest

/-! ## Answers -/

/-- What has to hold of a value for it to be written.  Nothing has, if it is not. -/
class Content (α : Type) where
  writable : α → Prop

/-- The value can be written. -/
class Sound {α : Type} [Content α] (value : α) : Prop where
  holds : Content.writable value

section Contents

variable {α β : Type}

instance (priority := low) Content.free : Content α where
  writable _ := True

instance (value : α) : @Sound α Content.free value :=
  @Sound.mk α Content.free value trivial

instance (priority := 900) [Content α] [Content β] : Content (α × β) where
  writable pair := Content.writable pair.1 ∧ Content.writable pair.2

instance (priority := 900) [Content α] : Content (Option α) where
  writable value := ∀ found, value = some found → Content.writable found

instance (priority := 900) [Content α] : Content (List α) where
  writable values := ∀ value ∈ values, Content.writable value

instance : Content String where
  writable text := Writable [.word text]

instance : Content (List TokenTree) where
  writable trees := Writable trees

instance : Content Fragment where
  writable fragment := Writable fragment.tokens

instance : Content (List Fragment) where
  writable phrase := Writable (Fragment.tokensOfList phrase)

instance : Content Argument where
  writable argument := Writable argument.element.tokens

instance : Content Segment where
  writable segment := Writable [.word segment.name] ∧ Writable segment.arguments.tokens

instance : Content Path where
  writable path := Content.writable path.segments

instance : Content Visibility where
  writable visibility := ∀ inPath path, visibility = .restricted inPath path → Content.writable path

theorem Sound.writable [Content α] (value : α) [Sound value] : Content.writable value :=
  Sound.holds

instance [Content α] [Content β] (value : α) (other : β) [Sound value] [Sound other] :
    Sound (value, other) where
  holds := ⟨Sound.holds, Sound.holds⟩

instance [Content α] [Content β] (pair : α × β) [Sound pair] : Sound pair.1 where
  holds := (Sound.writable pair).1

instance [Content α] [Content β] (pair : α × β) [Sound pair] : Sound pair.2 where
  holds := (Sound.writable pair).2

instance [Content α] (value : α) [Sound value] : Sound (some value) where
  holds := by
    rintro _ ⟨⟩
    exact Sound.holds

instance [Content α] : Sound (none : Option α) where
  holds := nofun

instance [Content α] : Sound ([] : List α) where
  holds := nofun

instance [Content α] (value : α) (rest : List α) [Sound value] [Sound rest] :
    Sound (value :: rest) where
  holds := List.forall_mem_cons.mpr ⟨Sound.holds, Sound.writable rest⟩

instance [Content α] (values others : List α) [Sound values] [Sound others] :
    Sound (values ++ others) where
  holds := List.forall_mem_append.mpr ⟨Sound.writable values, Sound.writable others⟩

instance [Content α] (c : Prop) [Decidable c] (value other : α) [Sound value] [Sound other] :
    Sound (if c then value else other) := by
  split <;> infer_instance

end Contents

/-! ## Parts of paths -/

instance (name : String) [Sound name] : Sound (Segment.plain name) where
  holds := ⟨Sound.writable name, .nil⟩

instance (names : List String) [Sound names] : Sound (names.map Segment.plain) where
  holds := List.forall_mem_map.mpr fun name h_name => ⟨Sound.writable names name h_name, .nil⟩

theorem elements_eq_map (arguments : List Argument) :
    Argument.elements arguments = arguments.map Argument.element := by
  induction arguments with
  | nil => rfl
  | cons argument rest ih => rw [Argument.elements, ih, List.map_cons]

theorem tokensOfList_eq_map (segments : List Segment) :
    Segment.tokensOfList segments = segments.map Segment.tokens := by
  induction segments with
  | nil => rfl
  | cons segment rest ih => rw [Segment.tokensOfList, ih, List.map_cons]

theorem writable_elements (arguments : List Argument) [Sound arguments] (trailing : Bool) :
    Writable (angleTokens (Argument.elements arguments) trailing) := by
  refine writable_angleTokens fun element h_element => ?_
  rw [elements_eq_map] at h_element
  obtain ⟨argument, h_argument, rfl⟩ := List.mem_map.mp h_element
  exact Sound.writable arguments argument h_argument

instance (name : String) (turbofish : Bool) (arguments : List Argument) (trailing : Bool)
    [Sound name] [Sound arguments] : Sound (Segment.mk name (.angle turbofish arguments trailing)) where
  holds := by
    refine ⟨Sound.writable name, ?_⟩
    rw [Segment.arguments, Arguments.tokens]
    refine .append ?_ (writable_elements arguments trailing)
    split
    · exact writable_separatorTokens
    · exact .nil

instance (leading : Bool) (segments : List Segment) [Sound segments] :
    Sound (Path.mk leading segments) where
  holds := Sound.writable segments

instance (names : List String) [Sound names] : Sound (Path.ofNames names) :=
  inferInstanceAs (Sound (Path.mk false (names.map Segment.plain)))

theorem writable_segments {segments : List Segment} (h_segments : Content.writable segments) :
    ∀ tokens ∈ Segment.tokensOfList segments, Writable tokens := by
  intro tokens h_tokens
  rw [tokensOfList_eq_map] at h_tokens
  obtain ⟨segment, h_segment, rfl⟩ := List.mem_map.mp h_tokens
  obtain ⟨h_name, h_arguments⟩ := h_segments segment h_segment
  cases segment with
  | mk name arguments =>
    rw [Segment.tokens]
    exact .cons h_name h_arguments

instance (path : Path) [Sound path] : Sound (Fragment.path path) where
  holds := by
    have h_path := Sound.writable path
    cases path with
    | mk leading segments =>
      change Writable (Path.tokens _)
      rw [Path.tokens]
      refine .append ?_ (writable_joinSegmentTokens (writable_segments h_path))
      split
      · exact writable_separatorTokens
      · exact .nil

instance (self : List Fragment) (position : Nat) (leading : Bool)
    (segments : List Segment) [Sound self] [Sound segments] :
    Sound (Fragment.qualified self position (.mk leading segments)) where
  holds := writable_qualifiedTokens (Sound.writable self)
    (writable_segments (Sound.writable segments))

instance (inPath : Bool) (path : Path) [Sound path] : Sound (Visibility.restricted inPath path) where
  holds := by
    rintro _ _ ⟨⟩
    exact Sound.writable path

/-! ## Fragments -/

instance (text : String) [Sound text] : Sound (Fragment.token (.word text)) where
  holds := Sound.writable text

instance : Sound ([] : List Fragment) where
  holds := .nil

instance (fragment : Fragment) (rest : List Fragment) [Sound fragment] [Sound rest] :
    Sound (fragment :: rest) where
  holds := TokenTree.Writable.append (Sound.writable fragment) (Sound.writable rest)

instance (phrase others : List Fragment) [Sound phrase] [Sound others] :
    Sound (phrase ++ others) where
  holds := by
    change Writable (Fragment.tokensOfList (phrase ++ others))
    rw [tokensOfList_append]
    exact .append (Sound.writable phrase) (Sound.writable others)

instance (kind : ArgumentKind) (phrase : List Fragment) [Sound phrase] :
    Sound (Argument.mk kind phrase) where
  holds := Sound.writable phrase

instance (arguments : List Argument) (trailing : Bool) [Sound arguments] :
    Sound (Fragment.angle arguments trailing) where
  holds := writable_elements arguments trailing

instance (turn : Turn) (phrase : List Fragment) [Sound phrase] : Sound (Fragment.part turn phrase) where
  holds := Sound.writable phrase

instance (phrase : List Fragment) [Sound phrase] : Sound (Fragment.construct phrase) where
  holds := Sound.writable phrase

instance (delimiter : Delimiter) (phrase : List Fragment) [Sound phrase] :
    Sound (Fragment.group delimiter phrase) where
  holds := .group (Sound.writable phrase)

instance (phrase : List Fragment) [Sound phrase] : Sound (Fragment.implied phrase) where
  holds := by
    change Writable (Fragment.tokens (.implied phrase))
    rw [Fragment.tokens]
    split
    · exact .nil
    · exact .cons (.punct (by decide)) (Sound.writable phrase)

/-! ## Readers -/

namespace Reader

/-- What a reader did: it answered a value that can be written, read trees that can be written by
    themselves, and added a phrase that can be written. -/
structure Wrote {α : Type} [Content α] (before : Cursor) (value : α) (behind : Cursor) : Prop where
  value : Content.writable value
  front : ∃ front, Writable front ∧ before.rest = front ++ behind.rest
  phrase : ∃ phrase : List Fragment, Content.writable phrase ∧
    behind.read = phrase.reverse ++ before.read

/-- The reader writes what it reads. -/
class Writes {α : Type} [Content α] (reader : Reader α) : Prop where
  wrote : ∀ {before : Cursor} {value : α} {behind : Cursor}, Writable before.rest →
    reader before = some (value, behind) → Wrote before value behind

variable {α β : Type} [Content α] [Content β]

theorem wrote (reader : Reader α) [Writes reader] {before behind : Cursor} {value : α}
    (h_read : reader before = some (value, behind)) (h_before : Writable before.rest) :
    Wrote before value behind :=
  Writes.wrote h_before h_read

theorem Wrote.of_eq {before : Cursor} {value : α} (h_value : Content.writable value) :
    Wrote before value before :=
  ⟨h_value, ⟨[], .nil, rfl⟩, [], .nil, rfl⟩

theorem Wrote.writable {before behind : Cursor} {value : α} (h_wrote : Wrote before value behind)
    (h_before : Writable before.rest) : Writable behind.rest := by
  obtain ⟨front, -, h_eq⟩ := h_wrote.front
  rw [h_eq] at h_before
  exact h_before.right

theorem Wrote.trans {before middle behind : Cursor} {value : α} {value' : β}
    (h_first : Wrote before value middle) (h_second : Wrote middle value' behind) :
    Wrote before value' behind := by
  obtain ⟨front, h_front, h_rest⟩ := h_first.front
  obtain ⟨front', h_front', h_rest'⟩ := h_second.front
  obtain ⟨phrase, h_phrase, h_read⟩ := h_first.phrase
  obtain ⟨phrase', h_phrase', h_read'⟩ := h_second.phrase
  refine ⟨h_second.value, ⟨front ++ front', h_front.append h_front', ?_⟩, phrase ++ phrase', ?_, ?_⟩
  · rw [h_rest, h_rest', List.append_assoc]
  · have : Sound phrase := ⟨h_phrase⟩
    have : Sound phrase' := ⟨h_phrase'⟩
    exact Sound.writable (phrase ++ phrase')
  · rw [h_read', h_read, List.reverse_append, List.append_assoc]

instance (value : α) [Sound value] : Writes (pure value : Reader α) where
  wrote _ h_read := by
    cases h_read
    exact .of_eq Sound.holds

instance : Writes (failure : Reader α) where
  wrote := nofun

/-- A value that can be written. -/
instance (value : { value : α // Content.writable value }) : Sound value.1 where
  holds := value.2

instance (first : Reader α) (next : α → Reader β) [Writes first]
    [h_next : ∀ value : { value : α // Content.writable value }, Writes (next value.1)] :
    Writes (first >>= next) where
  wrote h_before h_read := by
    obtain ⟨value, cursor, h_first, h_read⟩ := bind_eq_some.mp h_read
    have h_wrote := wrote first h_first h_before
    have : Writes (next value) := h_next ⟨value, h_wrote.value⟩
    exact h_wrote.trans (wrote _ h_read (h_wrote.writable h_before))

theorem Writes.bind {first : Reader α} {next : α → Reader β} (h_first : Writes first)
    (h_next : ∀ value : { value : α // Content.writable value }, Writes (next value.1)) :
    Writes (first >>= next) :=
  inferInstance

instance (f : α → β) (reader : Reader α) [Writes reader]
    [h_value : ∀ value : { value : α // Content.writable value }, Sound (f value.1)] :
    Writes (f <$> reader) := by
  rw [← bind_pure_comp]
  infer_instance

instance (first second : Reader α) [Writes first] [Writes second] : Writes (first <|> second) where
  wrote {before value behind} h_before h_read := by
    change (first before <|> second before) = some (value, behind) at h_read
    cases h_first : first before with
    | none =>
      rw [h_first] at h_read
      exact wrote second h_read h_before
    | some found =>
      rw [h_first] at h_read
      cases h_read
      exact wrote first h_first h_before

instance (c : Prop) [Decidable c] (first second : Reader α) [Writes first] [Writes second] :
    Writes (if c then first else second) := by
  split <;> infer_instance

/-! ### Questions and fragments -/

/-- A reader that begins by looking at the trees to come. -/
theorem writes_upcoming {next : List TokenTree → Reader α}
    (h_next : ∀ trees read value behind, Writable trees →
      next trees { rest := trees, read := read } = some (value, behind) →
      Wrote { rest := trees, read := read } value behind) :
    Writes (upcoming >>= next) where
  wrote h_before h_read := h_next _ _ _ _ h_before h_read

instance : Writes upcoming where
  wrote h_before h_read := by
    cases h_read
    exact .of_eq h_before

instance (question : List TokenTree → Bool) : Writes (ahead question) where
  wrote _ h_read := by
    cases h_read
    exact .of_eq trivial

instance : Writes atEnd :=
  inferInstanceAs (Writes (ahead _))

theorem Wrote.of_read {before : Cursor} {value : α} {front rest : List TokenTree}
    {phrase : List Fragment} (h_value : Content.writable value) (h_front : Writable front)
    (h_rest : before.rest = front ++ rest) (h_phrase : Content.writable phrase) :
    Wrote before value { rest := rest, read := phrase.reverse ++ before.read } :=
  ⟨h_value, ⟨front, h_front, h_rest⟩, phrase, h_phrase, rfl⟩

instance (phrase : List Fragment) [Sound phrase] : Writes (emit phrase) where
  wrote _ h_read := by
    cases h_read
    exact .of_read trivial .nil rfl Sound.holds

/-- A reader that begins with nothing read adds all that it has read then. -/
instance (reader : Reader α) [Writes reader] : Writes (captured reader) where
  wrote {before value behind} h_before h_read := by
    obtain ⟨value, phrase⟩ := value
    obtain ⟨cursor, h_inner, rfl, rfl⟩ := captured_eq_some.mp h_read
    have h_wrote := wrote reader h_inner h_before
    obtain ⟨phrase, h_phrase, h_eq⟩ := h_wrote.phrase
    have h_phrase' : Content.writable cursor.read.reverse := by
      rw [h_eq, List.append_nil, List.reverse_reverse]
      exact h_phrase
    exact ⟨⟨h_wrote.value, h_phrase'⟩, h_wrote.front, [], .nil, rfl⟩

theorem Writes.captured {reader : Reader α} (h_reader : Writes reader) : Writes (captured reader) :=
  inferInstance

instance (reader : Reader Unit) [Writes reader] : Writes (phraseOf reader) := by
  unfold phraseOf
  infer_instance

instance (reader : Reader α) [Writes reader] : Writes (construct reader) := by
  unfold construct
  infer_instance

instance (turn : Turn) (reader : Reader α) [Writes reader] : Writes (inTurn turn reader) := by
  unfold inTurn
  infer_instance

theorem sound_map_token {trees : List TokenTree} (h_trees : Writable trees) :
    Content.writable (trees.map Fragment.token) := by
  change Writable (Fragment.tokensOfList (trees.map .token))
  rwa [tokensOfList_map_token]

/-- Raw tokens are the ones in front of what is left. -/
instance (reader : Reader (α × Bool)) [Writes reader] : Writes (rawWhen reader) := by
  refine writes_upcoming fun trees read value behind h_trees h_read => ?_
  obtain ⟨⟨⟨value', isRaw⟩, phrase⟩, cursor, h_captured, h_read⟩ := bind_eq_some.mp h_read
  have h_wrote := wrote (captured reader) h_captured h_trees
  obtain ⟨front, h_front, h_rest⟩ := h_wrote.front
  cases h_read
  obtain ⟨inner, -, -, h_cursor⟩ := captured_eq_some.mp h_captured
  have h_read : cursor.read = read := by rw [h_cursor]
  have h_consumed : trees.take (trees.length - cursor.rest.length) = front := by
    simp [show trees = _ from h_rest]
  refine ⟨h_wrote.value.1.1, ⟨front, h_front, h_rest⟩,
    if isRaw then front.map .token else phrase, ?_, ?_⟩
  · split
    · exact sound_map_token h_front
    · exact h_wrote.value.2
  · simp only [h_consumed, h_read]

instance (reader : Reader Bool) [Writes reader] : Writes (rawIf reader) := by
  unfold rawIf
  infer_instance

instance (reader : Reader α) [Writes reader] : Writes (raw reader) := by
  unfold raw
  infer_instance

/-- What is read of trees of their own is written, and nothing is read besides. -/
theorem wrote_within {trees : List TokenTree} {reader : Reader α} [Writes reader]
    {before behind : Cursor} {value : α} {phrase : Phrase} (h_trees : Writable trees)
    (h_read : within trees reader before = some ((value, phrase), behind)) :
    Content.writable value ∧ Content.writable phrase ∧ behind = before := by
  unfold within at h_read
  cases h_found : reader.run { rest := trees } with
  | none =>
    rw [h_found] at h_read
    cases h_read
  | some found =>
    obtain ⟨found, cursor⟩ := found
    simp only [h_found] at h_read
    by_cases h_end : cursor.rest.isEmpty = true
    · rw [if_pos h_end] at h_read
      cases h_read
      have h_wrote := wrote reader h_found h_trees
      obtain ⟨phrase, h_phrase, h_eq⟩ := h_wrote.phrase
      refine ⟨h_wrote.value, ?_, rfl⟩
      rw [h_eq, List.append_nil, List.reverse_reverse]
      exact h_phrase
    · rw [if_neg h_end] at h_read
      cases h_read

/-! ### Tokens and groups -/

instance (text : String) [IsOperator text] : Writes (op text) := by
  refine writes_upcoming fun trees read value behind h_trees h_read => ?_
  have h_plain : text.toList.all isPlainPunct = true := IsOperator.chars
  have h_chars := List.all_eq_true.mp h_plain
  by_cases h_op : Ahead.op text trees = true
  · rw [if_pos h_op] at h_read
    cases h_read
    exact .of_read trivial (writable_take_of_isOp h_op h_chars) (List.take_append_drop _ _).symm
      (sound_map_token (writable_operatorTokens h_chars))
  · rw [if_neg h_op] at h_read
    cases h_read

instance (text : String) [IsOperator text] : Writes (op? text) := by
  unfold op?
  infer_instance

instance (p : String → Bool) : Writes (wordWith p) := by
  refine writes_upcoming fun trees read value behind h_trees h_read => ?_
  split at h_read
  next text rest =>
    split at h_read
    next =>
      cases h_read
      have h_word := TokenTree.Writable.singleton_word h_trees
      exact .of_read h_word h_word rfl (h_word.append .nil)
    next => cases h_read
  next => cases h_read

instance (text : String) : Writes (word text) := by
  unfold word
  infer_instance

instance (text : String) : Writes (word? text) := by
  unfold word?
  infer_instance

instance : Writes ident := by
  unfold ident
  infer_instance

instance : Writes anyIdent := by
  unfold anyIdent
  infer_instance

instance : Writes lifetime := by
  refine writes_upcoming fun trees read value behind h_trees h_read => ?_
  split at h_read
  next joint text rest =>
    cases h_read
    obtain ⟨h_joint, h_front⟩ := TokenTree.Writable.lifetime h_trees
    exact .of_read trivial h_front rfl (sound_map_token h_joint)
  next => cases h_read

instance : Writes literal := by
  have h_minus : Writable [.punct '-' false] := .punct (by decide)
  have h_minus' : ∀ joint, Writable [.punct '-' joint] := fun _ => .punct (by decide)
  refine writes_upcoming fun trees read value behind h_trees h_read => ?_
  split at h_read
  next text rest =>
    cases h_read
    have h_literal := TokenTree.Writable.singleton_literal h_trees
    exact .of_read trivial h_literal rfl (sound_map_token h_literal)
  next text rest =>
    split at h_read
    · cases h_read
      have h_word := TokenTree.Writable.singleton_word h_trees
      exact .of_read trivial h_word rfl (sound_map_token h_word)
    · cases h_read
  next joint text rest =>
    split at h_read
    · cases h_read
      have h_literal := TokenTree.Writable.singleton_literal h_trees.tail
      exact .of_read trivial ((h_minus' joint).append h_literal) rfl
        (sound_map_token (h_minus.append h_literal))
    · cases h_read
  next => cases h_read

instance (delimiter : Delimiter) (reader : Reader α) [Writes reader] :
    Writes (group delimiter reader) := by
  refine writes_upcoming fun trees read value behind h_trees h_read => ?_
  split at h_read
  next found inner rest =>
    split at h_read
    · obtain ⟨⟨value', phrase⟩, cursor, h_within, h_read⟩ := bind_eq_some.mp h_read
      obtain ⟨h_value, h_phrase, rfl⟩ := wrote_within h_trees.inside h_within
      cases h_read
      exact .of_read h_value h_trees.singleton_group rfl ((TokenTree.Writable.group h_phrase).append .nil)
    · cases h_read
  next => cases h_read

instance : Writes rawGroup := by
  refine writes_upcoming fun trees read value behind h_trees h_read => ?_
  split at h_read
  next delimiter inner rest =>
    cases h_read
    exact .of_read ⟨trivial, h_trees.inside⟩ h_trees.singleton_group rfl
      (sound_map_token h_trees.singleton_group)
  next => cases h_read

/-! ### Repetition -/

-- Readers are put together from many parts.
set_option synthInstance.maxSize 1000000000

instance (step : Reader Bool) [Writes step] (bound : Nat) : Writes (repeatWithin step bound) := by
  induction bound with
  | zero => exact inferInstanceAs (Writes failure)
  | succ bound ih =>
    unfold repeatWithin
    infer_instance

instance (step : Reader Bool) [Writes step] : Writes (repeatedly step) := by
  unfold repeatedly
  infer_instance

instance (separator : String) [IsOperator separator] (stop : List TokenTree → Bool)
    (element : Reader α) [Writes element] (bound : Nat) :
    Writes (listWithin separator stop element bound) := by
  induction bound with
  | zero => exact inferInstanceAs (Writes failure)
  | succ bound ih =>
    unfold listWithin
    infer_instance

instance (separator : String) [IsOperator separator] (stop : List TokenTree → Bool)
    (element : Reader α) [Writes element] : Writes (listOf separator stop element) := by
  unfold listOf
  infer_instance

instance (element : Reader α) [Writes element] : Writes (commaList element) := by
  unfold commaList
  infer_instance

end Reader
end FieldDelta.Syntax
