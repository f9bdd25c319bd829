import FieldDelta.Proofs.Generation.Manifests
import FieldDelta.Proofs.Generation.SingleLines
import FieldDelta.Proofs.Syntax.QuotedText

/-! # Files that manifests include

A manifest includes each of its files by a line.  With a fixed directory that line holds the path
of the file in quotes, and `Manifest.includes_directory` says that it is read as such: whatever
characters the directory and the file have, the line is one line, its argument is one literal, and
the value of the literal is the path.

* `Options.IsTrimmed` — a directory without what stands idle at its end;
* `Options.IsPathLiteral` — a literal for the path of a file;
* `Manifest.tokenize?_includeText` — the tokens of a line that includes a file.
-/

namespace FieldDelta

open Syntax

/-! ## Quoted text on one line -/

theorem not_spansLines_quote (text : String) : ¬ SpansLines (Text.quote text) := by
  -- Both line breaks are written as letters.
  have h_form (c : Char) : ∀ d ∈ Text.escapeChar '"' c, ¬ IsLineBreak d := by
    rcases Text.escapeChar_cases c with ⟨letter, h_letter, h_form⟩ | h_form | ⟨-, h_newline, h_form⟩
    · have h_all : ∀ entry ∈ Text.letters, ¬ IsLineBreak entry.2 := by decide
      have h_letter : ¬ IsLineBreak letter := h_all _ h_letter
      simp [h_form, h_letter, show ¬ IsLineBreak '\\' by decide]
    · have h_digits : ∀ d ∈ Text.hexDigits c.toNat, ¬ IsLineBreak d := by
        rintro d h_d (rfl | rfl)
        · exact Text.not_mem_hexDigits (by decide) _ h_d
        · exact Text.not_mem_hexDigits (by decide) _ h_d
      simp only [h_form, Text.escapeCodePoint, List.forall_mem_append]
      exact ⟨⟨by decide, h_digits⟩, by decide⟩
    · have h_return : c ≠ '\r' := by
        rintro rfl
        cases h_form
      simp [h_form, IsLineBreak, h_newline, h_return]
  rintro ⟨d, h_d, h_break⟩
  simp only [toList_quote, Text.escape, List.mem_cons, List.mem_append, List.mem_flatMap,
    List.not_mem_nil, or_false] at h_d
  rcases h_d with rfl | ⟨c, -, h_d⟩ | rfl
  · exact absurd h_break (by decide)
  · exact h_form c d h_d h_break
  · exact absurd h_break (by decide)

/-! ## Directories -/

namespace Options

/-- The directory without the slashes and backslashes at its end. -/
def IsTrimmed (dir kept : String) : Prop :=
  ∃ idle, dir = kept ++ idle ∧ (∀ c ∈ idle.toList, c ∈ ['/', '\\']) ∧
    ∀ c, kept.toList.getLast? = some c → c ∉ ['/', '\\']

/-- What is dropped at the end satisfies the condition, and what is left does not end so. -/
theorem exists_dropRightWhile (p : Char → Bool) (cs : List Char) :
    ∃ idle, cs = Text.dropRightWhile p cs ++ idle ∧ (∀ c ∈ idle, p c = true) ∧
      ∀ c, (Text.dropRightWhile p cs).getLast? = some c → p c = false := by
  refine ⟨(cs.reverse.takeWhile p).reverse, ?_, ?_, ?_⟩
  · rw [Text.dropRightWhile, ← List.reverse_append, List.takeWhile_append_dropWhile,
      List.reverse_reverse]
  · intro c h_c
    exact List.mem_takeWhile_imp (List.mem_reverse.mp h_c)
  · intro c h_c
    rw [Text.dropRightWhile, List.getLast?_reverse] at h_c
    simpa [h_c] using List.head?_dropWhile_not p cs.reverse

theorem isTrimmed_trimDirectory (dir : String) : IsTrimmed dir (trimDirectory dir) := by
  obtain ⟨idle, h_dir, h_idle, h_last⟩ :=
    exists_dropRightWhile (fun c => c == '/' || c == '\\') dir.toList
  refine ⟨String.ofList idle, ?_, ?_, ?_⟩
  · rw [← String.toList_inj, String.toList_append, trimDirectory, String.toList_ofList,
      String.toList_ofList]
    exact h_dir
  · intro c h_c
    rw [String.toList_ofList] at h_c
    simpa using h_idle c h_c
  · intro c h_c
    rw [trimDirectory, String.toList_ofList] at h_c
    simpa using h_last c h_c

/-- The text is one literal on one line, and stands for the path of a file in a directory. -/
structure IsPathLiteral (dir file literal : String) : Prop where
  on_one_line : ¬ SpansLines literal
  tokens : tokenize? literal = some [.literal literal]
  value : ∃ kept, IsTrimmed dir kept ∧ Literal.stringValue? literal = some (kept ++ "/" ++ file)

theorem includeArgument_directory {options : Options} {dir : String}
    (h_root : options.includeRoot = .directory dir) (file : String) :
    options.includeArgument file = Text.quote (trimDirectory dir ++ "/" ++ file) := by
  simp [includeArgument, h_root]

theorem isPathLiteral_includeArgument {options : Options} {dir : String}
    (h_root : options.includeRoot = .directory dir) (file : String) :
    IsPathLiteral dir file (options.includeArgument file) := by
  rw [includeArgument_directory h_root]
  exact ⟨not_spansLines_quote _, tokenize?_quote _, _, isTrimmed_trimDirectory dir,
    Literal.stringValue?_quote _⟩

end Options

/-! ## Lines that include -/

namespace Layout.Page

/-- The text ends with a line feed. -/
def EndsLine (page : Page) : Prop :=
  ∃ front, page.text = front ++ "\n"

theorem endsLine_line (page : Page) (text : String) : (page.line text).EndsLine := by
  unfold line
  split
  · exact ⟨_, rfl⟩
  · exact ⟨page.text ++ (margin page.depth ++ text), by simp [String.append_assoc]⟩

theorem EndsLine.blank {page : Page} (h_page : page.EndsLine) : page.blank.EndsLine := by
  unfold Page.blank
  split
  · exact h_page
  · exact ⟨_, rfl⟩

theorem exists_finish (page : Page) : ∃ front, page.finish = front ++ "\n" := by
  have h_ends (cs : List Char) :
      String.ofList ('\n' :: cs).reverse = String.ofList cs.reverse ++ "\n" := by
    rw [← String.toList_inj]
    simp
  unfold finish
  split
  · exact ⟨_, h_ends _⟩
  · exact ⟨_, h_ends _⟩

end Layout.Page

namespace Manifest

open Layout Lexer

theorem endsLine_head (modulePath : String) (options : Options) :
    (head modulePath options).EndsLine := by
  -- The last step in front of the files is an empty line behind an import.
  simp only [head, steps, Page.run, Page.step, List.map_nil, List.append_nil, List.foldl_cons,
    List.foldl_nil]
  exact (Page.endsLine_line _ _).blank

/-- The files of a manifest stand at its end, each on a line of its own. -/
theorem exists_text_emit {options : Options} {files : List String} (modulePath : String)
    (h_lines : ∀ file ∈ files, '\n' ∉ (includeText options file).toList) :
    ∃ front, (emit modulePath files options).text =
      front ++ "\n" ++ String.join (files.map (includeText options · ++ "\n")) := by
  by_cases h_files : files = []
  · obtain ⟨front, h_text⟩ := Page.exists_finish (Page.run {} (steps modulePath files options))
    refine ⟨front, ?_⟩
    rw [text_emit, h_text, h_files]
    simp
  · obtain ⟨front, h_head⟩ := endsLine_head modulePath options
    refine ⟨front, ?_⟩
    rw [← String.toList_inj, toList_text_emit h_files h_lines, h_head]
    simp [String.toList_join, List.flatMap_map]

/-- What is read at the beginning of a line that includes a file. -/
theorem lexemes?_include (rest : List Char) :
    lexemes? ('i' :: 'n' :: 'c' :: 'l' :: 'u' :: 'd' :: 'e' :: '!' :: '(' :: rest) =
      some ([.tree (.word "include")], '!' :: '(' :: rest) := by
  have h_literal : afterLiteral?
      ('i' :: 'n' :: 'c' :: 'l' :: 'u' :: 'd' :: 'e' :: '!' :: '(' :: rest) = none := by
    rfl
  have h_word : afterWord? ('i' :: 'n' :: 'c' :: 'l' :: 'u' :: 'd' :: 'e' :: '!' :: '(' :: rest) =
      some ('!' :: '(' :: rest) := by
    rfl
  have h_taken := taken_append ['i', 'n', 'c', 'l', 'u', 'd', 'e'] ('!' :: '(' :: rest)
  rw [lexemes?_of_isContinue (by decide +kernel),
    leaf?_of_afterWord? (by decide +kernel) h_literal h_word]
  simp only [List.cons_append, List.nil_append] at h_taken
  rw [h_taken]
  rfl

/-- A line that includes a file is read as an inclusion of what the argument stands for. -/
theorem tokenize?_includeText {options : Options} {dir : String}
    (h_root : options.includeRoot = .directory dir) (file : String) :
    tokenize? (includeText options file) = some
      [.word "include", .punct '!' false, .group .paren [.literal (options.includeArgument file)],
        .punct ';' false] := by
  rw [Options.includeArgument_directory h_root]
  generalize h_path : Options.trimDirectory dir ++ "/" ++ file = path
  have h_argument : lexemes? ((Text.quote path).toList ++ [')', ';']) =
      some ([.tree (.literal (Text.quote path))], [')', ';']) :=
    (standsFree_quote path).reads _ (show ')' ∈ stopMarks by decide)
  have h_text : (includeText options file).toList =
      'i' :: 'n' :: 'c' :: 'l' :: 'u' :: 'd' :: 'e' :: '!' :: '(' ::
        ((Text.quote path).toList ++ [')', ';']) := by
    simp [includeText, Options.includeArgument_directory h_root, h_path]
  rw [toList_quote, List.cons_append] at h_argument h_text
  generalize Text.escape path.toList ++ ['"'] ++ [')', ';'] = quoted at h_argument h_text
  rw [tokenize?, trees?, h_text]
  have h_mark : withoutByteOrderMark ('i' :: 'n' :: 'c' :: 'l' :: 'u' :: 'd' :: 'e' :: '!' :: '(' ::
      '"' :: quoted) = 'i' :: 'n' :: 'c' :: 'l' :: 'u' :: 'd' :: 'e' :: '!' :: '(' :: '"' :: quoted :=
    rfl
  have h_bang : lexemes? ('!' :: '(' :: '"' :: quoted) =
      some ([.tree (.punct '!' false)], '(' :: '"' :: quoted) := by
    rfl
  have h_opening : lexemes? ('(' :: '"' :: quoted) = some ([.opening .paren], '"' :: quoted) := by
    rfl
  have h_closing : lexemes? [')', ';'] = some ([.closing .paren], [';']) := by
    rfl
  have h_end : lexemes? [';'] = some ([.tree (.punct ';' false)], []) := by
    rfl
  simp only [h_mark, List.length_cons]
  -- No token of the line looks like a blank or a comment.
  rw [scan?_of_read (by decide) (by decide) (lexemes?_include _),
    scan?_of_read (by decide) (by decide) h_bang,
    scan?_of_read (by decide) (by decide) h_opening,
    scan?_of_read (by decide) (by decide) h_argument,
    scan?_of_read (by decide) (by decide) h_closing,
    scan?_of_read (by decide) (by decide) h_end, scan?_nil]
  rfl

theorem not_spansLines_includeText {options : Options} {dir : String}
    (h_root : options.includeRoot = .directory dir) (file : String) :
    ¬ SpansLines (includeText options file) := by
  have h_marks : ¬ SpansLines "include!(" ∧ ¬ SpansLines ");" := by decide
  simp [includeText, h_marks, (Options.isPathLiteral_includeArgument h_root file).on_one_line]

/-- With a fixed directory, the argument that includes a file is one literal on one line, and stands
    for the path of the file in that directory.  A manifest ends with its files, each included by a
    line of its own that is read as the inclusion of this literal. -/
theorem includes_directory (options : Options) (dir : String)
    (h_root : options.includeRoot = .directory dir) (modulePath : String) (files : List String) :
    (∀ file, Options.IsPathLiteral dir file (options.includeArgument file)) ∧
    (∀ file, ¬ SpansLines (includeText options file) ∧
      tokenize? (includeText options file) = some
        [.word "include", .punct '!' false,
          .group .paren [.literal (options.includeArgument file)], .punct ';' false]) ∧
    ∃ front, (emit modulePath files options).text =
      front ++ "\n" ++ String.join (files.map (includeText options · ++ "\n")) := by
  refine ⟨Options.isPathLiteral_includeArgument h_root, fun file => ?_, ?_⟩
  · exact ⟨not_spansLines_includeText h_root file, tokenize?_includeText h_root file⟩
  · apply exists_text_emit modulePath
    intro file _ h_newline
    exact not_spansLines_includeText h_root file ⟨'\n', h_newline, .inl rfl⟩

/-- A directory with a line break, a quote and a combining mark in its name. -/
def brokenDirectoryOptions : Options where
  includeRoot := .directory "a\n\"\u0301/\\"

theorem includes_brokenDirectory :
    brokenDirectoryOptions.includeArgument "X.g.rs" = "\"a\\n\\\"\\u\x7b301\x7d/X.g.rs\"" ∧
    Options.IsPathLiteral "a\n\"\u0301/\\" "X.g.rs"
      (brokenDirectoryOptions.includeArgument "X.g.rs") :=
  ⟨by decide +kernel,
    (includes_directory brokenDirectoryOptions "a\n\"\u0301/\\" rfl "crate" ["X.g.rs"]).1 "X.g.rs"⟩

end Manifest
end FieldDelta
