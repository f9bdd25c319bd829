/-! # Line-oriented layout of generated source

Generated text is described as a list of layout steps: whole lines, and lines that open or
close a block.  Running the steps keeps the indentation, so the code that describes a nested
block never mentions its depth.

* `Layout.Step` — one step;
* `Layout.Page` — the text written so far and the current depth;
* `Layout.render` — the finished text of a list of steps.
-/

namespace FieldDelta.Layout

/-- One step of laying out source text. -/
inductive Step where
  /-- A line at the current depth. -/
  | line (text : String)
  /-- A line that opens a block. -/
  | opening (text : String)
  /-- A line that closes the innermost block. -/
  | closing (text : String)
  /-- A line that closes one block and opens the next. -/
  | reopening (text : String)
  /-- One level deeper, without a line. -/
  | indent
  /-- One level back, without a line. -/
  | dedent
  /-- An empty line, unless the line before it is already empty. -/
  | blank
deriving DecidableEq, Repr

/-- The text written so far and the depth of the next line. -/
structure Page where
  text : String := ""
  depth : Nat := 0
deriving Repr

def indentation : String := "    "

/-- The white space before a line at the given depth. -/
def margin : Nat → String
  | 0 => ""
  | depth + 1 => indentation ++ margin depth

/-- Whether `suffix` ends the text. -/
def endsWith (text suffix : String) : Bool :=
  suffix.toList.isSuffixOf text.toList

namespace Page

/-- Writes one line.  An empty line gets no margin. -/
def line (page : Page) (text : String) : Page :=
  if text.isEmpty then { page with text := page.text ++ "\n" }
  else { page with text := page.text ++ (margin page.depth ++ text ++ "\n") }

def indent (page : Page) : Page :=
  { page with depth := page.depth + 1 }

/-- One level back; the outermost level stays. -/
def dedent (page : Page) : Page :=
  { page with depth := page.depth - 1 }

/-- An empty line, unless nothing is written yet or the last line is empty. -/
def blank (page : Page) : Page :=
  if page.text.isEmpty || endsWith page.text "\n\n" then page
  else { page with text := page.text ++ "\n" }

def step (page : Page) : Step → Page
  | .line text => page.line text
  | .opening text => (page.line text).indent
  | .closing text => page.dedent.line text
  | .reopening text => (page.dedent.line text).indent
  | .indent => page.indent
  | .dedent => page.dedent
  | .blank => page.blank

def run (page : Page) (steps : List Step) : Page :=
  steps.foldl step page

end Page

/-- Drops line feeds while the text (here reversed) ends with two of them. -/
def dropBlankLines : List Char → List Char
  | '\n' :: '\n' :: rest => dropBlankLines ('\n' :: rest)
  | cs => cs

/-- The finished text: no empty lines at the end, and one line feed after the last line. -/
def Page.finish (page : Page) : String :=
  match dropBlankLines page.text.toList.reverse with
  | '\n' :: rest => String.ofList ('\n' :: rest).reverse
  | rest => String.ofList ('\n' :: rest).reverse

def render (steps : List Step) : String :=
  (Page.run {} steps).finish

end FieldDelta.Layout
