import FieldDelta.Syntax.Token

/-! # Phrases

A phrase is a piece of parsed source: a type, an expression, a bound, an attribute.  Names are
resolved and moved inside it, so its paths are kept as trees wherever they stand; all else
in it is kept as the tokens that spell it.

* `Fragment` — a token, a path, a qualified path, or a group of fragments;
* `Path` and its parts — segments with their generic arguments;
* `Phrase` — a sequence of fragments.  A type that is written as a path is the phrase of that
  one path;
* `Phrase.tokens` — the tokens that spell a phrase;
* `Phrase.paths` — the paths inside a phrase, in the order in which they are looked at.

The parts of a construct are not always looked at in the order in which they are written: the
conditions of a function stand behind its parameters and are looked at before them.  `Turn`
says when it is a part's turn.
-/

namespace FieldDelta.Syntax

/-- What an argument between angle brackets is. -/
inductive ArgumentKind where
  | lifetime
  | type
  /-- A constant, or a constraint on an associated item. -/
  | other
deriving DecidableEq, Repr

/-- When the paths of a part are looked at, among the parts of one construct. -/
inductive Turn where
  | attributes
  | visibility
  | parameters
  | conditions
  /-- Everything that has no turn of its own. -/
  | body
deriving DecidableEq, Repr

/-- All turns, the first one first. -/
def Turn.all : List Turn :=
  [.attributes, .visibility, .parameters, .conditions, .body]

mutual

/-- A piece of a phrase. -/
inductive Fragment where
  | token (tree : TokenTree)
  | path (path : Path)
  /-- `<T as Trait>::rest`.  The first `position` segments of the path are the trait's; without
      a trait the position is zero and the path has a leading `::`. -/
  | qualified (self : List Fragment) (position : Nat) (path : Path)
  | group (delimiter : Delimiter) (inner : List Fragment)
  /-- A list between angle brackets, which is not the arguments of a path. -/
  | angle (elements : List Argument) (trailing : Bool)
  /-- A part of a construct that is looked at in its turn. -/
  | part (turn : Turn) (inner : List Fragment)
  /-- A construct whose parts have turns. -/
  | construct (inner : List Fragment)
  /-- The type of a receiver without one, such as `&Self` for `&self`.  It is not written as long
      as it names `Self`. -/
  | implied (type : List Fragment)

/-- A path, and whether it has a leading `::`. -/
inductive Path where
  | mk (leading : Bool) (segments : List Segment)

/-- A segment of a path. -/
inductive Segment where
  | mk (name : String) (arguments : Arguments)

/-- The generic arguments of a segment. -/
inductive Arguments where
  | none
  /-- `<A, B>`, or `::<A, B>` as a turbofish; `trailing` tells of a comma after the last one. -/
  | angle (turbofish : Bool) (arguments : List Argument) (trailing : Bool)
  /-- `(A, B) -> C`. -/
  | parenthesized (phrase : List Fragment)

/-- One argument between angle brackets. -/
inductive Argument where
  | mk (kind : ArgumentKind) (phrase : List Fragment)

end

abbrev Phrase := List Fragment

/-! ## Parts of paths -/

namespace Path

/-- Whether the path begins with `::`. -/
def leading : Path → Bool
  | mk leading _ => leading

def segments : Path → List Segment
  | mk _ segments => segments

end Path

namespace Segment

/-- The segment's identifier as written. -/
def name : Segment → String
  | mk name _ => name

def arguments : Segment → Arguments
  | mk _ arguments => arguments

def plain (name : String) : Segment :=
  mk name .none

end Segment

namespace Path

def ofNames (names : List String) : Path :=
  mk false (names.map Segment.plain)

/-- The identifiers of the path's segments. -/
def names (path : Path) : List String :=
  path.segments.map Segment.name

/-- Whether the path is a single identifier, without `::` and without arguments. -/
def isIdent (path : Path) (name : String) : Bool :=
  match path with
  | mk false [.mk found .none] => found == name
  | _ => false

/-- The identifier that the path consists of, if it is a single one. -/
def ident? : Path → Option String
  | mk false [.mk name .none] => some name
  | _ => none

def isPlain (path : Path) : Bool :=
  path.segments.all fun segment =>
    match segment.arguments with
    | .none => true
    | _ => false

end Path

/-! ## Spelling operators -/

/-- The tokens of an operator: its characters hang together, and the last one stands free. -/
def operatorTokens : List Char → List TokenTree
  | [] => []
  | [c] => [.punct c false]
  | c :: rest => .punct c true :: operatorTokens rest

def separatorTokens : List TokenTree :=
  operatorTokens [':', ':']

def comma : TokenTree :=
  .punct ',' false

/-! ## Lifetimes first -/

/-- An element of a list between angle brackets: its tokens, and whether it is a lifetime. -/
structure AngleElement where
  isLifetime : Bool
  tokens : List TokenTree

/-- Pairs every element with the comma that follows it. -/
def withCommas (trailing : Bool) : List AngleElement → List (AngleElement × Bool)
  | [] => []
  | [element] => [(element, trailing)]
  | element :: rest => (element, true) :: withCommas trailing rest

def punctuated (element : AngleElement × Bool) : List TokenTree :=
  element.1.tokens ++ (if element.2 then [comma] else [])

/-- Writes elements one after the other.  `separated` says whether the next one may follow
    without a comma in front of it. -/
def spellElements (separated : Bool) : List (AngleElement × Bool) → List TokenTree
  | [] => []
  | element :: rest =>
    (if separated then [] else [comma]) ++ punctuated element ++ spellElements element.2 rest

/-- The tokens of a list between angle brackets.  Lifetimes go before everything else; each
    element takes its own comma along, and one is added where that leaves none. -/
def angleTokens (elements : List AngleElement) (trailing : Bool) : List TokenTree :=
  let pairs := withCommas trailing elements
  let lifetimes := pairs.filter (·.1.isLifetime)
  let others := pairs.filter (!·.1.isLifetime)
  let separated := match lifetimes.getLast? with
    | some last => last.2
    | none => true
  [.punct '<' false] ++ lifetimes.flatMap punctuated ++ spellElements separated others
    ++ [.punct '>' false]

/-! ## The tokens of a phrase -/

/-- Joins the tokens of segments by `::`. -/
def joinSegmentTokens : List (List TokenTree) → List TokenTree
  | [] => []
  | [tokens] => tokens
  | tokens :: rest => tokens ++ separatorTokens ++ joinSegmentTokens rest

/-- The tokens of a qualified path, from the tokens of its parts.  The closing `>` stands after
    the trait's segments. -/
def qualifiedTokens (self : List TokenTree) (position : Nat) (leading : Bool)
    (segments : List (List TokenTree)) : List TokenTree :=
  let lead := if leading then separatorTokens else []
  let trait := segments.take position
  let rest := segments.drop position
  if trait.isEmpty then
    [.punct '<' false] ++ self ++ [.punct '>' false] ++ lead ++ joinSegmentTokens segments
  else
    [.punct '<' false] ++ self ++ [.word "as"] ++ lead ++ joinSegmentTokens trait
      ++ [.punct '>' false]
      ++ (if rest.isEmpty then [] else separatorTokens ++ joinSegmentTokens rest)

/-- Whether a phrase ends with the path `Self`. -/
def endsWithSelf (phrase : List Fragment) : Bool :=
  match phrase.getLast? with
  | some (.path path) => path.isIdent "Self"
  | _ => false

mutual

def Fragment.tokens : Fragment → List TokenTree
  | .token tree => [tree]
  | .path path => path.tokens
  | .qualified self position (.mk leading segments) =>
    qualifiedTokens (Fragment.tokensOfList self) position leading (Segment.tokensOfList segments)
  | .group delimiter inner => [.group delimiter (Fragment.tokensOfList inner)]
  | .angle elements trailing => angleTokens (Argument.elements elements) trailing
  | .part _ inner => Fragment.tokensOfList inner
  | .construct inner => Fragment.tokensOfList inner
  | .implied type =>
    if endsWithSelf type then [] else .punct ':' false :: Fragment.tokensOfList type

def Fragment.tokensOfList : List Fragment → List TokenTree
  | [] => []
  | fragment :: rest => fragment.tokens ++ Fragment.tokensOfList rest

def Path.tokens : Path → List TokenTree
  | .mk leading segments =>
    (if leading then separatorTokens else []) ++ joinSegmentTokens (Segment.tokensOfList segments)

def Segment.tokensOfList : List Segment → List (List TokenTree)
  | [] => []
  | segment :: rest => segment.tokens :: Segment.tokensOfList rest

def Segment.tokens : Segment → List TokenTree
  | .mk name arguments => .word name :: arguments.tokens

def Arguments.tokens : Arguments → List TokenTree
  | .none => []
  | .angle turbofish arguments trailing =>
    (if turbofish then separatorTokens else []) ++
      angleTokens (Argument.elements arguments) trailing
  | .parenthesized phrase => Fragment.tokensOfList phrase

def Argument.elements : List Argument → List AngleElement
  | [] => []
  | argument :: rest => argument.element :: Argument.elements rest

def Argument.element : Argument → AngleElement
  | .mk kind phrase => ⟨kind == .lifetime, Fragment.tokensOfList phrase⟩

end

def Phrase.tokens (phrase : Phrase) : List TokenTree :=
  Fragment.tokensOfList phrase

def Phrase.text (phrase : Phrase) : String :=
  tokenText phrase.tokens

def Path.text (path : Path) : String :=
  tokenText path.tokens

/-- Whether the last token of a phrase is a group in braces. -/
def Phrase.endsWithBrace (phrase : Phrase) : Bool :=
  match phrase.tokens.getLast? with
  | some (.group .brace _) => true
  | _ => false

/-! ## The paths of a phrase -/

def inTurns (found : List (Turn × Path)) : List Path :=
  Turn.all.flatMap fun turn => (found.filter (·.1 == turn)).map (·.2)

mutual

/-- The paths inside a fragment that stands in a part with the given turn. -/
def Fragment.paths (turn : Turn) : Fragment → List (Turn × Path)
  | .token _ => []
  | .path path => path.paths turn
  | .qualified self _ path => Fragment.pathsOfList turn self ++ path.paths turn
  | .group _ inner => Fragment.pathsOfList turn inner
  | .angle elements _ => Argument.pathsOfList turn elements
  | .part turn inner => Fragment.pathsOfList turn inner
  | .construct inner => (inTurns (Fragment.pathsOfList .body inner)).map (turn, ·)
  | .implied type => Fragment.pathsOfList turn type

def Fragment.pathsOfList (turn : Turn) : List Fragment → List (Turn × Path)
  | [] => []
  | fragment :: rest => fragment.paths turn ++ Fragment.pathsOfList turn rest

def Path.paths (turn : Turn) : Path → List (Turn × Path)
  | .mk leading segments => (turn, .mk leading segments) :: Segment.pathsOfList turn segments

def Segment.pathsOfList (turn : Turn) : List Segment → List (Turn × Path)
  | [] => []
  | .mk _ arguments :: rest => arguments.paths turn ++ Segment.pathsOfList turn rest

def Arguments.paths (turn : Turn) : Arguments → List (Turn × Path)
  | .none => []
  | .angle _ arguments _ => Argument.pathsOfList turn arguments
  | .parenthesized phrase => Fragment.pathsOfList turn phrase

def Argument.pathsOfList (turn : Turn) : List Argument → List (Turn × Path)
  | [] => []
  | .mk _ phrase :: rest => Fragment.pathsOfList turn phrase ++ Argument.pathsOfList turn rest

end

/-- The paths inside a phrase, outer ones first. -/
def Phrase.paths (phrase : Phrase) : List Path :=
  inTurns (Fragment.pathsOfList .body phrase)

end FieldDelta.Syntax
