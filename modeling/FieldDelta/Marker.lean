import FieldDelta.Syntax.Literal
import FieldDelta.Syntax.Parse
import FieldDelta.Unicode.Alphanumeric

/-! # The tracking marker and its arguments

A tracked type carries `#[derive(TrackDelta)]` and perhaps arguments in `#[delta(…)]`; a field
opts out with `#[delta(ignore)]`.

* `isMarker` — whether an attribute marks a type;
* `readArguments` — the arguments of one `#[delta…]` attribute, read from left to right up to
  the first fault;
* `readConfig` — the configuration that the arguments of a type make up;
* `readField` — whether the arguments of a field exclude it.

Reading is lenient: every problem is an `Issue` beside a usable result.
-/

namespace FieldDelta

open Syntax

/-- Per-type options. -/
structure TrackingConfig where
  /-- Appended to the type name to form the name of the delta type. -/
  suffix : String := "Delta"
  /-- Expand properties whose type is tracked itself. -/
  deepTracking : Bool := true
  /-- Provide the extension trait that compares two values. -/
  convenienceFunctions : Bool := true
deriving DecidableEq, Repr

/-- The name of the delta type of `typeName`. -/
def TrackingConfig.generatedName (config : TrackingConfig) (typeName : String) : String :=
  typeName ++ config.suffix

namespace Marker

/-! ## The marker -/

def markerName : String := "TrackDelta"

/-- The attribute that holds the arguments. -/
def helperName : String := "delta"

def lastName? (path : Path) : Option String :=
  path.names.getLast?

/-- Whether an attribute is a list of derives with the marker among them.  Only the last segment
    of a path counts; a list that does not parse holds no marker. -/
def isMarker (attr : Attribute) : Bool :=
  match attr.input with
  | .arguments _ tokens =>
    attr.isNamed "derive" &&
      (match read? (fun rules => Reader.commaList (Grammar.barePath rules .type)) tokens with
        | some (paths, _) => paths.any fun path => lastName? path == some markerName
        | none => false)
  | _ => false

/-! ## Arguments -/

/-- Why the arguments of an attribute cannot be read on. -/
inductive Fault where
  | noParentheses
  | valueInstead
  | keyMissing
  | keyCutShort
  | keySegment
  | literalKey
  | otherKey
  | valueMissing
  | valueExpected
  | commaExpected
deriving DecidableEq, Repr

def Fault.message : Fault → String
  | noParentheses => "expected attribute arguments in parentheses: #[delta(...)]"
  | valueInstead => "expected parentheses: #[delta(...)]"
  | keyMissing => "unexpected end of input, expected nested attribute"
  | keyCutShort => "unexpected end of input, expected ident"
  | keySegment => "expected ident"
  | literalKey => "unexpected literal in nested attribute, expected ident"
  | otherKey => "unexpected token in nested attribute, expected ident"
  | valueMissing => "unexpected end of input, expected literal"
  | valueExpected => "expected literal"
  | commaExpected => "expected `,`"

/-- One argument: its key, unless the key is a path of several segments, and its value. -/
structure Argument where
  key : Option String
  value : Option Literal := none
deriving DecidableEq, Repr

/-- Further segments of a key, each behind a `::`.  Answers whether there were any. -/
def keySegments : List TokenTree → Except Fault (Bool × List TokenTree)
  | .punct ':' true :: .punct ':' _ :: rest =>
    match rest with
    | .word _ :: behind =>
      match keySegments behind with
      | .ok (_, left) => .ok (true, left)
      | .error fault => .error fault
    | [] => .error .keyCutShort
    | _ => .error .keySegment
  | trees => .ok (false, trees)

/-- The key of an argument.  Any word may be one. -/
def readKey (trees : List TokenTree) : Except Fault (Option String × List TokenTree) := do
  let rooted := Ahead.op "::" trees
  match if rooted then trees.drop 2 else trees with
  | .word name :: rest =>
    let (longer, left) ← keySegments rest
    return (if rooted || longer then none else some name, left)
  | [] => .error .keyMissing
  | other => .error (if Ahead.literal other then .literalKey else .otherKey)

def readLiteral : List TokenTree → Except Fault (Literal × List TokenTree)
  | [] => .error .valueMissing
  | .literal text :: rest => .ok (Literal.ofText text, rest)
  | .word "true" :: rest => .ok (.truth true, rest)
  | .word "false" :: rest => .ok (.truth false, rest)
  | .punct '-' _ :: .literal text :: rest =>
    if Ahead.isNumber text then .ok (.other, rest) else .error .valueExpected
  | _ => .error .valueExpected

/-- The value behind a `=`, if there is one. -/
def readValue (trees : List TokenTree) : Except Fault (Option Literal × List TokenTree) := do
  if Ahead.op "=" trees then
    let (value, rest) ← readLiteral (trees.drop 1)
    return (some value, rest)
  else return (none, trees)

/-- Arguments separated by commas, at most `limit`.  `takesValue` says which keys a value is read
    for.  The arguments in front of a fault are answered with it. -/
def readArgumentsWithin (takesValue : Option String → Bool) :
    Nat → List TokenTree → List Argument × Option Fault
  | 0, _ => ([], none)
  | limit + 1, trees =>
    if trees.isEmpty then ([], none)
    else
      match readKey trees with
      | .error fault => ([], some fault)
      | .ok (key, rest) =>
        match if takesValue key then readValue rest else .ok (none, rest) with
        | .error fault => ([], some fault)
        | .ok (value, rest) =>
          let argument := { key := key, value := value }
          if rest.isEmpty then ([argument], none)
          else if Ahead.op "," rest then
            let (others, fault) := readArgumentsWithin takesValue limit (rest.drop 1)
            (argument :: others, fault)
          else ([argument], some .commaExpected)

def readArguments (takesValue : Option String → Bool) (input : AttributeInput) :
    List Argument × Option Fault :=
  match input with
  | .none => ([], some .noParentheses)
  | .value _ => ([], some .valueInstead)
  | .arguments _ tokens => readArgumentsWithin takesValue (tokens.length + 1) tokens

/-! ## Issues -/

/-- What is wrong with the arguments of a marker or field. -/
inductive Issue where
  | unknownKey (key : String)
  | fieldKey
  | suffixValue
  | flagValue (key : String)
  | emptySuffix
  | invalidSuffix (value : String)
  | malformed (fault : Fault)
deriving DecidableEq, Repr

/-- The kinds of issues. -/
inductive IssueKind where
  | unknownKey
  | invalidValue
  | emptySuffix
  | invalidSuffix
  | malformed
deriving DecidableEq, Repr

namespace Issue

def kind : Issue → IssueKind
  | unknownKey _ => .unknownKey
  | fieldKey => .unknownKey
  | suffixValue => .invalidValue
  | flagValue _ => .invalidValue
  | emptySuffix => .emptySuffix
  | invalidSuffix _ => .invalidSuffix
  | malformed _ => .malformed

/-- Whether the marker itself is rejected.  A wrong value has a default to fall back to; an
    unknown key or a malformed attribute has none. -/
def isHard (issue : Issue) : Bool :=
  issue.kind == .unknownKey || issue.kind == .malformed

def message : Issue → String
  | unknownKey key => "unknown delta argument `" ++ key ++ "`"
  | fieldKey => "only `ignore` is accepted on fields"
  | suffixValue => "`suffix` expects a string literal; using `Delta`"
  | flagValue key => "`" ++ key ++ "` expects `true` or `false`; using `true`"
  | emptySuffix => "empty suffix; using `Delta`"
  | invalidSuffix value => "suffix `" ++ value ++ "` is not an identifier fragment; using `Delta`"
  | malformed fault => "malformed `#[delta(...)]` attribute: " ++ fault.message

end Issue

/-! ## The configuration of a type -/

def isIdentifierFragment (value : String) : Bool :=
  value.toList.all fun c => c == '_' || Unicode.isAlphanumeric c

/-- The configuration after `suffix`, and the issue it gave rise to.  A rejected value leaves the
    configuration as it was. -/
def applySuffix (config : TrackingConfig) : Option Literal → TrackingConfig × Option Issue
  | some (.string value) =>
    if value.isEmpty then (config, some .emptySuffix)
    else if !isIdentifierFragment value then (config, some (.invalidSuffix value))
    else ({ config with suffix := value }, none)
  | _ => (config, some .suffixValue)

/-- The flag that a value sets; a bare key sets it to true. -/
def flagOf? : Option Literal → Option Bool
  | none => some true
  | some (.truth value) => some value
  | _ => none

/-- The configuration after one argument, and the issue it gave rise to. -/
def applyArgument (config : TrackingConfig) (argument : Argument) :
    TrackingConfig × Option Issue :=
  match argument.key.getD "" with
  | "suffix" => applySuffix config argument.value
  | "deep_tracking" =>
    match flagOf? argument.value with
    | some flag => ({ config with deepTracking := flag }, none)
    | none => (config, some (.flagValue "deep_tracking"))
  | "convenience_functions" =>
    match flagOf? argument.value with
    | some flag => ({ config with convenienceFunctions := flag }, none)
    | none => (config, some (.flagValue "convenience_functions"))
  | key => (config, some (.unknownKey key))

/-- The configuration after several arguments, and their issues in order. -/
def applyArguments (config : TrackingConfig) : List Argument → TrackingConfig × List Issue
  | [] => (config, [])
  | argument :: rest =>
    let (config, issue) := applyArgument config argument
    let (config, issues) := applyArguments config rest
    (config, issue.toList ++ issues)

def helpers (attributes : List Attribute) : List Attribute :=
  attributes.filter (·.isNamed helperName)

/-- The configuration after the arguments of several attributes, and their issues in order. -/
def applyAttributes (config : TrackingConfig) : List Attribute → TrackingConfig × List Issue
  | [] => (config, [])
  | attr :: rest =>
    let (arguments, fault) := readArguments (fun _ => true) attr.input
    let (config, issues) := applyArguments config arguments
    let (config, others) := applyAttributes config rest
    (config, issues ++ (fault.map Issue.malformed).toList ++ others)

/-- The configuration of a type, and the issues of its arguments.  Of several values for one key
    the last one counts. -/
def readConfig (attributes : List Attribute) : TrackingConfig × List Issue :=
  applyAttributes {} (helpers attributes)

/-! ## Fields -/

def readFieldAttribute (attr : Attribute) : Bool × List Issue :=
  let (arguments, fault) := readArguments (· != some "ignore") attr.input
  let (ignoring, others) := arguments.partition (·.key == some "ignore")
  (!ignoring.isEmpty, others.map (fun _ => .fieldKey) ++ (fault.map Issue.malformed).toList)

def readField (attributes : List Attribute) : Bool × List Issue :=
  let read := (helpers attributes).map readFieldAttribute
  (read.any (·.1), read.flatMap (·.2))

end Marker
end FieldDelta
