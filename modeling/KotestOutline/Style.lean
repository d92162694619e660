import KotestOutline.FileSystem
import KotestOutline.Pattern
import KotestOutline.Syntax
import KotestOutline.Text

/-!
# Spec styles

The styles of specs: what a match yields, the rules of each style, and registries of styles.
-/

namespace KotestOutline

/-!
## Test paths

The path of a test: the names of the containers around it, outermost first, and its own name.
-/

/-- What stands between the segments of a path. -/
def pathSeparator : String := " -- "

/-- The names of the containers around a node, outermost first. `containerName?` is only asked
about call expressions. -/
def containerNames (containerName? : Node → Option String) (n : Node) : List String :=
  ((n.ancestors.filter (·.is .callExpression)).filterMap containerName?).reverse

/-- The path of a name inside containers. -/
def joinPath (containers : List String) (leaf : String) : String :=
  String.join (containers.map (· ++ pathSeparator)) ++ leaf

/-!
## Recognized tests

What a matcher finds at a node: a runnable test, or a container that holds tests.
-/

/-- Whether a recognized node groups tests or is itself runnable. -/
inductive TestKind where
  | container
  | test
  deriving DecidableEq, Inhabited

/-- The written name of a kind of test. -/
def TestKind.name : TestKind → String
  | container => "container"
  | test => "test"

/-- Every kind of test. -/
def TestKind.all : List TestKind := [.container, .test]

/-- A test or container of a spec. -/
structure RecognizedTest where
  /-- The literal name given at the node. -/
  name : String
  /-- The names of the containers around it and its own, joined. -/
  path : String
  /-- The names of the containers around it, outermost first. -/
  containers : List String
  kind : TestKind
  /-- The number of the node in its tree. -/
  anchor : Nat
  span : Span
  deriving DecidableEq, Inhabited

namespace RecognizedTest

/-- The test that a node declares under a name inside containers. -/
def ofNode (n : Node) (name : String) (containers : List String) (kind : TestKind) :
    RecognizedTest :=
  ⟨name, joinPath containers name, containers, kind, n.id, n.span⟩

def isContainer (t : RecognizedTest) : Bool := t.kind == .container

/-- How many containers are around the test. -/
def depth (t : RecognizedTest) : Nat := t.containers.length

/-- The segments of the path, outermost first. -/
def segments (t : RecognizedTest) : List String := t.containers ++ [t.name]

end RecognizedTest

/-!
## Nested styles

Styles in which named containers hold named tests. Expect, Fun and Should Spec differ only in the
names of the two functions, so a nested style is a record of names.
-/

/-- The function that configures a test in every style. -/
def configFunction : String := "config"

/-- A style of named containers and named tests. -/
structure NestedStyle where
  /-- The base class that specs of the style extend. -/
  fqName : String
  styleName : String
  /-- The function that opens a container. -/
  containerFn : String
  /-- The function that declares a test. -/
  testFn : String

namespace NestedStyle

/-- An empty test with a name. -/
def generateTest (style : NestedStyle) (test : String) : String :=
  style.testFn ++ "(\"" ++ escapeLiteral test ++ "\") \x7b \x7d"

/-- The name of a node that is a container. -/
def containerName? (style : NestedStyle) (n : Node) : Option String :=
  (namedCall style.containerFn n).toOption

/-- The test a node declares under a name. -/
def build (style : NestedStyle) (n : Node) (kind : TestKind) (name : String) : RecognizedTest :=
  .ofNode n name (containerNames style.containerName? n) kind

/-- A call as a test, or else as a container. -/
def matchCall (style : NestedStyle) (n : Node) : MatchResult RecognizedTest :=
  match namedCall style.testFn n with
  | .ok name => .ok (style.build n .test name)
  | .error reason =>
    match namedCall style.containerFn n with
    | .ok name => .ok (style.build n .container name)
    | .error other => .error (reason.mostSpecific other)

/-- The test or container that a node declares, whatever class it sits in. -/
def tryMatch (style : NestedStyle) (n : Node) : MatchResult RecognizedTest :=
  match n.kind with
  | .callExpression => style.matchCall n
  | .dotQualifiedExpression =>
    (configuredCall style.testFn configFunction n).map (style.build n .test)
  | _ => .error .shape

/-- The expression that a token may start. Identifiers other than the two functions start none. -/
def candidate? (style : NestedStyle) (token : Node) : Option Node :=
  match token.kind with
  | .identifier =>
    if token.text == style.testFn || token.text == style.containerFn then callOfIdentifier? token
    else none
  | .dot => expressionOfDot? token
  | _ => none

end NestedStyle

/-!
## The flat style

String Spec: every test is a string with a lambda, and there are no containers. A string can be
invoked in any file with the right extension, so a match counts only inside a confirmed spec.
-/

namespace FlatStyle

/-- The base class that specs of the style extend. -/
def fqName : String := "io.kotest.core.spec.style.StringSpec"

def styleName : String := "String Spec"

/-- An empty test with a name. -/
def generateTest (test : String) : String :=
  "\"" ++ escapeLiteral test ++ "\" \x7b \x7d"

/-- The test that a node declares, whatever class it sits in. -/
def tryMatch (n : Node) : MatchResult RecognizedTest :=
  let test (name : String) : RecognizedTest := .ofNode n name [] .test
  match n.kind with
  | .callExpression => (stringCall n).map test
  | .dotQualifiedExpression => (configuredString configFunction n).map test
  | _ => .error .shape

/-- The expression that a token may start. -/
def candidate? (token : Node) : Option Node :=
  match token.kind with
  | .openQuote => callOfQuote? token
  | .dot => expressionOfDot? token
  | _ => none

end FlatStyle

/-!
## Spec styles

The supported conventions for declaring tests. The set is closed; each style is either the flat one
or a nested one, and the rules of a style are those of its record.
-/

/-- A supported spec style. -/
inductive SpecStyle where
  | stringSpec
  | expectSpec
  | funSpec
  | shouldSpec
  deriving DecidableEq, Inhabited

/-- Whether a class is a spec of a style. -/
abbrev Membership := Node → SpecStyle → Bool

/-- The membership of callers that have confirmed the spec themselves. -/
def Membership.assumed : Membership := fun _ _ => true

namespace SpecStyle

/-- Every style, in registration order. -/
def all : List SpecStyle := [stringSpec, expectSpec, funSpec, shouldSpec]

/-- The written name of a style in data. -/
def name : SpecStyle → String
  | stringSpec => "string_spec"
  | expectSpec => "expect_spec"
  | funSpec => "fun_spec"
  | shouldSpec => "should_spec"

/-- The record of a nested style, none for the flat one. -/
def nested? : SpecStyle → Option NestedStyle
  | stringSpec => none
  | expectSpec => some ⟨"io.kotest.core.spec.style.ExpectSpec", "Expect Spec", "context", "expect"⟩
  | funSpec => some ⟨"io.kotest.core.spec.style.FunSpec", "Fun Spec", "context", "test"⟩
  | shouldSpec => some ⟨"io.kotest.core.spec.style.ShouldSpec", "Should Spec", "context", "should"⟩

/-! ### Names -/

/-- The base class that specs of the style extend. -/
def fqName (style : SpecStyle) : String :=
  style.nested?.elim FlatStyle.fqName NestedStyle.fqName

/-- The last segment of the base class. -/
def shortName (style : SpecStyle) : String := QualifiedName.short style.fqName

/-- The name of the style for people. -/
def styleName (style : SpecStyle) : String :=
  style.nested?.elim FlatStyle.styleName NestedStyle.styleName

/-! ### Stubs -/

/-- An empty test with a name. -/
def generateTest (style : SpecStyle) (test : String) : String :=
  style.nested?.elim (FlatStyle.generateTest test) (·.generateTest test)

/-- A spec class that holds one empty test. -/
def generateSpec (style : SpecStyle) (spec test : String) : String :=
  "class " ++ spec ++ " : " ++ style.shortName ++ "(\x7b\n    " ++ style.generateTest test ++
    "\n\x7d)\n"

/-! ### Recognition -/

/-- The test or container that a node declares, whatever class it sits in. -/
def tryMatch (style : SpecStyle) (n : Node) : MatchResult RecognizedTest :=
  style.nested?.elim (FlatStyle.tryMatch n) (·.tryMatch n)

/-- The expression that a token may start. -/
def candidate? (style : SpecStyle) (token : Node) : Option Node :=
  style.nested?.elim (FlatStyle.candidate? token) (·.candidate? token)

/-- The name of a node that is a container. -/
def containerName? (style : SpecStyle) (n : Node) : Option String :=
  style.nested?.bind (·.containerName? n)

/-- Whether matches count only inside a confirmed spec of the style. -/
def requiresMembership (style : SpecStyle) : Bool := style.nested?.isNone

/-- The test or container that a node declares, inside a spec of the style if it requires one. -/
def tryRecognize (style : SpecStyle) (membership : Membership) (n : Node) :
    MatchResult RecognizedTest := do
  let test ← style.tryMatch n
  if style.requiresMembership && !n.enclosingClass?.any (membership · style) then
    .error .notInSpec
  else .ok test

/-- The test or container that a node declares, if any. -/
def recognize? (style : SpecStyle) (membership : Membership) (n : Node) : Option RecognizedTest :=
  (style.tryRecognize membership n).toOption

/-- The test or container that a token starts, if any. -/
def recognizeFromToken? (style : SpecStyle) (membership : Membership) (token : Node) :
    Option RecognizedTest :=
  (style.candidate? token).bind (style.recognize? membership)

end SpecStyle

/-!
## Style registries

The ordered set of styles that recognition runs against. Where a class could match more than one
style, the earlier one wins.
-/

/-- The enabled styles, in order. -/
structure StyleRegistry where
  styles : List SpecStyle

namespace StyleRegistry

/-! ### Names of styles -/

/-- A name without blanks, underscores and hyphens, its ASCII letters in lower case. Other letters
may stay as they are: none of them has a lower case that spells a style. -/
def normalize (name : String) : List Char :=
  (name.toList.filter fun c => !(c == ' ' || c == '_' || c == '-')).map Char.toLower

/-- The style among `styles` with a qualified name, or else with a short or style name up to case,
blanks, underscores and hyphens. -/
def lookupIn (styles : List SpecStyle) (name : String) : Option SpecStyle :=
  (styles.find? (·.fqName == name)).or <|
    styles.find? fun style =>
      normalize style.shortName == normalize name || normalize style.styleName == normalize name

/-! ### Registries -/

/-- The registry of every style. -/
def full : StyleRegistry := ⟨SpecStyle.all⟩

/-- The registry of the named styles, in registration order. -/
def withStyles (names : List String) : Except ScanError StyleRegistry := do
  let selected ← names.mapM fun name =>
    match lookupIn SpecStyle.all name with
    | some style => .ok style
    | none => .error (.unknownStyle name)
  return ⟨SpecStyle.all.filter selected.contains⟩

/-- Whether a style is enabled. -/
def contains (r : StyleRegistry) (style : SpecStyle) : Bool := r.styles.contains style

/-- The enabled style with a base class. -/
def findByFqName? (r : StyleRegistry) (fqName : String) : Option SpecStyle :=
  r.styles.find? (·.fqName == fqName)

/-- The enabled style whose base class has a short name. -/
def findByShortName? (r : StyleRegistry) (shortName : String) : Option SpecStyle :=
  r.styles.find? (·.shortName == shortName)

/-- Whether a class is the base class of an enabled style. -/
def isSpecBase (r : StyleRegistry) (fqName : String) : Bool :=
  (r.findByFqName? fqName).isSome

/-- The enabled style with a qualified, short or style name. -/
def lookup (r : StyleRegistry) (name : String) : Option SpecStyle :=
  lookupIn r.styles name

end StyleRegistry

end KotestOutline
