import KotestOutline.Pattern
import KotestOutline.Style
import KotestOutline.Symbol

/-!
# Recognition in a file

Which classes of a file are specs, which hooks and tests they have.
-/

namespace KotestOutline

/-!
## Classification

Whether a class is a spec, and of which style. The walk along the superclass chain resolves each
written name to a symbol; where a name does not resolve, its last segment is compared with the short
names of the styles. That fallback is imprecise, so every answer says which tier it comes from.
-/

/-- The tier that a classification comes from. -/
inductive Confidence where
  /-- Every step of the chain resolved to a symbol. -/
  | resolved
  /-- A step was matched by its short name only. -/
  | textual
  deriving DecidableEq, Inhabited

/-- The written name of a tier. -/
def Confidence.name : Confidence → String
  | resolved => "resolved"
  | textual => "textual"

/-- Every tier. -/
def Confidence.all : List Confidence := [.resolved, .textual]

/-- The style of a class. -/
structure Classification where
  style : SpecStyle
  confidence : Confidence
  deriving DecidableEq, Inhabited

/-- The enabled styles, and what type names are resolved against. -/
structure Classifier where
  registry : StyleRegistry
  resolver : Option Resolver

namespace Classifier

def hasResolver (c : Classifier) : Bool := c.resolver.isSome

/-! ### The superclass walk -/

/-- The style whose base class has the short name of a written one. -/
def matchShortName (candidates : List SpecStyle) (written : String) : Option SpecStyle :=
  candidates.find? (·.shortName == QualifiedName.short written)

/-- Follows a chain from a superclass written under a context. `seen` holds the classes already
met, which end the walk; `textual` allows the fallback for names that do not resolve. -/
def walkFrom (c : Classifier) (candidates : List SpecStyle) (textual : Bool) :
    Nat → List String → String → ImportContext → Option Classification
  | 0, _, _, _ => none
  | steps + 1, seen, written, context =>
    match c.resolver.bind (·.resolve written context) with
    | none =>
      if textual then (matchShortName candidates written).map (⟨·, .textual⟩) else none
    | some symbol =>
      match candidates.find? (·.fqName == symbol.fqName) with
      | some style => some ⟨style, .resolved⟩
      | none =>
        if seen.contains symbol.fqName then none
        else
          match symbol.superType with
          | none => none
          | some next =>
            walkFrom c candidates textual steps (symbol.fqName :: seen) next symbol.context

/-- The number of steps that is always enough: each but the last meets a new declaration. -/
def maxSteps (c : Classifier) : Nat := c.resolver.elim 0 Resolver.size + 1

/-- The style among `candidates` at the end of the superclass chain of a class. -/
def walk (c : Classifier) (n : Node) (candidates : List SpecStyle) (textual : Bool) :
    Option Classification :=
  (superTypeName? n).bind fun written =>
    c.walkFrom candidates textual c.maxSteps (classFqName? n).toList written (.ofNode n)

/-! ### Questions about a class -/

/-- The style of a class, by both tiers. -/
def classify (c : Classifier) (n : Node) : Option Classification :=
  c.walk n c.registry.styles true

/-- The style of a class if every step of its chain resolves. -/
def classifyResolved (c : Classifier) (n : Node) : Option SpecStyle :=
  (c.walk n c.registry.styles false).map Classification.style

/-- The style of a class by the text of its superclass alone. -/
def classifyTextual (c : Classifier) (n : Node) : Option SpecStyle :=
  (superTypeName? n).bind (matchShortName c.registry.styles)

/-- The style of a class, whatever its tier. -/
def resolveStyle (c : Classifier) (n : Node) : Option SpecStyle :=
  (c.classify n).map Classification.style

def isSpecification (c : Classifier) (n : Node) : Bool := (c.classify n).isSome

/-- Whether the walk finds one given style, registered or not. -/
def isSpecificationOf (c : Classifier) (n : Node) (style : SpecStyle) : Bool :=
  (c.walk n [style] true).isSome

/-! ### Recognition -/

/-- The test that a node declares in the style of the spec it sits in. -/
def recognize (c : Classifier) (n : Node) : MatchResult RecognizedTest :=
  match n.enclosingClass?.bind c.resolveStyle with
  | none => .error .notInSpec
  | some style => style.tryRecognize c.isSpecificationOf n

/-- The test that a token starts. Tokens that start no shape of an enabled style are rejected before
the class around them is looked at. -/
def recognizeFromToken? (c : Classifier) (token : Node) : Option RecognizedTest :=
  if c.registry.styles.any fun style => (style.candidate? token).isSome then
    (token.enclosingClass?.bind c.resolveStyle).bind
      (·.recognizeFromToken? c.isSpecificationOf token)
  else none

end Classifier

/-!
## Callbacks

The lifecycle hooks of a spec: the block calls that stand directly in the first initializer of its
body.
-/

/-- A lifecycle hook. -/
inductive CallbackKind where
  | beforeTest
  | afterTest
  | beforeSpec
  | afterSpec
  deriving DecidableEq, Inhabited

namespace CallbackKind

/-- Every hook. -/
def all : List CallbackKind := [beforeTest, afterTest, beforeSpec, afterSpec]

/-- The function that declares a hook. -/
def keyword : CallbackKind → String
  | beforeTest => "beforeTest"
  | afterTest => "afterTest"
  | beforeSpec => "beforeSpec"
  | afterSpec => "afterSpec"

/-- The written name of a hook in data. -/
def name : CallbackKind → String
  | beforeTest => "before_test"
  | afterTest => "after_test"
  | beforeSpec => "before_spec"
  | afterSpec => "after_spec"

/-- The hook that a function declares. -/
def ofKeyword? (keyword : String) : Option CallbackKind :=
  all.find? (·.keyword == keyword)

end CallbackKind

/-- A declared hook. -/
structure Callback where
  kind : CallbackKind
  /-- The number of the node in its tree. -/
  anchor : Nat
  span : Span
  deriving DecidableEq, Inhabited

namespace Callback

/-- The hook that a call declares. -/
def ofCall? (call : Node) : Option Callback :=
  if isBlockCall call then
    ((calleeName? call).bind CallbackKind.ofKeyword?).map (⟨·, call.id, call.span⟩)
  else none

/-- The block of the first initializer of a class. -/
def initializerBlock? (n : Node) : Option Node := do
  let body ← n.firstChild? .classBody
  let initializer ← body.firstChild? .classInitializer
  initializer.firstChild? .blockExpression

/-- The hooks of a class, in source order. -/
def ofClass (n : Node) : List Callback :=
  match initializerBlock? n with
  | none => []
  | some block => (block.childrenOf .callExpression).filterMap ofCall?

end Callback

/-!
## Listings

The specs of a file and the tests of a spec, in source order.
-/

/-- The classes and objects of a file that are specs. -/
def listSpecifications (c : Classifier) (file : Node) : List (Node × Classification) :=
  (file.descendants.filter (·.kind.isClassOrObject)).filterMap fun n =>
    (c.classify n).map (n, ·)

/-- Whether nodes of this kind can declare a test. -/
def NodeKind.mayDeclareTest : NodeKind → Bool
  | .callExpression | .dotQualifiedExpression => true
  | _ => false

/-- The tests and containers of a style that a class declares. Classes inside it are left out: each
is a spec of its own or none. -/
def listTests (style : SpecStyle) (membership : Membership) (n : Node) : List RecognizedTest :=
  ((n.below NodeKind.isClassOrObject).filter (·.kind.mayDeclareTest)).filterMap
    (style.recognize? membership)

end KotestOutline
