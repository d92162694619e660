import KotestOutline.RoseTree
import KotestOutline.Text

/-!
# Syntax trees

The lowered tree of a file: the kinds of its nodes, the ways through it, and the calls that build
it.
-/

namespace KotestOutline

/-!
## Kinds of syntax nodes

The kinds of the lowered tree: the structure the recognizers look at, and the tokens, which are
leaves and never count as structure.
-/

/-- The kind of a lowered node. -/
inductive NodeKind where
  | file
  | packageHeader
  | importDirective
  | classDeclaration
  | objectDeclaration
  | superTypeList
  /-- A supertype with a constructor call. -/
  | superTypeCallEntry
  /-- A supertype without a constructor call. -/
  | superTypeEntry
  | typeReference
  | classBody
  | classInitializer
  | blockExpression
  | callExpression
  | dotQualifiedExpression
  | nameReference
  | valueArgumentList
  | valueArgument
  /-- A trailing lambda attached to a call. -/
  | lambdaArgument
  | lambdaExpression
  | stringTemplate
  | literalStringEntry
  | escapeStringEntry
  /-- A name or an expression interpolated in a string. -/
  | templateEntry
  | identifier
  | openQuote
  | closingQuote
  | dot
  | punctuation
  /-- Stands where the source lacks a token. -/
  | missing
  | error
  | other
  deriving DecidableEq, Inhabited

namespace NodeKind

/-- Every kind. -/
def all : List NodeKind :=
  [file, packageHeader, importDirective, classDeclaration, objectDeclaration, superTypeList,
    superTypeCallEntry, superTypeEntry, typeReference, classBody, classInitializer,
    blockExpression, callExpression, dotQualifiedExpression, nameReference, valueArgumentList,
    valueArgument, lambdaArgument, lambdaExpression, stringTemplate, literalStringEntry,
    escapeStringEntry, templateEntry, identifier, openQuote, closingQuote, dot, punctuation,
    missing, error, other]

/-- The written name of a kind. -/
def name : NodeKind → String
  | file => "File"
  | packageHeader => "PackageHeader"
  | importDirective => "ImportDirective"
  | classDeclaration => "ClassDeclaration"
  | objectDeclaration => "ObjectDeclaration"
  | superTypeList => "SuperTypeList"
  | superTypeCallEntry => "SuperTypeCallEntry"
  | superTypeEntry => "SuperTypeEntry"
  | typeReference => "TypeReference"
  | classBody => "ClassBody"
  | classInitializer => "ClassInitializer"
  | blockExpression => "BlockExpression"
  | callExpression => "CallExpression"
  | dotQualifiedExpression => "DotQualifiedExpression"
  | nameReference => "NameReference"
  | valueArgumentList => "ValueArgumentList"
  | valueArgument => "ValueArgument"
  | lambdaArgument => "LambdaArgument"
  | lambdaExpression => "LambdaExpression"
  | stringTemplate => "StringTemplate"
  | literalStringEntry => "LiteralStringEntry"
  | escapeStringEntry => "EscapeStringEntry"
  | templateEntry => "TemplateEntry"
  | identifier => "Identifier"
  | openQuote => "OpenQuote"
  | closingQuote => "ClosingQuote"
  | dot => "Dot"
  | punctuation => "Punctuation"
  | missing => "Missing"
  | error => "Error"
  | other => "Other"

/-- The kind with a written name. -/
def ofName? (name : String) : Option NodeKind :=
  all.find? (·.name == name)

/-- Whether nodes of this kind are tokens. -/
def isToken : NodeKind → Bool
  | identifier | openQuote | closingQuote | dot | punctuation | missing => true
  | _ => false

/-- Whether nodes of this kind declare a class or an object. -/
def isClassOrObject : NodeKind → Bool
  | classDeclaration | objectDeclaration => true
  | _ => false

end NodeKind

/-!
## Syntax trees

The lowered tree of a file and its nodes. A node is a subtree together with the trees around it,
innermost first, so that parents, ancestors and descendants are read off its two fields.

* `Node.below` lists the nodes under a node in pre-order, leaving out the subtrees whose root has
  a kind that the walk does not enter; `Node.descendants` leaves out none.
* `Node.text` is the text of a leaf, or the joined texts below a node that has none of its own.
-/

/-- What a node holds besides its place in the tree. -/
structure Content where
  kind : NodeKind
  /-- The text of a leaf; composite nodes have none of their own. -/
  text : Option String
  span : Span

/-- The content of a node under its number in the tree. -/
structure Label extends Content where
  id : Nat

/-- A lowered tree. -/
abbrev SyntaxTree := RoseTree Label

namespace SyntaxTree

mutual
/-- The own texts of a tree, in pre-order. -/
def ownTexts : RoseTree Label → List String
  | .node label children => label.text.toList ++ ownTextsAll children

/-- The own texts of each tree of a list, in turn. -/
def ownTextsAll : List (RoseTree Label) → List String
  | [] => []
  | t :: ts => ownTexts t ++ ownTextsAll ts
end

/-- The text a tree stands for. -/
def text (t : SyntaxTree) : String :=
  t.label.text.getD (String.join (ownTextsAll t.children))

end SyntaxTree

/-- A node of a syntax tree, with the trees around it. -/
structure Node where
  /-- The subtree with this node as its root. -/
  tree : SyntaxTree
  /-- The subtrees with an ancestor as their root, innermost first. -/
  above : List SyntaxTree

namespace Node

/-- The root of a tree. -/
def ofTree (t : SyntaxTree) : Node := ⟨t, []⟩

def id (n : Node) : Nat := n.tree.label.id

def kind (n : Node) : NodeKind := n.tree.label.kind

def span (n : Node) : Span := n.tree.label.span

/-- Whether the node has this kind. -/
def is (n : Node) (kind : NodeKind) : Bool := n.kind == kind

/-- The text the node stands for. -/
def text (n : Node) : String := SyntaxTree.text n.tree

/-! ### Upward -/

/-- The nodes of a chain of trees around a place, innermost first. -/
def chain : List SyntaxTree → List Node
  | [] => []
  | t :: above => ⟨t, above⟩ :: chain above

/-- The strict ancestors, innermost first. -/
def ancestors (n : Node) : List Node := chain n.above

def parent? (n : Node) : Option Node := n.ancestors.head?

/-- The outermost node around `n`, or `n` itself at the top. -/
def root (n : Node) : Node := n.ancestors.getLast?.getD n

/-- The nearest class or object declaration around the node. -/
def enclosingClass? (n : Node) : Option Node :=
  n.ancestors.find? (·.kind.isClassOrObject)

/-! ### Downward -/

/-- The children in order, tokens included. -/
def children (n : Node) : List Node :=
  n.tree.children.map (⟨·, n.tree :: n.above⟩)

/-- The children that are not tokens. -/
def elements (n : Node) : List Node :=
  n.children.filter (!·.kind.isToken)

def firstElement? (n : Node) : Option Node := n.elements.head?

def lastElement? (n : Node) : Option Node := n.elements.getLast?

/-- The first child of a kind. -/
def firstChild? (n : Node) (kind : NodeKind) : Option Node :=
  n.children.find? (·.is kind)

/-- The children of a kind. -/
def childrenOf (n : Node) (kind : NodeKind) : List Node :=
  n.children.filter (·.is kind)

/-- Whether a direct child stands for a token the source lacks. -/
def hasMissingChild (n : Node) : Bool :=
  n.children.any (·.is .missing)

mutual
/-- The nodes strictly under a subtree that has the trees `above` around it, in pre-order, without
the subtrees whose root kind is skipped. -/
def belowIn (skip : NodeKind → Bool) (above : List SyntaxTree) : RoseTree Label → List Node
  | .node label children => belowAll skip (.node label children :: above) children

/-- The nodes of each subtree of a list, in turn. -/
def belowAll (skip : NodeKind → Bool) (above : List SyntaxTree) :
    List (RoseTree Label) → List Node
  | [] => []
  | t :: ts =>
    let rest := belowAll skip above ts
    if skip t.label.kind then rest else ⟨t, above⟩ :: (belowIn skip above t ++ rest)
end

/-- The nodes strictly under a node in pre-order, without the subtrees of skipped kinds. -/
def below (n : Node) (skip : NodeKind → Bool) : List Node :=
  belowIn skip n.above n.tree

/-- The nodes strictly under a node, in pre-order. -/
def descendants (n : Node) : List Node := n.below fun _ => false

/-! ### Description -/

/-- A position in the form that debug output shows. -/
def describePosition (p : Position) : String :=
  s!"Position \x7b line: {p.line.toNat}, character: {p.character.toNat} \x7d"

/-- Number, kind and span of a node, in the form that debug output shows. -/
def describe (n : Node) : String :=
  s!"Node \x7b id: {n.id}, kind: {n.kind.name}, span: Span \x7b start: " ++
    s!"{describePosition n.span.start}, end: {describePosition n.span.stop} \x7d \x7d"

end Node

namespace SyntaxTree

/-- Every node of a tree, in pre-order. -/
def nodes (t : SyntaxTree) : List Node :=
  Node.ofTree t :: (Node.ofTree t).descendants

/-- The node with a number. -/
def node? (t : SyntaxTree) (id : Nat) : Option Node :=
  (nodes t).find? (·.id == id)

end SyntaxTree

/-!
## Building trees node by node

An arena collects the nodes of a tree in any order that names parents before children. Nodes are
numbered from 0, the root, in the order they are added; `Arena.toTree` is the tree they form.
-/

/-- The nodes added so far: the root, and for every other node its parent's number. -/
structure Arena where
  root : Content
  added : Array (Nat × Content)

namespace Arena

/-- An arena with only a root node. -/
def new (kind : NodeKind) (span : Span) : Arena :=
  ⟨⟨kind, none, span⟩, #[]⟩

/-- The number of nodes, which is the number of the next one. -/
def size (a : Arena) : Nat := a.added.size + 1

/-- Adds a composite node as the last child of `parent`. -/
def addNode (a : Arena) (parent : Nat) (kind : NodeKind) (span : Span) : Arena :=
  { a with added := a.added.push (parent, ⟨kind, none, span⟩) }

/-- Adds a leaf with its own text as the last child of `parent`. -/
def addLeaf (a : Arena) (parent : Nat) (kind : NodeKind) (text : String) (span : Span) : Arena :=
  { a with added := a.added.push (parent, ⟨kind, some text, span⟩) }

/-- Adds a node as the last child of `parent`: a leaf if it has a text of its own. -/
def addContent (a : Arena) (parent : Nat) (content : Content) : Arena :=
  match content.text with
  | none => a.addNode parent content.kind content.span
  | some text => a.addLeaf parent content.kind text content.span

/-- The arena of a file to which nodes without a place are added: each names its parent, its kind
and the text of a leaf. -/
def ofRows (rows : List (Nat × NodeKind × Option String)) : Arena :=
  rows.foldl (fun a (parent, kind, text) => a.addContent parent ⟨kind, text, .origin⟩)
    (new .file .origin)

/-- The tree of the collected nodes. -/
def toTree (a : Arena) : SyntaxTree :=
  RoseTree.ofRows ⟨a.root, 0⟩ <|
    (a.added.toList.zipIdx 1).map fun ((parent, content), id) => (parent, ⟨content, id⟩)

end Arena

/-!
## Walking down step by step

The walk below a node, for a caller that asks for one node after the other. What is still to come is
kept on a stack with the next node at its end. A step takes that node off, puts its children there
instead and turns them around, so that the first of them comes next.

* `Descent.next?` is a step, and `Descent.toList` takes steps until none is left.
* `Descent.walk` drops the nodes of some kinds as they come up, with all that is below them.
* `Descent.pending_of_next?` says what a step does to the nodes that wait.
-/

/-- A walk that is under way. -/
structure Descent where
  /-- The nodes whose subtrees are still to come, the next one last. -/
  stack : Array Node

/-- The walk below a node, before its first step. -/
def Node.descent (n : Node) : Descent := ⟨n.children.toArray.reverse⟩

namespace Descent

variable {d d' : Descent} {n : Node}

/-- The items up to a position, and those from there on the other way round. -/
def reverseFrom (start : Nat) (nodes : Array Node) : Array Node :=
  nodes.extract 0 start ++ (nodes.extract start).reverse

/-- The next node of a walk, and the walk after it. -/
def next? (d : Descent) : Option (Node × Descent) :=
  d.stack.back?.map fun n =>
    let rest := d.stack.pop
    (n, ⟨reverseFrom rest.size (rest ++ n.children.toArray)⟩)

/-- The walk without the node that comes next and what is below it. -/
def skipNext (d : Descent) : Descent := ⟨d.stack.pop⟩

/-- The nodes that wait, the next one first. -/
def pending (d : Descent) : List Node := d.stack.toList.reverse

/-- A step takes the first node that waits and lets its children wait in its place. -/
theorem pending_of_next? (h : d.next? = some (n, d')) :
    ∃ rest, d.pending = n :: rest ∧ d'.pending = n.children ++ rest := by
  obtain ⟨m, hback, heq⟩ := Option.map_eq_some_iff.1 h
  obtain ⟨rfl, rfl⟩ := Prod.mk.inj heq
  obtain ⟨rest, hstack⟩ := Array.back?_eq_some_iff.1 hback
  refine ⟨rest.toList.reverse, by simp [pending, hstack], ?_⟩
  simp [pending, reverseFrom, hstack]

/-- Only the node that comes next stops waiting when it is dropped. -/
theorem pending_skipNext (d : Descent) : d.skipNext.pending = d.pending.tail := by
  simp [pending, skipNext]

/-- A walk without a next node has none that waits. -/
theorem pending_of_next?_eq_none (h : d.next? = none) : d.pending = [] := by
  rw [next?, Option.map_eq_none_iff, Array.back?_eq_none_iff] at h
  rw [pending, h]
  rfl

/-- The number of nodes that the walk still comes to. -/
def size (d : Descent) : Nat := (d.pending.flatMap (·.tree.preorder)).length

/-- A step comes to one node. -/
theorem size_lt_of_next? (h : d.next? = some (n, d')) : d'.size < d.size := by
  obtain ⟨rest, hpending, hpending'⟩ := pending_of_next? h
  obtain ⟨⟨label, children⟩, above⟩ := n
  rw [size, size, hpending, hpending', List.flatMap_append, List.flatMap_cons, Node.children,
    List.flatMap_map, RoseTree.preorder, RoseTree.preorderAll_eq_flatMap, List.cons_append]
  exact Nat.lt_succ_self _

/-- A node that is dropped is one node fewer to come to, at least. -/
theorem size_skipNext_lt (h : d.next? = some (n, d')) : d.skipNext.size < d.size := by
  obtain ⟨rest, hpending, -⟩ := pending_of_next? h
  have hpos : 0 < n.tree.preorder.length := by
    obtain ⟨⟨label, children⟩, above⟩ := n
    simp [RoseTree.preorder]
  rw [size, size, pending_skipNext, hpending, List.tail_cons, List.flatMap_cons,
    List.length_append]
  omega

/-- Every node that the walk still comes to, in turn. -/
def toList (d : Descent) : List Node :=
  match _h : d.next? with
  | none => []
  | some (n, d') => n :: d'.toList
termination_by d.size
decreasing_by exact size_lt_of_next? ‹_›

/-- The nodes that the walk still comes to when it drops those of the kinds skipped, each with all
that is below it. -/
def walk (skip : NodeKind → Bool) (d : Descent) : List Node :=
  match _h : d.next? with
  | none => []
  | some (n, d') => if skip n.kind then d.skipNext.walk skip else n :: d'.walk skip
termination_by d.size
decreasing_by
  · exact size_skipNext_lt ‹_›
  · exact size_lt_of_next? ‹_›

end Descent

end KotestOutline
