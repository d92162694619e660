import KotestOutline.Concrete
import KotestOutline.Syntax

/-!
# Lowering

From the concrete tree of a Kotlin file to the syntax tree the recognizers read: sketches of nodes,
how they get their numbers, and the sketches that each row lowers to.
-/

namespace KotestOutline

/-!
## Sketches and their numbering

A sketch is a syntax tree whose nodes are not numbered yet. `Sketch.number` numbers it in
pre-order, with one exception: a child list keeps at most one supertype list. Further ones are
sketched where the source has them; their entries get the numbers of that place and become the last
children of the first supertype list.

`Arena.ofSketch` adds the nodes of a sketch to an arena, one call after the other. It remembers the
first supertype list of a child list and adds the entries of further ones below it.
-/

/-- A tree of contents, the nodes not yet numbered. -/
abbrev Sketch := RoseTree Content

namespace Sketch

/-- A leaf with its own text. -/
def leaf (kind : NodeKind) (text : List Char) (span : Span) : Sketch :=
  .node ⟨kind, some (String.ofList text), span⟩ []

/-- A composite node. -/
def composite (kind : NodeKind) (span : Span) (children : List Sketch) : Sketch :=
  .node ⟨kind, none, span⟩ children

/-- What numbering a child list yields. -/
structure Numbered where
  /-- The numbered children. -/
  children : List SyntaxTree
  /-- Entries of supertype lists after the first, which belong to that one. -/
  entries : List SyntaxTree
  /-- The first number not used. -/
  next : Nat

mutual
/-- Numbers a sketch from `next` on; the second value is the first number not used. -/
def numberFrom (next : Nat) : RoseTree Content → SyntaxTree × Nat
  | .node content children =>
    let below := numberAll (next + 1) false children
    (.node ⟨content, next⟩ below.children, below.next)

/-- Numbers a child list from `next` on. `listed` tells whether a supertype list precedes it. -/
def numberAll (next : Nat) (listed : Bool) : List (RoseTree Content) → Numbered
  | [] => ⟨[], [], next⟩
  | .node content children :: rest =>
    if content.kind = .superTypeList then
      if listed then
        let here := numberAll next false children
        let later := numberAll here.next true rest
        ⟨later.children, here.children ++ later.entries, later.next⟩
      else
        let here := numberAll (next + 1) false children
        let later := numberAll here.next true rest
        ⟨.node ⟨content, next⟩ (here.children ++ later.entries) :: later.children, [], later.next⟩
    else
      let here := numberFrom next (.node content children)
      let later := numberAll here.2 listed rest
      ⟨here.1 :: later.children, later.entries, later.next⟩
end

/-- The numbered tree of a sketch, its root numbered 0. -/
def number (s : Sketch) : SyntaxTree := (numberFrom 0 s).1

end Sketch

/-! ### Node by node -/

namespace Arena

mutual
/-- Adds the nodes of a sketch, its root as the last child of `parent`. -/
def addSketch (a : Arena) (parent : Nat) : RoseTree Content → Arena
  | .node content children => addSketches (a.addContent parent content) a.size none children

/-- Adds the nodes of a child list below `parent`. `list?` is the supertype list that precedes
them, if one does: the entries of a further one are added below it. -/
def addSketches (a : Arena) (parent : Nat) (list? : Option Nat) : List (RoseTree Content) → Arena
  | [] => a
  | .node content children :: rest =>
    if content.kind = .superTypeList then
      match list? with
      | some list => addSketches (addSketches a list none children) parent (some list) rest
      | none =>
        let entered := addSketches (a.addContent parent content) a.size none children
        addSketches entered parent (some a.size) rest
    else addSketches (addSketch a parent (.node content children)) parent list? rest
end

/-- The arena whose calls add the nodes of a sketch, its root first. -/
def ofSketch : Sketch → Arena
  | .node content children => addSketches (new content.kind content.span) 0 none children

end Arena

/-!
## Parts

A part is a concrete tree whose rows carry the sketches they lower to. The rules for the constructs
with a shape of their own read parts: which rows make up a call, where a dotted access has its dot
and its selector, and which type a supertype names.
-/

/-- A concrete tree with the lowering of each of its rows. -/
abbrev Part := RoseTree (Row × List Sketch)

namespace Part

/-- The row of a part. -/
def row (p : Part) : Row := p.label.1

/-- What the part lowers to. -/
def sketches (p : Part) : List Sketch := p.label.2

def isNamed (p : Part) : Bool := p.row.named

/-- Whether the row of the part has this kind. -/
def isKind (p : Part) (kind : String) : Bool := p.row.kind == kind

/-- The children that are no tokens. -/
def namedChildren (p : Part) : List Part := p.children.filter isNamed

/-- What a list of parts lowers to, in order. -/
def sketchAll (ps : List Part) : List Sketch := ps.flatMap sketches

/-! ### Search among named rows -/

mutual
/-- The first part of a kind among the named rows below: any child before anything deeper. -/
def findBelow? (kind : String) : RoseTree (Row × List Sketch) → Option Part
  | .node _ children =>
    ((children.filter isNamed).find? (isKind · kind)).or (findDeeper? kind children)

/-- The first part of a kind below one of the named rows of a list. -/
def findDeeper? (kind : String) : List (RoseTree (Row × List Sketch)) → Option Part
  | [] => none
  | p :: ps => ((if isNamed p then findBelow? kind p else none)).or (findDeeper? kind ps)
end

mutual
/-- The texts of the identifiers among the named rows below, outside type arguments. -/
def identifiersBelow (src : Source) : RoseTree (Row × List Sketch) → List (List Char)
  | .node _ children => identifiersAmong src children

/-- The texts of the identifiers that a list of rows holds. -/
def identifiersAmong (src : Source) : List (RoseTree (Row × List Sketch)) → List (List Char)
  | [] => []
  | p :: ps =>
    let later := identifiersAmong src ps
    if !isNamed p || isKind p "type_arguments" || isKind p "type_projection" then later
    else if (row p).isIdentifier then src.rowText (row p) :: later
    else identifiersBelow src p ++ later
end

/-- The dotted name of a user type, without type arguments. -/
def typeName (src : Source) (p : Part) : List Char :=
  List.intercalate ['.'] (identifiersBelow src p)

/-! ### Dotted access -/

/-- Whether a part is the token `.`. -/
def isDotToken (src : Source) (p : Part) : Bool :=
  !p.isNamed && src.rowText p.row == ['.']

/-- The dot between receiver and selector, which may stand inside a navigation suffix. -/
def dotToken? (src : Source) (children : List Part) : Option Part :=
  children.findSome? fun p =>
    if isDotToken src p then some p
    else if p.isKind "navigation_suffix" then p.children.find? (isDotToken src)
    else none

/-- The identifier that a navigation selects, which may stand inside a navigation suffix. -/
def selector? (children : List Part) : Option Part := do
  let _ :: more := children.filter isNamed | none
  let last ← more.getLast?
  let name ← if last.isKind "navigation_suffix" then last.namedChildren.getLast? else some last
  if name.row.isIdentifier then some name else none

/-! ### Calls -/

/-- The children of a call with its suffixes replaced by what they hold. -/
def unwrapSuffixes (children : List Part) : List Part :=
  children.flatMap fun p => if p.isKind "call_suffix" then p.children else [p]

/-- Whether a call and what follows it as a callee may be one call: only trailing lambdas follow,
and something does. -/
def mayExtend (callee : Part) (rest : List Part) : Bool :=
  callee.isKind "call_expression" && !rest.isEmpty &&
    rest.all fun p => !p.isNamed || p.isKind "annotated_lambda"

/-- Whether the parts of a callee are a call with arguments that waits for its trailing lambda. -/
def awaitsLambda (parts : List Part) : Bool :=
  parts.any (·.isKind "value_arguments") && !parts.any (·.isKind "annotated_lambda")

mutual
/-- The parts of a call in order. A callee that is itself a call with arguments, followed only by
trailing lambdas, is one call with them, so its parts stand in its place. -/
def callParts : RoseTree (Row × List Sketch) → List Part
  | .node _ children =>
    let parts := unwrapSuffixes children
    let front := parts.takeWhile (!isNamed ·)
    match parts.drop front.length with
    | [] => parts
    | callee :: rest =>
      if mayExtend callee rest then
        let inner := calleeParts children
        if awaitsLambda inner then front ++ inner ++ rest else parts
      else parts

/-- The call parts of the first named row among the children of a call. -/
def calleeParts : List (RoseTree (Row × List Sketch)) → List Part
  | [] => []
  | .node label inner :: rest =>
    if label.1.kind == "call_suffix" then
      if inner.any isNamed then suffixCalleeParts inner else calleeParts rest
    else if label.1.named then callParts (.node label inner)
    else calleeParts rest

/-- The call parts of the first named row of a call suffix. -/
def suffixCalleeParts : List (RoseTree (Row × List Sketch)) → List Part
  | [] => []
  | p :: rest => if isNamed p then callParts p else suffixCalleeParts rest
end

end Part

/-!
## String content

How the rows of a string literal become the entries of a string template: quotes, literal text,
escape sequences and interpolations.

Grammars leave short interpolations, a dollar sign and a name, inside plain content. `pieces` cuts
them out: a dollar sign that no backslash precedes starts one when a letter, an underscore, a
backquote or an opening brace follows.
-/

/-! ### Pieces of plain content -/

/-- A stretch of plain content. -/
inductive Piece where
  | literal (text : List Char)
  | template (text : List Char)

namespace Piece

/-- The characters of a piece. -/
def text : Piece → List Char
  | literal text | template text => text

end Piece

/-- Whether a dollar sign before this character starts an interpolation. -/
def startsTemplate (c : Char) : Bool :=
  isAlphabetic c || c == '_' || c == '\x60' || c == '\x7b'

/-- Whether a character continues the name of an interpolation. -/
def continuesTemplate (c : Char) : Bool :=
  isAlphanumeric c || c == '_' || c == '\x60'

/-- Puts a character in front of the pieces, as literal text. -/
def consLiteral (c : Char) : List Piece → List Piece
  | .literal text :: ps => .literal (c :: text) :: ps
  | ps => .literal [c] :: ps

/-- The pieces of a run of content. `after` is the character behind the run, `skip` how many of the
characters belong to the interpolation before them, and `escaped` whether a backslash precedes. -/
def pieces (after : Option Char) : Nat → Bool → List Char → List Piece
  | _, _, [] => []
  | skip + 1, _, _ :: cs => pieces after skip false cs
  | 0, escaped, c :: cs =>
    if c == '$' && !escaped && (cs.head?.or after).any startsTemplate then
      let name := cs.takeWhile continuesTemplate
      .template (c :: name) :: pieces after name.length false cs
    else consLiteral c (pieces after 0 (c == '\\') cs)

/-! ### Rows -/

namespace Part

/-- The leaves of the text from `start` to `stop`, each with the span of the content row. -/
def runLeaves (src : Source) (span : Span) (start stop : Nat) : List Sketch :=
  if start < stop then
    match src.slice start stop with
    | none => []
    | some text =>
      let after := (src.sliceFrom stop).bind List.head?
      (pieces after 0 false text).map fun
        | .literal text => .leaf .literalStringEntry text span
        | .template text => .leaf .templateEntry text span
  else []

/-- The leaves of a content row from offset `position` on, given the escape rows in it. -/
def contentLeaves (src : Source) (span : Span) (stop : Nat) : Nat → List Part → List Sketch
  | position, [] => runLeaves src span position stop
  | position, escape :: rest =>
    runLeaves src span position escape.row.start.toNat ++
      .leaf .escapeStringEntry (src.rowText escape.row) (src.rowSpan escape.row) ::
      contentLeaves src span stop escape.row.stop.toNat rest

/-- The entries of one child of a string literal. The first token is the opening quote and the
last one the closing quote; a token between them belongs to an interpolation. -/
def stringEntries (src : Source) (isFirst isLast : Bool) (p : Part) : List Sketch :=
  let span := src.rowSpan p.row
  let text := src.rowText p.row
  if p.row.missing then [.leaf .missing [] span]
  else if !p.isNamed then
    if text.head? == some '"' && isFirst then [.leaf .openQuote text span]
    else if text.head? == some '"' && isLast then [.leaf .closingQuote text span]
    else [.leaf .templateEntry text span]
  else if p.row.isEscape then [.leaf .escapeStringEntry text span]
  else if p.row.isContent then
    contentLeaves src span p.row.stop.toNat p.row.start.toNat
      (p.namedChildren.filter (·.row.isEscape))
  else [.composite .templateEntry span (sketchAll p.children)]

/-- The entries of the children of a string literal. -/
def stringEntriesAll (src : Source) (isFirst : Bool) : List Part → List Sketch
  | [] => []
  | p :: ps => stringEntries src isFirst ps.isEmpty p ++ stringEntriesAll src false ps

end Part

/-!
## Lowering

From the concrete tree of a Kotlin file to the syntax tree the recognizers read. A row lowers to
any number of nodes: none for a comment, one for most constructs, those of its children for a
wrapper.

* A call written as a call of a call is one call expression.
* A call of a dotted access is a dotted expression whose selector is the call.
* The supertypes of a class are leaves under one supertype list, with the constructor arguments of
  each kept beside its name.
* The body of an initializer is a block, also where the grammar has none.
* A missing token is a leaf without text, and an error row a node over what it holds.
-/

namespace Part

/-! ### Leaves -/

/-- The leaf of a token. -/
def tokenLeaf (src : Source) (row : Row) : Sketch :=
  let text := src.rowText row
  .leaf (if text = ['.'] then .dot else .punctuation) text (src.rowSpan row)

/-- The reference that an identifier makes. -/
def nameReference (src : Source) (row : Row) : Sketch :=
  .composite .nameReference (src.rowSpan row)
    [.leaf .identifier (src.rowText row) (src.rowSpan row)]

/-- The name in a package header, read off its identifier or else off its text. -/
def packageName (src : Source) (row : Row) (children : List Part) : List Char :=
  let name := (children.filter isNamed).find? fun p =>
    p.isKind "qualified_identifier" || p.isKind "identifier"
  withoutBlanks <| match name with
    | some p => src.rowText p.row
    | none => dropAllFront "package".toList (dropBlanks (src.rowText row))

/-- The path of an import, without keyword, alias, semicolons and blanks. -/
def importPath (src : Source) (row : Row) : List Char :=
  let text := dropAllFront "import".toList (dropBlanks (src.rowText row))
  withoutBlanks (dropEndWhile (· == ';') (beforeFirst " as ".toList text))

/-! ### Classes -/

/-- The entry of a supertype: its dotted name and, for a constructor call, the arguments, which may
hold the body of a spec. There is none without a user type. -/
def superTypeEntry (src : Source) (p : Part) : List Sketch :=
  let call := findBelow? "constructor_invocation" p
  let kind := if call.isSome then .superTypeCallEntry else .superTypeEntry
  match findBelow? "user_type" (call.getD p) with
  | none => []
  | some type =>
    let arguments := call.bind (findBelow? "value_arguments")
    [.composite kind (src.rowSpan p.row)
      (.leaf .typeReference (typeName src type) (src.rowSpan type.row) ::
        (arguments.map sketches).getD [])]

/-- The supertype list of one row that holds supertypes, if it holds any. -/
def superTypeList (src : Source) (row : Row) (supertypes : List Part) : List Sketch :=
  if supertypes.isEmpty then []
  else [.composite .superTypeList (src.rowSpan row) (supertypes.flatMap (superTypeEntry src))]

/-- The nodes of one child of a class. -/
def classMember (src : Source) (p : Part) : List Sketch :=
  if p.isNamed && p.row.isIdentifier then
    [.leaf .identifier (src.rowText p.row) (src.rowSpan p.row)]
  else if p.isKind "delegation_specifiers" then
    superTypeList src p.row (p.namedChildren.filter (·.isKind "delegation_specifier"))
  else if p.isKind "delegation_specifier" then superTypeList src p.row [p]
  else p.sketches

/-- The children of an initializer: its body as a block. -/
def initializerBody (span : Span) (children : List Part) : List Sketch :=
  if children.any fun p => p.isNamed && p.isKind "block" then sketchAll children
  else [.composite .blockExpression span (sketchAll children)]

/-! ### Calls -/

/-- Receiver and dot of a dotted access. -/
def receiverAndDot (src : Source) (children : List Part) : List Sketch :=
  (((children.filter isNamed).head?.map sketches).getD []) ++
    ((dotToken? src children).map fun dot => .leaf .dot ['.'] (src.rowSpan dot.row)).toList

/-- A call from its parts. A dotted callee gives a dotted expression, in which the call begins at
the selector. -/
def callNode (src : Source) (row : Row) (children : List Part) : Sketch :=
  let span := src.rowSpan row
  let parts := callParts (.node (row, []) children)
  match parts.dropWhile (!isNamed ·) with
  | [] => .composite .callExpression span (sketchAll children)
  | callee :: rest =>
    if callee.isKind "navigation_expression" && (dotToken? src callee.children).isSome then
      let selector := (selector? callee.children).map Part.row
      let start := (selector.map (src.rowSpan · |>.start)).getD span.start
      .composite .dotQualifiedExpression span <|
        receiverAndDot src callee.children ++
          [.composite .callExpression ⟨start, span.stop⟩
            ((selector.map (nameReference src)).toList ++ sketchAll rest)]
    else .composite .callExpression span (sketchAll parts)

/-- A navigation: a dotted expression if there is a plain dot. -/
def navigationNode (src : Source) (row : Row) (children : List Part) : Sketch :=
  let span := src.rowSpan row
  if (dotToken? src children).isSome then
    .composite .dotQualifiedExpression span <|
      receiverAndDot src children ++
        ((selector? children).map (nameReference src ·.row)).toList
  else .composite .other span (sketchAll children)

/-! ### Rows -/

/-- The nodes of a named row that is neither missing, nor an error, nor a comment. -/
def constructNodes (src : Source) (row : Row) (children : List Part) : List Sketch :=
  let span := src.rowSpan row
  let plain (kind : NodeKind) : List Sketch := [.composite kind span (sketchAll children)]
  match Role.ofKind row.kind with
  | .wrapper => sketchAll children
  | .packageHeader => [.leaf .packageHeader (packageName src row children) span]
  | .importHeader => [.leaf .importDirective (importPath src row) span]
  | .classDeclaration => [.composite .classDeclaration span (children.flatMap (classMember src))]
  | .objectDeclaration => [.composite .objectDeclaration span (children.flatMap (classMember src))]
  | .classBody => plain .classBody
  | .initializer => [.composite .classInitializer span (initializerBody span children)]
  | .block => plain .blockExpression
  | .call => [callNode src row children]
  | .navigation => [navigationNode src row children]
  | .arguments => plain .valueArgumentList
  | .argument => plain .valueArgument
  | .lambdaArgument => plain .lambdaArgument
  | .lambda => plain .lambdaExpression
  | .string => [.composite .stringTemplate span (stringEntriesAll src true children)]
  | .identifier => [nameReference src row]
  | .other => plain .other

/-- The nodes a row lowers to, given the lowered rows below it. -/
def rowNodes (src : Source) (row : Row) (children : List Part) : List Sketch :=
  if row.missing then [.leaf .missing [] (src.rowSpan row)]
  else if row.error then [.composite .error (src.rowSpan row) (sketchAll children)]
  else if row.isComment then []
  else if !row.named then [tokenLeaf src row]
  else constructNodes src row children

end Part

/-! ### Files -/

/-- The parts of a concrete tree. -/
def Cst.toPart (src : Source) (t : Cst) : Part :=
  t.annotate (Part.rowNodes src)

/-- The sketch of a file: a file node over what the children of the top row lower to. -/
def Cst.toSketch (src : Source) (t : Cst) : Sketch :=
  .composite .file (src.rowSpan t.label) (Part.sketchAll (Cst.toPart src t).children)

/-- The syntax tree of a file. -/
def Cst.lower (src : Source) (t : Cst) : SyntaxTree :=
  (Cst.toSketch src t).number

end KotestOutline
