import KotestOutline.Json
import KotestOutline.RoseTree
import KotestOutline.Text

/-!
# Concrete trees

The tree that a grammar makes of a file, and its form in data.
-/

namespace KotestOutline

/-!
## Concrete trees

The tree that a Kotlin grammar makes of a source file: one row per grammar node, with the name of
its kind, three flags and the range of its text. Anonymous rows are the tokens; a missing row is a
token the parser invented, an error row holds text it could not place.

Grammars differ in how they name the same construct, so kinds are compared through the lists of
`KindNames` and, for the constructs with a rule of their own, through `Role`.
-/

/-- One node of a concrete tree, without its children. -/
structure Row where
  /-- The grammar's name of the construct, or the text of an anonymous token. -/
  kind : String
  named : Bool
  missing : Bool
  error : Bool
  /-- Byte offset of the first character. -/
  start : UInt32
  /-- Byte offset just after the last character. -/
  stop : UInt32

/-- A concrete tree. -/
abbrev Cst := RoseTree Row

namespace Source

/-- The text of a row, empty when its range cuts a character. -/
def rowText (src : Source) (row : Row) : List Char :=
  (src.slice row.start.toNat row.stop.toNat).getD []

/-- The range of a row as positions. -/
def rowSpan (src : Source) (row : Row) : Span :=
  ⟨src.position row.start.toNat, src.position row.stop.toNat⟩

end Source

/-! ### Kind names -/

namespace KindNames

/-- Names of identifier rows. -/
def identifiers : List String := ["identifier", "simple_identifier", "type_identifier"]

/-- Wrappers whose children stand for themselves. -/
def wrappers : List String :=
  ["statements", "statement", "call_suffix", "class_member_declarations", "import_list",
    "source_file"]

/-- Comments, and the shebang line, which is one to the compiler. -/
def comments : List String :=
  ["comment", "line_comment", "multiline_comment", "block_comment", "shebang_line"]

/-- Names of string literal rows. -/
def strings : List String :=
  ["string_literal", "line_string_literal", "multi_line_string_literal",
    "multiline_string_literal"]

end KindNames

namespace Row

/-- Whether the row is an identifier by its kind. -/
def isIdentifier (row : Row) : Bool := KindNames.identifiers.contains row.kind

/-- Whether the row is a comment by its kind. -/
def isComment (row : Row) : Bool := KindNames.comments.contains row.kind

/-- Whether the row is an escape sequence by its kind. -/
def isEscape (row : Row) : Bool := hasInfix "escape".toList row.kind.toList

/-- Whether the row is plain string content by its kind. -/
def isContent (row : Row) : Bool :=
  hasInfix "content".toList row.kind.toList || "text".toList.isSuffixOf row.kind.toList

end Row

/-! ### Roles -/

/-- What a named row is to the lowering. -/
inductive Role where
  /-- Stands for its children. -/
  | wrapper
  | packageHeader
  | importHeader
  | classDeclaration
  | objectDeclaration
  | classBody
  | initializer
  | block
  | call
  | navigation
  | arguments
  | argument
  /-- A lambda in the place of a trailing argument. -/
  | lambdaArgument
  | lambda
  | string
  | identifier
  | other
  deriving DecidableEq

/-- The role of a kind of row. -/
def Role.ofKind (kind : String) : Role :=
  if KindNames.wrappers.contains kind then .wrapper
  else if kind == "package_header" then .packageHeader
  else if kind == "import" || kind == "import_header" then .importHeader
  else if kind == "class_declaration" then .classDeclaration
  else if kind == "object_declaration" then .objectDeclaration
  else if kind == "class_body" || kind == "enum_class_body" then .classBody
  else if kind == "anonymous_initializer" then .initializer
  else if kind == "block" then .block
  else if kind == "call_expression" then .call
  else if kind == "navigation_expression" then .navigation
  else if kind == "value_arguments" then .arguments
  else if kind == "value_argument" then .argument
  else if kind == "annotated_lambda" then .lambdaArgument
  else if kind == "lambda_literal" then .lambda
  else if KindNames.strings.contains kind then .string
  else if KindNames.identifiers.contains kind then .identifier
  else .other

/-!
## Concrete trees in data

A concrete tree is exchanged as the list of its rows in pre-order. A row is an array of the number
of its parent, its kind, its flags, and the two offsets of its text. The flags are bits: 1 for
named, 2 for missing, 4 for error. The first row is the top, and its parent is not read.
-/

namespace Row

/-- A row and the number of its parent. The parent of the top row may be negative. -/
def ofJson? : Json → Option (Nat × Row)
  | .array [.integer parent, .string (some kind), .integer flags, start, stop] => do
    let bits := flags.toNat
    return (parent.toNat, ⟨kind, bits % 2 == 1, bits / 2 % 2 == 1, bits / 4 % 2 == 1,
      ← start.toUInt32?, ← stop.toUInt32?⟩)
  | _ => none

end Row

namespace Cst

/-- The tree of a list of rows. -/
def ofJson? (v : Json) : Option Cst := do
  let (_, top) :: rows ← Json.toList? Row.ofJson? v | none
  return RoseTree.ofRows top rows

end Cst

end KotestOutline
