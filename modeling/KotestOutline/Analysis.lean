import KotestOutline.Gradle
import KotestOutline.Json
import KotestOutline.Recognition

/-!
# Analyses

What is recognized in a file, what stands at a line of it, and both in data.
-/

namespace KotestOutline

/-!
## Analyses

What is recognized in a file, and the look-up of a line: the innermost spec and test are those whose
span has the fewest lines, the first of them where several have.
-/

/-- The first element with the least key. -/
def firstMinBy? {α : Type} (key : α → Nat) : List α → Option α
  | [] => none
  | x :: xs =>
    match firstMinBy? key xs with
    | none => some x
    | some y => if key x ≤ key y then some x else some y

/-- What is recognized in one spec. -/
structure SpecAnalysis where
  name : String
  fqName : String
  style : SpecStyle
  styleName : String
  confidence : Confidence
  span : Span
  tests : List RecognizedTest
  callbacks : List Callback
  deriving DecidableEq

namespace SpecAnalysis

/-- The analysis of a class that is a spec. -/
def ofClass (c : Classifier) (n : Node) (classification : Classification) : SpecAnalysis :=
  let style := classification.style
  ⟨(className? n).getD "", (classFqName? n).getD "", style, style.styleName,
    classification.confidence, n.span, listTests style c.isSpecificationOf n, Callback.ofClass n⟩

/-- The innermost test or container at a line. -/
def testAtLine? (s : SpecAnalysis) (line : UInt32) : Option RecognizedTest :=
  firstMinBy? (·.span.lineCount) (s.tests.filter (·.span.containsLine line))

end SpecAnalysis

/-- What is recognized in one file. -/
structure FileAnalysis where
  /-- The path of the file, none for a text without one. -/
  file : Option String
  specs : List SpecAnalysis
  deriving DecidableEq

namespace FileAnalysis

/-- The analysis of a tree. -/
def ofTree (c : Classifier) (t : SyntaxTree) : FileAnalysis :=
  ⟨none, (listSpecifications c (.ofTree t)).map fun (n, classification) =>
    SpecAnalysis.ofClass c n classification⟩

/-- The innermost spec at a line. -/
def specAtLine? (a : FileAnalysis) (line : UInt32) : Option SpecAnalysis :=
  firstMinBy? (·.span.lineCount) (a.specs.filter (·.span.containsLine line))

/-- The innermost test or container of the innermost spec at a line. -/
def testAtLine? (a : FileAnalysis) (line : UInt32) : Option RecognizedTest :=
  (a.specAtLine? line).bind (·.testAtLine? line)

/-- The test at a line, or the whole spec where there is none. -/
def targetAtLine? (a : FileAnalysis) (line : UInt32) : Option TestTarget :=
  (a.specAtLine? line).map fun s =>
    ⟨s.fqName, (s.testAtLine? line).map RecognizedTest.path⟩

/-- The number of tests and containers in all specs. -/
def testCount (a : FileAnalysis) : Nat := (a.specs.flatMap SpecAnalysis.tests).length

end FileAnalysis

/-!
## Analyses in data

The JSON form of an analysis, written and read. Anchors are no part of it: they mean nothing outside
the tree they come from, and are 0 after reading.
-/

namespace Position

def toJson (p : Position) : Json :=
  .record [("line", .nat p.line.toNat), ("character", .nat p.character.toNat)]

def ofJson? (v : Json) : Option Position := do
  let [line, character] ← v.fields? ["line", "character"] | none
  return ⟨← line.required Json.toUInt32?, ← character.required Json.toUInt32?⟩

end Position

namespace Span

def toJson (s : Span) : Json := .record [("start", s.start.toJson), ("end", s.stop.toJson)]

def ofJson? (v : Json) : Option Span := do
  let [start, stop] ← v.fields? ["start", "end"] | none
  return ⟨← start.required Position.ofJson?, ← stop.required Position.ofJson?⟩

end Span

namespace RecognizedTest

/-- The names of the fields in data. -/
def fieldNames : List String := ["name", "path", "containers", "kind", "span"]

/-- The test in data, without its containers where it has none. -/
def toJson (t : RecognizedTest) : Json :=
  .record <|
    [("name", .str t.name), ("path", .str t.path)] ++
      (if t.containers.isEmpty then [] else [("containers", .arrayOf .str t.containers)]) ++
      [("kind", .str t.kind.name), ("span", t.span.toJson)]

def ofJson? (v : Json) : Option RecognizedTest := do
  let [name, path, containers, kind, span] ← v.fields? fieldNames | none
  return ⟨← name.required Json.toText?, ← path.required Json.toText?,
    ← containers.defaulted [] (Json.toList? Json.toText?),
    ← kind.required (Json.toNamed? TestKind.all TestKind.name), 0,
    ← span.required Span.ofJson?⟩

end RecognizedTest

namespace Callback

def toJson (c : Callback) : Json := .record [("kind", .str c.kind.name), ("span", c.span.toJson)]

def ofJson? (v : Json) : Option Callback := do
  let [kind, span] ← v.fields? ["kind", "span"] | none
  return ⟨← kind.required (Json.toNamed? CallbackKind.all CallbackKind.name), 0,
    ← span.required Span.ofJson?⟩

end Callback

namespace SpecAnalysis

/-- The names of the fields in data. -/
def fieldNames : List String :=
  ["name", "fq_name", "style", "style_name", "confidence", "span", "tests", "callbacks"]

def toJson (s : SpecAnalysis) : Json :=
  .record [("name", .str s.name), ("fq_name", .str s.fqName), ("style", .str s.style.name),
    ("style_name", .str s.styleName), ("confidence", .str s.confidence.name),
    ("span", s.span.toJson), ("tests", .arrayOf RecognizedTest.toJson s.tests),
    ("callbacks", .arrayOf Callback.toJson s.callbacks)]

def ofJson? (v : Json) : Option SpecAnalysis := do
  let [name, fqName, style, styleName, confidence, span, tests, callbacks] ←
    v.fields? fieldNames | none
  return ⟨← name.required Json.toText?, ← fqName.required Json.toText?,
    ← style.required (Json.toNamed? SpecStyle.all SpecStyle.name),
    ← styleName.required Json.toText?,
    ← confidence.required (Json.toNamed? Confidence.all Confidence.name),
    ← span.required Span.ofJson?, ← tests.required (Json.toList? RecognizedTest.ofJson?),
    ← callbacks.required (Json.toList? Callback.ofJson?)⟩

end SpecAnalysis

namespace FileAnalysis

/-- The analysis in data, without the file where there is none. -/
def toJson (a : FileAnalysis) : Json :=
  .record <|
    (a.file.map (("file", Json.str ·))).toList ++
      [("specs", .arrayOf SpecAnalysis.toJson a.specs)]

def ofJson? (v : Json) : Option FileAnalysis := do
  let [file, specs] ← v.fields? ["file", "specs"] | none
  return ⟨← file.optional Json.toText?, ← specs.required (Json.toList? SpecAnalysis.ofJson?)⟩

end FileAnalysis

end KotestOutline
