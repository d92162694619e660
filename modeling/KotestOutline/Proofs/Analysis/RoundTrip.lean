import KotestOutline.Analysis
import KotestOutline.Json
import KotestOutline.Proofs.Json.Record

/-!
# Analyses read back

An analysis that is written and read again has lost the numbers of its nodes, which mean nothing
outside their tree, and nothing else: a test without containers and an analysis without a file leave
a field out, and the reader puts the same value back. What is looked up at a line does not depend on
the numbers.

* `FileAnalysis.withoutAnchors`: the analysis that is left.
* `FileAnalysis.ofJson?_toJson`: it is what a reader makes of the data.
* `FileAnalysis.specAtLine?_withoutAnchors` and its like: how it answers at a line.
* `FileAnalysis.ofJson?_roundTrip`: all of this, through a value or through text.
-/

namespace KotestOutline

open Json (present)

/-! ### What is left -/

/-- The test without the number of its node. -/
def RecognizedTest.withoutAnchor (t : RecognizedTest) : RecognizedTest := { t with anchor := 0 }

/-- The hook without the number of its node. -/
def Callback.withoutAnchor (c : Callback) : Callback := { c with anchor := 0 }

/-- The spec without the numbers of its nodes. -/
def SpecAnalysis.withoutAnchors (s : SpecAnalysis) : SpecAnalysis :=
  { s with
    tests := s.tests.map RecognizedTest.withoutAnchor
    callbacks := s.callbacks.map Callback.withoutAnchor }

/-- The analysis without the numbers of its nodes. -/
def FileAnalysis.withoutAnchors (a : FileAnalysis) : FileAnalysis :=
  { a with specs := a.specs.map SpecAnalysis.withoutAnchors }

/-! ### Named values -/

/-- Kinds of tests have different names, so a name is read as the kind that has it. -/
theorem TestKind.toNamed?_name (kind : TestKind) :
    Json.toNamed? TestKind.all TestKind.name (.str kind.name) = some kind :=
  Json.toNamed?_name (by simp [all, name]) (by cases kind <;> simp [all])

/-- Kinds of hooks are told apart by their names too. -/
theorem CallbackKind.toNamed?_name (kind : CallbackKind) :
    Json.toNamed? CallbackKind.all CallbackKind.name (.str kind.name) = some kind :=
  Json.toNamed?_name (by simp [all, name]) (by cases kind <;> simp [all])

/-- So are styles. -/
theorem SpecStyle.toNamed?_name (style : SpecStyle) :
    Json.toNamed? SpecStyle.all SpecStyle.name (.str style.name) = some style :=
  Json.toNamed?_name (by simp [all, name]) (by cases style <;> simp [all])

/-- So are the tiers of a classification. -/
theorem Confidence.toNamed?_name (confidence : Confidence) :
    Json.toNamed? Confidence.all Confidence.name (.str confidence.name) = some confidence :=
  Json.toNamed?_name (by simp [all, name]) (by cases confidence <;> simp [all])

/-! ### Places -/

namespace Position

/-- The fields of a position as they are written. -/
def fields (p : Position) : List (String × Option Json) :=
  [("line", some (.nat p.line.toNat)), ("character", some (.nat p.character.toNat))]

/-- Both coordinates of a position are written. -/
theorem fields?_toJson (p : Position) :
    p.toJson.fields? ["line", "character"] = some (p.fields.map fun field => .written field.2) :=
  Json.fields?_record p.fields (by simp [fields])

/-- Two coordinates in the width of a machine word make a position. -/
theorem ofJson?_of_fields {v : Json} {l c : Json.Field} {line character : UInt32}
    (hfields : v.fields? ["line", "character"] = some [l, c])
    (hline : l.required Json.toUInt32? = some line)
    (hcharacter : c.required Json.toUInt32? = some character) :
    ofJson? v = some ⟨line, character⟩ := by
  simp [ofJson?, hfields, hline, hcharacter]

/-- A position is read as it was written. -/
theorem ofJson?_toJson (p : Position) : ofJson? p.toJson = some p := by
  apply ofJson?_of_fields p.fields?_toJson
  · simp [Json.toUInt32?_nat]
  · simp [Json.toUInt32?_nat]

/-- A position has whole numbers only. -/
theorem isExact_toJson (p : Position) : p.toJson.IsExact :=
  Json.IsExact.present (by simp [fields] : ∀ field ∈ p.fields, ∀ v ∈ field.2, v.IsExact)

end Position

namespace Span

/-- The fields of a span as they are written. -/
def fields (s : Span) : List (String × Option Json) :=
  [("start", some s.start.toJson), ("end", some s.stop.toJson)]

/-- Both ends of a span are written. -/
theorem fields?_toJson (s : Span) :
    s.toJson.fields? ["start", "end"] = some (s.fields.map fun field => .written field.2) :=
  Json.fields?_record s.fields (by simp [fields])

/-- Two positions make a span, also where the second one comes first. -/
theorem ofJson?_of_fields {v : Json} {a b : Json.Field} {start stop : Position}
    (hfields : v.fields? ["start", "end"] = some [a, b])
    (hstart : a.required Position.ofJson? = some start)
    (hstop : b.required Position.ofJson? = some stop) : ofJson? v = some ⟨start, stop⟩ := by
  simp [ofJson?, hfields, hstart, hstop]

/-- A span is read as it was written. -/
theorem ofJson?_toJson (s : Span) : ofJson? s.toJson = some s := by
  apply ofJson?_of_fields s.fields?_toJson
  · simp [Position.ofJson?_toJson]
  · simp [Position.ofJson?_toJson]

/-- A span has whole numbers only. -/
theorem isExact_toJson (s : Span) : s.toJson.IsExact :=
  Json.IsExact.present
    (by simp [fields, Position.isExact_toJson] : ∀ field ∈ s.fields, ∀ v ∈ field.2, v.IsExact)

end Span

/-! ### Tests and hooks -/

namespace RecognizedTest

/-- The fields of a test as they are written, the containers left out where there are none. -/
def fields (t : RecognizedTest) : List (String × Option Json) :=
  [("name", some (.str t.name)), ("path", some (.str t.path)),
    ("containers", if t.containers.isEmpty then none else some (.arrayOf .str t.containers)),
    ("kind", some (.str t.kind.name)), ("span", some t.span.toJson)]

/-- The containers of a test are left out where there are none; its anchor is never written. -/
theorem toJson_eq_record (t : RecognizedTest) : t.toJson = .record (present t.fields) := by
  rw [toJson, fields]
  by_cases h : t.containers.isEmpty <;> simp [h]

/-- A reader finds each field of a test as it was written. -/
theorem fields?_toJson (t : RecognizedTest) :
    t.toJson.fields? fieldNames = some (t.fields.map fun field => .written field.2) := by
  rw [toJson_eq_record]
  exact Json.fields?_record t.fields (by simp [fields])

/-- The fields of a test make a test without an anchor. -/
theorem ofJson?_of_fields {v : Json} {n p c k s : Json.Field} {name path : String}
    {containers : List String} {kind : TestKind} {span : Span}
    (hfields : v.fields? fieldNames = some [n, p, c, k, s])
    (hname : n.required Json.toText? = some name) (hpath : p.required Json.toText? = some path)
    (hcontainers : c.defaulted [] (Json.toList? Json.toText?) = some containers)
    (hkind : k.required (Json.toNamed? TestKind.all TestKind.name) = some kind)
    (hspan : s.required Span.ofJson? = some span) :
    ofJson? v = some ⟨name, path, containers, kind, 0, span⟩ := by
  simp [ofJson?, hfields, hname, hpath, hcontainers, hkind, hspan]

/-- A test is read as it was written, but for its anchor. -/
theorem ofJson?_toJson (t : RecognizedTest) : ofJson? t.toJson = some t.withoutAnchor := by
  apply ofJson?_of_fields t.fields?_toJson
  · rfl
  · rfl
  · exact Json.Field.defaulted_listed t.containers
  · simp [TestKind.toNamed?_name]
  · simp [Span.ofJson?_toJson]

/-- A test has whole numbers only. -/
theorem isExact_toJson (t : RecognizedTest) : t.toJson.IsExact := by
  rw [toJson_eq_record]
  refine .present ?_
  simp [fields, Span.isExact_toJson, Json.IsExact.listed]

end RecognizedTest

namespace Callback

/-- The fields of a hook as they are written. -/
def fields (c : Callback) : List (String × Option Json) :=
  [("kind", some (.str c.kind.name)), ("span", some c.span.toJson)]

/-- Kind and span of a hook are written, its anchor is not. -/
theorem fields?_toJson (c : Callback) :
    c.toJson.fields? ["kind", "span"] = some (c.fields.map fun field => .written field.2) :=
  Json.fields?_record c.fields (by simp [fields])

/-- Kind and span make a hook without an anchor. -/
theorem ofJson?_of_fields {v : Json} {k s : Json.Field} {kind : CallbackKind} {span : Span}
    (hfields : v.fields? ["kind", "span"] = some [k, s])
    (hkind : k.required (Json.toNamed? CallbackKind.all CallbackKind.name) = some kind)
    (hspan : s.required Span.ofJson? = some span) : ofJson? v = some ⟨kind, 0, span⟩ := by
  simp [ofJson?, hfields, hkind, hspan]

/-- A hook is read as it was written, but for its anchor. -/
theorem ofJson?_toJson (c : Callback) : ofJson? c.toJson = some c.withoutAnchor := by
  apply ofJson?_of_fields c.fields?_toJson
  · simp [CallbackKind.toNamed?_name]
  · simp [Span.ofJson?_toJson]

/-- A hook has whole numbers only. -/
theorem isExact_toJson (c : Callback) : c.toJson.IsExact :=
  Json.IsExact.present
    (by simp [fields, Span.isExact_toJson] : ∀ field ∈ c.fields, ∀ v ∈ field.2, v.IsExact)

end Callback

/-! ### Specs and files -/

namespace SpecAnalysis

/-- The fields of a spec as they are written. -/
def fields (s : SpecAnalysis) : List (String × Option Json) :=
  [("name", some (.str s.name)), ("fq_name", some (.str s.fqName)),
    ("style", some (.str s.style.name)), ("style_name", some (.str s.styleName)),
    ("confidence", some (.str s.confidence.name)), ("span", some s.span.toJson),
    ("tests", some (.arrayOf RecognizedTest.toJson s.tests)),
    ("callbacks", some (.arrayOf Callback.toJson s.callbacks))]

/-- All fields of a spec are written. -/
theorem fields?_toJson (s : SpecAnalysis) :
    s.toJson.fields? fieldNames = some (s.fields.map fun field => .written field.2) :=
  Json.fields?_record s.fields (by simp [fields])

/-- The fields of a spec make the spec, if its tests and hooks can be read. -/
theorem ofJson?_of_fields {v : Json} {n q s m c p t b : Json.Field} {name fqName : String}
    {style : SpecStyle} {styleName : String} {confidence : Confidence} {span : Span}
    {tests : List RecognizedTest} {callbacks : List Callback}
    (hfields : v.fields? fieldNames = some [n, q, s, m, c, p, t, b])
    (hname : n.required Json.toText? = some name)
    (hfqName : q.required Json.toText? = some fqName)
    (hstyle : s.required (Json.toNamed? SpecStyle.all SpecStyle.name) = some style)
    (hstyleName : m.required Json.toText? = some styleName)
    (hconfidence :
      c.required (Json.toNamed? Confidence.all Confidence.name) = some confidence)
    (hspan : p.required Span.ofJson? = some span)
    (htests : t.required (Json.toList? RecognizedTest.ofJson?) = some tests)
    (hcallbacks : b.required (Json.toList? Callback.ofJson?) = some callbacks) :
    ofJson? v =
      some ⟨name, fqName, style, styleName, confidence, span, tests, callbacks⟩ := by
  simp [ofJson?, hfields, hname, hfqName, hstyle, hstyleName, hconfidence, hspan, htests,
    hcallbacks]

/-- A spec is read as it was written, but for the anchors inside it. -/
theorem ofJson?_toJson (s : SpecAnalysis) : ofJson? s.toJson = some s.withoutAnchors := by
  apply ofJson?_of_fields s.fields?_toJson
  · rfl
  · rfl
  · simp [SpecStyle.toNamed?_name]
  · rfl
  · simp [Confidence.toNamed?_name]
  · simp [Span.ofJson?_toJson]
  · simp [Json.toList?_arrayOf fun t _ => RecognizedTest.ofJson?_toJson t]
  · simp [Json.toList?_arrayOf fun c _ => Callback.ofJson?_toJson c]

/-- A spec has whole numbers only. -/
theorem isExact_toJson (s : SpecAnalysis) : s.toJson.IsExact := by
  have htests : (Json.arrayOf RecognizedTest.toJson s.tests).IsExact :=
    .arrayOf fun t _ => t.isExact_toJson
  have hcallbacks : (Json.arrayOf Callback.toJson s.callbacks).IsExact :=
    .arrayOf fun c _ => c.isExact_toJson
  exact Json.IsExact.present (by simp [fields, Span.isExact_toJson, htests, hcallbacks] :
    ∀ field ∈ s.fields, ∀ v ∈ field.2, v.IsExact)

end SpecAnalysis

namespace FileAnalysis

/-- The fields of an analysis as they are written, the file left out where there is none. -/
def fields (a : FileAnalysis) : List (String × Option Json) :=
  [("file", a.file.map .str), ("specs", some (.arrayOf SpecAnalysis.toJson a.specs))]

/-- The file of an analysis is left out where there is none. -/
theorem toJson_eq_record (a : FileAnalysis) : a.toJson = .record (present a.fields) := by
  rw [toJson, fields]
  cases a.file <;> rfl

/-- A reader finds both fields of an analysis as they were written. -/
theorem fields?_toJson (a : FileAnalysis) :
    a.toJson.fields? ["file", "specs"] = some (a.fields.map fun field => .written field.2) := by
  rw [toJson_eq_record]
  exact Json.fields?_record a.fields (by simp [fields])

/-- A file that may be missing and a list of specs make an analysis. -/
theorem ofJson?_of_fields {v : Json} {f s : Json.Field} {file : Option String}
    {specs : List SpecAnalysis} (hfields : v.fields? ["file", "specs"] = some [f, s])
    (hfile : f.optional Json.toText? = some file)
    (hspecs : s.required (Json.toList? SpecAnalysis.ofJson?) = some specs) :
    ofJson? v = some ⟨file, specs⟩ := by
  simp [ofJson?, hfields, hfile, hspecs]

/-- A reader accepts the data of every analysis, and makes of it the analysis without the numbers of
its nodes. -/
theorem ofJson?_toJson (a : FileAnalysis) : ofJson? a.toJson = some a.withoutAnchors := by
  apply ofJson?_of_fields a.fields?_toJson
  · exact Json.Field.optional_written rfl fun _ _ => by rfl
  · simp [Json.toList?_arrayOf fun s _ => SpecAnalysis.ofJson?_toJson s]

/-- An analysis has whole numbers only, so its texts can be read. -/
theorem isExact_toJson (a : FileAnalysis) : a.toJson.IsExact := by
  have hspecs : (Json.arrayOf SpecAnalysis.toJson a.specs).IsExact :=
    .arrayOf fun s _ => s.isExact_toJson
  rw [toJson_eq_record]
  refine .present ?_
  simp [fields, hspecs]

end FileAnalysis

/-! ### Looking up a line -/

/-- What is chosen among images is the image of what is chosen among the elements. -/
theorem firstMinBy?_map {α β : Type} (f : α → β) (key : β → Nat) (xs : List α) :
    firstMinBy? key (xs.map f) = (firstMinBy? (key ∘ f) xs).map f := by
  induction xs with
  | nil => rfl
  | cons x xs ih =>
    rw [List.map_cons, firstMinBy?, firstMinBy?, ih]
    cases firstMinBy? (key ∘ f) xs with
    | none => rfl
    | some y =>
      simp only [Option.map_some, Function.comp_apply]
      split_ifs <;> rfl

/-- The test at a line is chosen by spans and not by anchors. -/
theorem SpecAnalysis.testAtLine?_withoutAnchors (s : SpecAnalysis) (line : UInt32) :
    s.withoutAnchors.testAtLine? line = (s.testAtLine? line).map RecognizedTest.withoutAnchor := by
  simp only [testAtLine?, withoutAnchors, List.filter_map, firstMinBy?_map]
  rfl

namespace FileAnalysis

/-- So is the spec at a line. -/
theorem specAtLine?_withoutAnchors (a : FileAnalysis) (line : UInt32) :
    a.withoutAnchors.specAtLine? line =
      (a.specAtLine? line).map SpecAnalysis.withoutAnchors := by
  simp only [specAtLine?, withoutAnchors, List.filter_map, firstMinBy?_map]
  rfl

/-- So is the test at a line of a file. -/
theorem testAtLine?_withoutAnchors (a : FileAnalysis) (line : UInt32) :
    a.withoutAnchors.testAtLine? line =
      (a.testAtLine? line).map RecognizedTest.withoutAnchor := by
  rw [testAtLine?, testAtLine?, specAtLine?_withoutAnchors]
  cases a.specAtLine? line with
  | none => rfl
  | some s => exact s.testAtLine?_withoutAnchors line

/-- A run target is made of names, so it is the same without anchors. -/
theorem targetAtLine?_withoutAnchors (a : FileAnalysis) (line : UInt32) :
    a.withoutAnchors.targetAtLine? line = a.targetAtLine? line := by
  rw [targetAtLine?, targetAtLine?, specAtLine?_withoutAnchors, Option.map_map]
  refine Option.map_congr fun s _ => ?_
  rw [Function.comp_apply, SpecAnalysis.testAtLine?_withoutAnchors, Option.map_map]
  rfl

/-- As many tests are counted without anchors. -/
theorem testCount_withoutAnchors (a : FileAnalysis) : a.withoutAnchors.testCount = a.testCount := by
  have hlength : ∀ s : SpecAnalysis, s.withoutAnchors.tests.length = s.tests.length :=
    fun s => List.length_map RecognizedTest.withoutAnchor
  simp [testCount, withoutAnchors, List.length_flatMap, Function.comp_def, hlength]

/-- **A written analysis is read back but for the numbers of its nodes.** The reader accepts the
data of every analysis, as a value and as a text in either form, and what it finds is the analysis
with every number of a node reset to 0. It counts as many tests, and at every line it has the same
spec and the same test, up to those numbers, and the same target. -/
theorem ofJson?_roundTrip (a : FileAnalysis) :
    ofJson? a.toJson = some a.withoutAnchors ∧
    (Json.read? a.toJson.compact).bind ofJson? = some a.withoutAnchors ∧
    (Json.read? a.toJson.pretty).bind ofJson? = some a.withoutAnchors ∧
    a.withoutAnchors.testCount = a.testCount ∧
    ∀ line,
      a.withoutAnchors.specAtLine? line =
        (a.specAtLine? line).map SpecAnalysis.withoutAnchors ∧
      a.withoutAnchors.testAtLine? line =
        (a.testAtLine? line).map RecognizedTest.withoutAnchor ∧
      (∀ s ∈ a.specs, s.withoutAnchors.testAtLine? line =
        (s.testAtLine? line).map RecognizedTest.withoutAnchor) ∧
      a.withoutAnchors.targetAtLine? line = a.targetAtLine? line := by
  refine ⟨a.ofJson?_toJson, ?_, ?_, a.testCount_withoutAnchors, fun line =>
    ⟨a.specAtLine?_withoutAnchors line, a.testAtLine?_withoutAnchors line,
      fun s _ => s.testAtLine?_withoutAnchors line, a.targetAtLine?_withoutAnchors line⟩⟩
  · rw [a.isExact_toJson.read?_compact, Option.bind_some, a.ofJson?_toJson]
  · rw [a.isExact_toJson.read?_pretty, Option.bind_some, a.ofJson?_toJson]

/-- A hook of a file without a path, at a node that is not the root, is read back at the root. -/
example :
    ofJson? (toJson ⟨none, [⟨"S", "S", .funSpec, "Fun Spec", .textual, default, [],
      [⟨.afterTest, 7, default⟩]⟩]⟩) =
    some ⟨none, [⟨"S", "S", .funSpec, "Fun Spec", .textual, default, [],
      [⟨.afterTest, 0, default⟩]⟩]⟩ := by
  rfl

end FileAnalysis

end KotestOutline
