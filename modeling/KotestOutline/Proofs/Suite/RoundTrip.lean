import KotestOutline.Proofs.Suite.SpecClass
import KotestOutline.Recognition

/-!
# Suites and superclasses read back

The listing of a written spec, and the superclass its header names.
-/

namespace KotestOutline

/-!
## Suites are listed as declared

A class that a suite is written in is listed with just the entries that the suite declares: each
declaration once, in pre-order, under the names of its containers.

* `exists_class_node`: the class is found in the lowered file, by what stands before it.
* `IsSpecClass.exists_listTests`: the listing of the class in the lowered file.
-/

section

variable {src : Source} {style : SpecStyle} {suite : List Declaration}

/-- A class that directly follows the sketches of what stands before it in a file shows its own. -/
theorem exists_class_node {row : Row} {members : List Cst} (src : Source) (file : Row)
    (before after : List Cst) (hrow : row.IsConstruct "class_declaration") :
    ∃ n : Node, (Node.ofTree (Cst.lower src
        (.node file (before ++ .node row members :: after)))).children[
          (before.flatMap (Cst.sketches src)).length]? = some n ∧
      n ∈ (Node.ofTree (Cst.lower src
        (.node file (before ++ .node row members :: after)))).children ∧
      n.Shows (.composite .classDeclaration (src.rowSpan row)
        (members.flatMap (Cst.memberSketches src))) := by
  have hchildren := shows_children_lower src file (before ++ .node row members :: after)
  rw [List.flatMap_append, List.flatMap_cons, Cst.sketches_of_class hrow] at hchildren
  obtain ⟨ms, rest, hms, hrest, hsplit⟩ := Sketch.exists_append_of_shows hchildren
  obtain ⟨n, ms', hn, -, rfl⟩ := List.forall₂_cons_right_iff.1 hrest
  refine ⟨n, ?_, ?_, hn⟩
  · rw [hsplit, ← hms.length_eq, List.getElem?_append_right (Nat.le_refl _), Nat.sub_self]
    rfl
  · rw [hsplit]
    exact List.mem_append_right ms List.mem_cons_self

/-- The members of a top-level class are in no container, and in a spec if the class is one. -/
theorem inside_of_class {membership : Membership} {root n c : Node} (hroot : root.above = [])
    (hn : n ∈ root.children) (hkind : n.kind = .classDeclaration)
    (hfile : root.kind ≠ .callExpression)
    (hconfirmed : style.requiresMembership = true → membership n style = true)
    (hc : c ∈ n.children) : c.Inside style membership [] where
  containers := by
    have hnone : containerNames style.containerName? root = [] := by
      unfold containerNames Node.ancestors
      rw [hroot]
      rfl
    have hclass : n.is .callExpression = false := by
      rw [Node.is, hkind]
      rfl
    have hcall : root.is .callExpression = false := by simpa [Node.is] using hfile
    rw [Node.containerNames_of_mem_children _ hc, Node.containerNames_of_mem_children _ hn, hnone,
      hclass, hcall]
    rfl
  confirmed := by
    have hclass : n.kind.isClassOrObject = true := by
      rw [hkind]
      rfl
    have henclosing : c.enclosingClass? = some n := by
      rw [Node.enclosingClass?, Node.ancestors_of_mem_children hc]
      exact List.find?_cons_of_pos hclass
    rw [henclosing]
    exact hconfirmed

/-- In a file, the listing of a class that a suite is written in says about each declaration of the
suite, in pre-order, what it is, how it is named and which containers are around it, and says
nothing else. In the flat style the class has to be a confirmed spec. -/
theorem IsSpecClass.exists_listTests {t : Cst} (h : IsSpecClass src style suite t) (file : Row)
    (before after : List Cst) :
    ∃ n : Node, (Node.ofTree (Cst.lower src (.node file (before ++ t :: after)))).children[
        (before.flatMap (Cst.sketches src)).length]? = some n ∧
      n.kind = .classDeclaration ∧ n.span = src.rowSpan t.label ∧
      ∀ membership : Membership,
        (style.requiresMembership = true → membership n style = true) →
          (listTests style membership n).map RecognizedTest.entry =
            Declaration.entriesAll [] suite := by
  obtain ⟨hrow, hone, hyields⟩ := h.yieldsAll
  obtain ⟨row, members⟩ := t
  obtain ⟨n, hindex, hchild, hshow⟩ := exists_class_node src file before after hrow
  have hkind : n.kind = .classDeclaration := hshow.kind_eq
  have hspan : n.span = src.rowSpan row := congrArg Content.span hshow.content_eq
  refine ⟨n, hindex, hkind, hspan, ?_⟩
  intro membership hconfirmed
  rw [Node.map_entry_listTests]
  apply hyields membership [] n.children (hshow.children hone)
  intro c hc
  have hfile : (Node.ofTree (Cst.lower src
      (.node file (before ++ .node row members :: after)))).kind ≠ .callExpression := by
    rintro ⟨⟩
  exact inside_of_class rfl hchild hkind hfile hconfirmed hc

/-! ### One file -/

namespace FunSpecSample

/-- A spec with an escape in one name and a configuration on one test. -/
def source : Source := .ofString <|
  "class T : FunSpec(\x7b context(\"a\") \x7b test(\"b\\t\") \x7b \x7d; " ++
    "test(\"c\").config(n) \x7b \x7d \x7d \x7d)"

/-- A named row over some trees. -/
def construct (kind : String) (start stop : UInt32) (ts : List Cst) : Cst :=
  .node ⟨kind, true, false, false, start, stop⟩ ts

/-- A token of the grammar. -/
def token (text : String) (start stop : UInt32) : Cst :=
  .node ⟨text, false, false, false, start, stop⟩ []

/-- A function, up to offset `mid`, applied to a literal with some entries. -/
def callOf (start mid stop : UInt32) (entries : List Cst) : Cst :=
  construct "call_expression" start stop [construct "identifier" start mid [],
    construct "value_arguments" mid stop [token "(" mid (mid + 1),
      construct "value_argument" (mid + 1) (stop - 1)
        [construct "string_literal" (mid + 1) (stop - 1)
          (token "\"" (mid + 1) (mid + 2) :: entries ++ [token "\"" (stop - 2) (stop - 1)])],
      token ")" (stop - 1) stop]]

/-- A trailing lambda with some statements. -/
def lambda (start stop : UInt32) (statements : List Cst) : Cst :=
  construct "annotated_lambda" start stop [construct "lambda_literal" start stop
    (token "\x7b" start (start + 1) :: statements ++ [token "\x7d" (stop - 1) stop])]

/-- The test with the escape in its name. -/
def bareTest : Cst :=
  construct "call_expression" 35 50
    [callOf 35 39 46 [construct "string_content" 41 42 [], construct "escape_sequence" 42 44 []],
      lambda 47 50 []]

/-- The test with a configuration. -/
def configuredTest : Cst :=
  construct "call_expression" 52 75
    [construct "call_expression" 52 71
      [construct "navigation_expression" 52 68
        [callOf 52 56 61 [construct "string_content" 58 59 []], token "." 61 62,
          construct "identifier" 62 68 []],
        construct "value_arguments" 68 71
          [token "(" 68 69, construct "value_argument" 69 70 [construct "identifier" 69 70 []],
            token ")" 70 71]],
      lambda 72 75 []]

/-- The container of both. -/
def container : Cst :=
  construct "call_expression" 20 77
    [callOf 20 27 32 [construct "string_content" 29 30 []], lambda 33 77 [bareTest, configuredTest]]

/-- The class. -/
def spec : Cst :=
  construct "class_declaration" 0 80 [token "class" 0 5, construct "identifier" 6 7 [],
    token ":" 8 9, construct "delegation_specifiers" 10 80
      [construct "delegation_specifier" 10 80 [construct "constructor_invocation" 10 80
        [construct "user_type" 10 17 [construct "identifier" 10 17 []],
          construct "value_arguments" 17 80 [token "(" 17 18,
            construct "value_argument" 18 79 [construct "lambda_literal" 18 79
              [token "\x7b" 18 19, container, token "\x7d" 78 79]],
            token ")" 79 80]]]]]

/-- The declarations in it. -/
def declared : List Declaration := [.container "a" [.test "b\t", .test "c"]]

/-- A row of a named tree is a construct of its kind. -/
theorem isConstruct (kind : String) (start stop : UInt32) :
    Row.IsConstruct ⟨kind, true, false, false, start, stop⟩ kind := ⟨rfl, rfl, rfl, rfl⟩

/-- A row of that kind is an identifier with its text. -/
theorem isIdentifier {src : Source} {start stop : UInt32} {text : String}
    (h : src.rowText ⟨"identifier", true, false, false, start, stop⟩ = text.toList) :
    Row.IsIdentifier src ⟨"identifier", true, false, false, start, stop⟩ text :=
  ⟨⟨"identifier", by decide, isConstruct _ start stop⟩, h⟩

/-- The rows of a call, with the right texts, are a call with one string. -/
theorem isCallOf {start mid stop : UInt32} {entries : List Cst} {function value : String}
    (hcallee : source.rowText ⟨"identifier", true, false, false, start, mid⟩ = function.toList)
    (hopening : source.rowText ⟨"(", false, false, false, mid, mid + 1⟩ = ['('])
    (hquote : (source.rowText ⟨"\"", false, false, false, mid + 1, mid + 2⟩).head? = some '\"')
    (hentries : IsEntries source entries value.toList)
    (hquote' : (source.rowText ⟨"\"", false, false, false, stop - 2, stop - 1⟩).head? = some '\"')
    (hclosing : source.rowText ⟨")", false, false, false, stop - 1, stop⟩ = [')']) :
    IsCallOf source function value (callOf start mid stop entries) :=
  .intro (isConstruct _ start stop) (isIdentifier hcallee) (isConstruct _ mid stop)
    ⟨hopening, rfl, rfl, rfl, rfl⟩ (isConstruct _ (mid + 1) (stop - 1))
    (.intro (by decide) (isConstruct "string_literal" (mid + 1) (stop - 1)) ⟨hquote, rfl, rfl⟩
      ⟨hquote', rfl, rfl⟩ hentries)
    ⟨hclosing, rfl, rfl, rfl, rfl⟩

/-- The rows of a lambda are a trailing lambda over the statements. -/
theorem isLambda (start stop : UInt32) (statements : List Cst) :
    IsLambda (token "\x7b" start (start + 1) :: statements ++ [token "\x7d" (stop - 1) stop])
      (lambda start stop statements) :=
  .intro (isConstruct _ start stop) (isConstruct _ start stop)

/-- A letter begins no interpolation. -/
theorem isPlain_letter {after : Option Char} {c : Char} (h : c ≠ '$') : IsPlain after [c] :=
  ⟨fun hc => absurd hc h, trivial⟩

/-- One letter of plain content in front of other entries. -/
theorem isEntries_letter {start stop : UInt32} {c : Char} {rest : List Cst} {value : List Char}
    (hdollar : c ≠ '$') (hstart : start.toNat < stop.toNat)
    (hslice : source.slice start.toNat stop.toNat = some [c])
    (hrest : IsEntries source rest value) :
    IsEntries source (construct "string_content" start stop [] :: rest) (c :: value) := by
  have hrow := isConstruct "string_content" start stop
  have hcontent : IsContent source stop.toNat start.toNat [] [c] :=
    .run (Or.inr ⟨hstart, hslice, isPlain_letter hdollar⟩)
  change IsEntries source (construct "string_content" start stop [] :: rest) ([c] ++ value)
  exact IsEntries.content hrow.named hrow.missing (by simp only [Row.isEscape]; decide)
    (by simp only [Row.isContent]; decide) hcontent hrest

/-- An escape sequence in front of other entries. -/
theorem isEntries_escape {start stop : UInt32} {c : Char} {rest : List Cst} {value : List Char}
    (hescape : IsEscapeOf (source.rowText ⟨"escape_sequence", true, false, false, start, stop⟩) c)
    (hrest : IsEntries source rest value) :
    IsEntries source (construct "escape_sequence" start stop [] :: rest) (c :: value) :=
  IsEntries.escape rfl rfl (by simp only [Row.isEscape]; decide) hescape hrest

/-- The test with the escape in its name is a test named by what the escape stands for. -/
theorem isTest_bareTest : IsTest source .funSpec "b\t" bareTest := by
  have htab : source.rowText ⟨"escape_sequence", true, false, false, 42, 44⟩ = ['\\', 't'] := by
    decide
  have hentries : IsEntries source
      [construct "string_content" 41 42 [], construct "escape_sequence" 42 44 []] "b\t".toList :=
    isEntries_letter (by decide) (by decide) (by decide)
      (isEntries_escape (htab ▸ .short (by decide)) .nil)
  exact .bare (isConstruct _ 35 50)
    (isCallOf (by decide) (by decide) (by decide) hentries (by decide) (by decide))
    (isLambda 47 50 []) (by decide)

/-- The test with a configuration is a test. -/
theorem isTest_configuredTest : IsTest source .funSpec "c" configuredTest := by
  have hentries : IsEntries source [construct "string_content" 58 59 []] "c".toList :=
    isEntries_letter (by decide) (by decide) (by decide) .nil
  exact .configured (isConstruct _ 52 75) (isConstruct _ 52 71) (isConstruct _ 52 68)
    (isCallOf (by decide) (by decide) (by decide) hentries (by decide) (by decide))
    ⟨by decide, rfl, rfl, rfl, rfl⟩ (isIdentifier (by decide)) (isConstruct _ 68 71) (by decide)
    (isLambda 72 75 []) (by decide)

/-- The class is written as `declared`. -/
theorem isSpecClass_spec : IsSpecClass source .funSpec declared spec := by
  have hentries : IsEntries source [construct "string_content" 29 30 []] "a".toList :=
    isEntries_letter (by decide) (by decide) (by decide) .nil
  have hbody : IsSuite source .funSpec [.test "b\t", .test "c"]
      (token "\x7b" 33 34 :: [bareTest, configuredTest] ++ [token "\x7d" 76 77]) :=
    .quiet (by decide) (.test isTest_bareTest (.test isTest_configuredTest
      (.quiet (by decide) .nil)))
  have hcontainer : IsSuite source .funSpec declared
      [token "\x7b" 18 19, container, token "\x7d" 78 79] :=
    .quiet (by decide) (.container (isConstruct _ 20 77)
      (isCallOf (by decide) (by decide) (by decide) hentries (by decide) (by decide))
      (isLambda 33 77 _) hbody (.quiet (by decide) .nil))
  have hopening : Row.IsToken source ⟨"(", false, false, false, 17, 18⟩ "(" :=
    ⟨by decide, rfl, rfl, rfl, rfl⟩
  have hclosing : Row.IsToken source ⟨")", false, false, false, 79, 80⟩ ")" :=
    ⟨by decide, rfl, rfl, rfl, rfl⟩
  have hquiet : ∀ t ∈ [token "class" 0 5, construct "identifier" 6 7 [], token ":" 8 9] ++ [] ++
      ([] ++ []) ++ [construct "user_type" 10 17 [construct "identifier" 10 17 []]], t.IsQuiet := by
    decide
  exact .constructor (isConstruct _ 0 80) (isConstruct _ 10 80) (isConstruct _ 10 80)
    (isConstruct _ 10 80) (isConstruct _ 10 17) (isConstruct _ 17 80) hopening
    (isConstruct _ 18 79) (isConstruct _ 18 79) hclosing hquiet (by decide) hcontainer

end FunSpecSample

open FunSpecSample in
/-- In a file with the class alone, the listing has the container and its two tests. -/
theorem listTests_funSpecSample : IsSpecClass source .funSpec declared spec ∧
    ∃ n : Node,
      (Node.ofTree (Cst.lower source (construct "source_file" 0 80 [spec]))).children[0]? = some n ∧
      (listTests .funSpec .assumed n).map RecognizedTest.entry =
        [⟨.container, "a", [], "a"⟩, ⟨.test, "b\t", ["a"], "a -- b\t"⟩,
          ⟨.test, "c", ["a"], "a -- c"⟩] := by
  obtain ⟨n, hn, -, -, hlisted⟩ := isSpecClass_spec.exists_listTests
    ⟨"source_file", true, false, false, 0, 80⟩ [] []
  refine ⟨isSpecClass_spec, n, hn, ?_⟩
  rw [hlisted .assumed fun _ => rfl]
  decide

end

/-!
## The superclass of a written class

What classification reads off a class whose superclass is written as a constructor call, in a file
that holds nothing else.

* `superTypeName?_of_shows`: the name of the superclass is that of the type that is constructed.
* `Classifier.isSpecificationOf_of_unresolved`: if it is the name of a base class that does not
  resolve, the class is a spec of that style.
* `ImportContext.ofNode_of_only_class`: such a class is read without package and imports.
-/

section

variable {src : Source} {style : SpecStyle}

/-! ### The members of a class -/

/-- The name of a type is that of its only identifier. -/
theorem Row.IsIdentifier.typeName_eq {base : Row} {text : String} (h : base.IsIdentifier src text)
    (type : Row) :
    Part.typeName src (Cst.toPart src (.node type [.node base []])) = text.toList := by
  have hamong : Part.identifiersAmong src [Cst.toPart src (.node base [])] = [text.toList] := by
    have harguments := h.kind_ne "type_arguments" (by decide)
    have hprojection := h.kind_ne "type_projection" (by decide)
    unfold Part.identifiersAmong
    rw [Cst.isNamed_toPart, Cst.isKind_toPart, Cst.isKind_toPart, Cst.row_toPart]
    simp [Part.identifiersAmong, h.named, h.isIdentifier, harguments, hprojection, h.text_eq]
  rw [Part.typeName, Cst.toPart_node, Part.identifiersBelow, List.map_singleton, hamong,
    List.intercalate_singleton]

/-- A token among the members of a class is punctuation. -/
theorem Row.IsMark.memberSketches_eq {row : Row} {text : String} (h : row.IsMark src text)
    (hidentifier : text ∉ KindNames.identifiers)
    (hother : text ∉ ["delegation_specifiers", "delegation_specifier", "."]) :
    Cst.memberSketches src (.node row []) =
      [.leaf .punctuation text.toList (src.rowSpan row)] := by
  simp only [List.mem_cons, List.not_mem_nil, or_false, not_or] at hother
  obtain ⟨hplural, hsingular, hdot⟩ := hother
  rw [Cst.memberSketches_of_other src, h.sketches_eq hdot]
  · rw [Row.isIdentifier, h.kind_eq]
    simpa using hidentifier
  · simp [Cst.isDelegation, h.kind_eq, hplural, hsingular]

/-- An identifier among the members of a class is its name. -/
theorem Row.IsIdentifier.memberSketches_eq {row : Row} {text : String}
    (h : row.IsIdentifier src text) :
    Cst.memberSketches src (.node row []) =
      [.leaf .identifier text.toList (src.rowSpan row)] := by
  simp [Cst.memberSketches, Part.classMember, Cst.isNamed_toPart, Cst.row_toPart, h.named,
    h.isIdentifier, h.text_eq]

/-- One superclass with a constructor call makes a supertype list with one entry. -/
theorem memberSketches_of_constructor {supertypes entry invocation arguments : Row} {type : Cst}
    (src : Source) (ts : List Cst) (hsupertypes : supertypes.IsConstruct "delegation_specifiers")
    (hentry : entry.IsConstruct "delegation_specifier")
    (hinvocation : invocation.IsConstruct "constructor_invocation")
    (htype : type.label.IsConstruct "user_type")
    (harguments : arguments.IsConstruct "value_arguments") :
    Cst.memberSketches src
        (.node supertypes [.node entry [.node invocation [type, .node arguments ts]]]) =
      [.composite .superTypeList (src.rowSpan supertypes)
        [.composite .superTypeCallEntry (src.rowSpan entry)
          (.leaf .typeReference (Part.typeName src (Cst.toPart src type))
            (src.rowSpan type.label) :: Cst.sketches src (.node arguments ts))]] := by
  have hparts := Cst.superTypeParts_append src [.node invocation [type, .node arguments ts]] [] []
    hentry
  rw [List.nil_append] at hparts
  rw [Cst.memberSketches_of_superTypes src _ hsupertypes, hparts, Part.superTypeList]
  simp [Cst.superTypeParts, superTypeEntry_of_constructor src entry ts hinvocation htype harguments]

/-! ### The superclass -/

namespace Sketch

variable {entry : Sketch} {entries : List Sketch} {name : List Char}

/-- The entry that names the superclass: the first constructor call, or else the first of the
others. -/
def superEntry? (entries : List Sketch) : Option Sketch :=
  (entries.find? (·.label.kind == .superTypeCallEntry)).or
    (entries.find? (·.label.kind == .superTypeEntry))

/-- Whether a sketch begins with the reference to a type, and none of its children is a supertype
list. -/
def IsEntryOf (name : List Char) (s : Sketch) : Prop :=
  ∃ span rest, s.children = Sketch.leaf .typeReference name span :: rest ∧
    ∀ u : Sketch, u ∈ rest → u.isSuperTypeList = false

/-- A node that shows an entry has a reference with the name. -/
theorem IsEntryOf.text_firstChild? {n : Node} (h : entry.IsEntryOf name) (hshow : n.Shows entry) :
    (n.firstChild? .typeReference).map Node.text = some (String.ofList name) := by
  obtain ⟨span, rest, hchildren, hrest⟩ := h
  have hone : entry.children.countP isSuperTypeList ≤ 1 := by
    rw [hchildren, List.countP_cons, countP_isSuperTypeList_eq_zero hrest]
    exact Nat.zero_le 1
  have hfirst : entry.children.find? (·.label.kind == .typeReference) =
      some (Sketch.leaf .typeReference name span) := by
    rw [hchildren]
    exact List.find?_cons_of_pos rfl
  obtain ⟨type, htype, htypeShow⟩ := exists_firstChild?_of_shows hshow hone hfirst
  rw [htype, Option.map_some, htypeShow.text_leaf]

/-- Among entries that are no supertype lists there is no such list. -/
theorem find?_superTypeList_eq_none (h : ∀ s ∈ entries, s.isSuperTypeList = false) :
    entries.find? (·.label.kind == .superTypeList) = none := by
  rw [List.find?_eq_none]
  intro s hs
  have hnot := h s hs
  rw [isSuperTypeList] at hnot
  rw [hnot]
  exact Bool.false_ne_true

/-- A node that shows a supertype list has the entry that names the superclass. -/
theorem shows_superEntry? {list : Node} {span : Span}
    (hshow : list.Shows (.composite .superTypeList span entries))
    (hentries : ∀ s ∈ entries, s.isSuperTypeList = false)
    (hentry : superEntry? entries = some entry) :
    ∃ e : Node, e.Shows entry ∧
      (list.firstChild? .superTypeCallEntry).or (list.firstChild? .superTypeEntry) = some e := by
  have hone : entries.countP isSuperTypeList ≤ 1 := by
    rw [countP_isSuperTypeList_eq_zero hentries]
    exact Nat.zero_le 1
  rcases Option.or_eq_some_iff.1 hentry with hcall | ⟨hcall, hplain⟩
  · obtain ⟨e, he, heShow⟩ := exists_firstChild?_of_shows hshow hone hcall
    exact ⟨e, heShow, by rw [he, Option.some_or]⟩
  · obtain ⟨e, he, heShow⟩ := exists_firstChild?_of_shows hshow hone hplain
    exact ⟨e, heShow, by rw [firstChild?_eq_none_of_shows hshow hone hcall, Option.none_or, he]⟩

end Sketch

/-- A class without a supertype list has no superclass. -/
theorem superTypeName?_eq_none_of_shows {n : Node} {kind : NodeKind} {span : Span}
    {children : List Sketch} (hshow : n.Shows (.composite kind span children))
    (hother : ∀ s ∈ children, s.isSuperTypeList = false) : superTypeName? n = none := by
  have hone : children.countP Sketch.isSuperTypeList ≤ 1 := by
    rw [Sketch.countP_isSuperTypeList_eq_zero hother]
    exact Nat.zero_le 1
  have hlist : n.firstChild? .superTypeList = none :=
    Sketch.firstChild?_eq_none_of_shows hshow hone (Sketch.find?_superTypeList_eq_none hother)
  rw [superTypeName?, hlist]
  rfl

/-- A class with one supertype list is written with the type of the entry that names the
superclass. -/
theorem superTypeName?_of_shows {n : Node} {kind : NodeKind} {span listSpan : Span}
    (before after : List Sketch) {entries : List Sketch} {entry : Sketch} {name : List Char}
    (hshow : n.Shows (.composite kind span
      (before ++ .composite .superTypeList listSpan entries :: after)))
    (hother : ∀ s ∈ before ++ after, s.isSuperTypeList = false)
    (hentries : ∀ s ∈ entries, s.isSuperTypeList = false)
    (hentry : Sketch.superEntry? entries = some entry) (hname : entry.IsEntryOf name) :
    superTypeName? n =
      if (String.ofList name).isEmpty then none else some (String.ofList name) := by
  rw [List.forall_mem_append] at hother
  have hone : (before ++ Sketch.composite .superTypeList listSpan entries :: after).countP
      Sketch.isSuperTypeList ≤ 1 := by
    rw [List.countP_append, List.countP_cons, Sketch.countP_isSuperTypeList_eq_zero hother.1,
      Sketch.countP_isSuperTypeList_eq_zero hother.2]
    exact Nat.le_refl 1
  have hlist : (before ++ Sketch.composite .superTypeList listSpan entries :: after).find?
      (·.label.kind == .superTypeList) = some (.composite .superTypeList listSpan entries) := by
    rw [List.find?_append, Sketch.find?_superTypeList_eq_none hother.1, Option.none_or]
    exact List.find?_cons_of_pos rfl
  obtain ⟨list, hfound, hlistShow⟩ := Sketch.exists_firstChild?_of_shows hshow hone hlist
  obtain ⟨e, heShow, he⟩ := Sketch.shows_superEntry? hlistShow hentries hentry
  simp only [superTypeName?, hfound, he, hname.text_firstChild? heShow, Option.bind_eq_bind,
    Option.bind_some]

/-! ### Names of base classes -/

/-- The short name of a style has one segment. -/
theorem SpecStyle.short_shortName (style : SpecStyle) :
    QualifiedName.short style.shortName = style.shortName := by
  cases style <;> decide

/-- The short name of each style has at least one letter. -/
theorem SpecStyle.shortName_ne_empty (style : SpecStyle) : style.shortName.isEmpty = false := by
  cases style <;> decide

/-- A written superclass that does not resolve is taken for the base class that it names. -/
theorem Classifier.isSpecificationOf_of_unresolved {c : Classifier} {n : Node}
    (hname : superTypeName? n = some style.shortName)
    (hnone : c.resolver.bind (·.resolve style.shortName (.ofNode n)) = none) :
    c.isSpecificationOf n style = true := by
  have hmatch : matchShortName [style] style.shortName = some style := by
    simp [matchShortName, style.short_shortName]
  rw [isSpecificationOf, walk, hname, Option.bind_some, maxSteps, walkFrom, hnone]
  simp [hmatch]

/-- In a file with one class and nothing else, there are no package and no imports. -/
theorem ImportContext.ofNode_of_only_class {root n : Node} (hroot : root.above = [])
    (hn : root.children = [n]) (hkind : n.kind = .classDeclaration) :
    ImportContext.ofNode n = .empty := by
  have hancestors : n.ancestors = [root] := by
    rw [Node.ancestors_of_mem_children (hn ▸ List.mem_singleton_self n), Node.ancestors, hroot]
    rfl
  have hheader : n.is .packageHeader = false := by rw [Node.is, hkind]; rfl
  have himport : n.is .importDirective = false := by rw [Node.is, hkind]; rfl
  have hfile : n.root = root := by rw [Node.root, hancestors]; rfl
  rw [ofNode, hfile, ofFile, Node.firstChild?, Node.childrenOf, hn]
  simp [hheader, himport, ImportContext.empty]

end

end KotestOutline
