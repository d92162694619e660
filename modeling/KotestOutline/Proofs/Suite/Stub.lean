import KotestOutline.Proofs.Suite.Reading
import KotestOutline.Proofs.Suite.RoundTrip

/-!
# Generated stubs are recognized

The empty test that a style generates for a name is listed under that name, whatever characters the
name is made of.

* `SpecStyle.toList_generateTest` and `SpecStyle.toList_generateSpec` lay out the generated texts;
  the literal stands behind `SpecStyle.testOpening`.
* `IsStubTest` and `IsStubSpec` are the rows of the generated texts, around the literal.
* `generated_stub_recognized` is the result: a literal that is read by Kotlin's rule has the name as
  its value, and the generated class is listed with one test of that name.
-/

namespace KotestOutline

variable {src : Source} {style : SpecStyle}

/-! ### Generated texts -/

namespace SpecStyle

/-- What an empty test has in front of its literal. -/
def testOpening (style : SpecStyle) : String := style.nested?.elim "" (·.testFn ++ "(")

/-- What an empty test has behind its literal. -/
def testClosing (style : SpecStyle) : String :=
  style.nested?.elim " \x7b \x7d" fun _ => ") \x7b \x7d"

/-- What a generated spec has in front of its test. -/
def specOpening (style : SpecStyle) (spec : String) : String :=
  "class " ++ spec ++ " : " ++ style.shortName ++ "(\x7b\n    "

/-- A generated test is the escaped name in quotes, with the text of the style on either side. -/
theorem toList_generateTest (style : SpecStyle) (name : String) :
    (style.generateTest name).toList = style.testOpening.toList ++
      (('\"' :: (escapeLiteral name).toList ++ ['\"']) ++ style.testClosing.toList) := by
  unfold generateTest testOpening testClosing
  cases style.nested? with
  | none => simp [FlatStyle.generateTest]
  | some rules => simp [NestedStyle.generateTest]

/-- A generated spec is its opening, the generated test and the closing brace. -/
theorem toList_generateSpec (style : SpecStyle) (spec name : String) :
    (style.generateSpec spec name).toList = (style.specOpening spec).toList ++
      ((style.generateTest name).toList ++ "\n\x7d)\n".toList) := by
  simp [generateSpec, specOpening]

/-- In a generated test the quoted name stands behind the opening of the test. -/
theorem hasAt_generateTest (style : SpecStyle) (name : String) :
    (Source.ofString (style.generateTest name)).HasAt (utf8Length style.testOpening.toList)
      ('\"' :: (escapeLiteral name).toList ++ ['\"']) style.testClosing.toList :=
  ⟨style.testOpening.toList, style.toList_generateTest name, rfl⟩

/-- In a generated spec the quoted name stands behind the openings of spec and test. -/
theorem hasAt_generateSpec (style : SpecStyle) (spec name : String) :
    (Source.ofString (style.generateSpec spec name)).HasAt
      (utf8Length (style.specOpening spec ++ style.testOpening).toList)
      ('\"' :: (escapeLiteral name).toList ++ ['\"'])
      (style.testClosing.toList ++ "\n\x7d)\n".toList) := by
  refine ⟨_, ?_, rfl⟩
  rw [Source.ofString, toList_generateSpec, toList_generateTest, String.toList_append]
  simp only [List.append_assoc]

end SpecStyle

/-! ### Generated rows -/

/-- Whether a tree is a trailing lambda without statements. -/
inductive IsEmptyLambda (src : Source) : Cst → Prop
  | intro {opening closing : Row} {lambda : Cst} (hopening : opening.IsMark src "\x7b")
      (hclosing : closing.IsMark src "\x7d")
      (hlambda : IsLambda [.node opening [], .node closing []] lambda) : IsEmptyLambda src lambda

/-- Whether a tree is an empty test of a style around a literal. -/
inductive IsStubTest (src : Source) (style : SpecStyle) (literal : Cst) : Cst → Prop
  | flat {call : Row} {lambda : Cst} (hstyle : style.nested? = none)
      (hcall : call.IsConstruct "call_expression") (hlambda : IsEmptyLambda src lambda) :
      IsStubTest src style literal (.node call [literal, lambda])
  | nested {rules : NestedStyle} {call inner callee arguments opening argument closing : Row}
      {lambda : Cst} (hstyle : style.nested? = some rules)
      (hcall : call.IsConstruct "call_expression") (hinner : inner.IsConstruct "call_expression")
      (hcallee : callee.IsIdentifier src rules.testFn)
      (harguments : arguments.IsConstruct "value_arguments") (hopening : opening.IsToken src "(")
      (hargument : argument.IsConstruct "value_argument") (hclosing : closing.IsToken src ")")
      (hlambda : IsEmptyLambda src lambda) :
      IsStubTest src style literal
        (.node call [.node inner [.node callee [], .node arguments
          [.node opening [], .node argument [literal], .node closing []]], lambda])

/-- Whether a tree is a class of a style with a name, and a test as the only statement in the lambda
of its superclass constructor. -/
inductive IsStubSpec (src : Source) (style : SpecStyle) (spec : String) (test : Cst) : Cst → Prop
  | intro {row keyword name colon supertypes entry invocation type base arguments opening argument
        lambda brace unbrace closing : Row}
      (hrow : row.IsConstruct "class_declaration") (hkeyword : keyword.IsMark src "class")
      (hname : name.IsIdentifier src spec) (hcolon : colon.IsMark src ":")
      (hsupertypes : supertypes.IsConstruct "delegation_specifiers")
      (hentry : entry.IsConstruct "delegation_specifier")
      (hinvocation : invocation.IsConstruct "constructor_invocation")
      (htype : type.IsConstruct "user_type") (hbase : base.IsIdentifier src style.shortName)
      (harguments : arguments.IsConstruct "value_arguments") (hopening : opening.IsToken src "(")
      (hargument : argument.IsConstruct "value_argument")
      (hlambda : lambda.IsConstruct "lambda_literal") (hbrace : brace.IsMark src "\x7b")
      (hunbrace : unbrace.IsMark src "\x7d") (hclosing : closing.IsToken src ")") :
      IsStubSpec src style spec test
        (.node row [.node keyword [], .node name [], .node colon [], .node supertypes
          [.node entry [.node invocation [.node type [.node base []], .node arguments
            [.node opening [], .node argument
              [.node lambda [.node brace [], test, .node unbrace []]], .node closing []]]]]])

/-! ### Stubs are suites -/

/-- In a flat style a literal heads a test. -/
theorem isTestHead_of_flat {name : String} {t : Cst} (hstyle : style.nested? = none)
    (h : IsLiteral src name t) : IsTestHead src style name t := by
  unfold IsTestHead
  rw [hstyle]
  exact h

/-- In a style with containers a call of the test function heads a test. -/
theorem isTestHead_of_nested {rules : NestedStyle} {name : String} {t : Cst}
    (hstyle : style.nested? = some rules) (h : IsCallOf src rules.testFn name t) :
    IsTestHead src style name t := by
  unfold IsTestHead
  rw [hstyle]
  exact h

/-- A stub of a test is a test with the value of its literal as its name. -/
theorem IsStubTest.isTest {name : String} {literal t : Cst} (h : IsStubTest src style literal t)
    (hliteral : IsLiteral src name literal) : IsTest src style name t := by
  have hquiet : ∀ opening closing : Row, opening.IsMark src "\x7b" → closing.IsMark src "\x7d" →
      ∀ t ∈ [RoseTree.node opening [], RoseTree.node closing []], Cst.IsQuiet t := by
    intro opening closing hopening hclosing
    simp [hopening.isQuiet (by decide), hclosing.isQuiet (by decide)]
  cases h with
  | flat hstyle hcall hlambda =>
    obtain ⟨hbrace, hunbrace, hlambda⟩ := hlambda
    exact .bare hcall (isTestHead_of_flat hstyle hliteral) hlambda (hquiet _ _ hbrace hunbrace)
  | nested hstyle hcall hinner hcallee harguments hopening hargument hclosing hlambda =>
    obtain ⟨hbrace, hunbrace, hlambda⟩ := hlambda
    have hhead := IsCallOf.intro hinner hcallee harguments hopening hargument hliteral hclosing
    exact .bare hcall (isTestHead_of_nested hstyle hhead) hlambda (hquiet _ _ hbrace hunbrace)

/-- A stub of a spec is a class with its test as the only declaration. -/
theorem IsStubSpec.isSpecClass {spec name : String} {test t : Cst}
    (h : IsStubSpec src style spec test t) (htest : IsTest src style name test) :
    IsSpecClass src style [.test name] t := by
  cases h with
  | @intro row keyword nameRow colon supertypes entry invocation type base arguments opening
      argument lambda brace unbrace closing hrow hkeyword hname hcolon hsupertypes hentry
      hinvocation htype hbase harguments hopening hargument hlambda hbrace hunbrace hclosing =>
    have hplural : nameRow.kind ≠ "delegation_specifiers" :=
      beq_eq_false_iff_ne.1 (hname.kind_ne _ (by decide))
    have hsingular : nameRow.kind ≠ "delegation_specifier" :=
      beq_eq_false_iff_ne.1 (hname.kind_ne _ (by decide))
    have htypeRow : (RoseTree.node type [.node base []]).label.IsConstruct "user_type" := htype
    have hsuite : IsSuite src style [.test name] [.node brace [], test, .node unbrace []] :=
      .quiet (hbrace.isQuiet (by decide))
        (.test htest (.quiet (hunbrace.isQuiet (by decide)) .nil))
    have htypeQuiet : Cst.IsQuiet (.node type [.node base []]) :=
      htype.isQuiet (by decide) (by simp [hbase.isQuiet])
    have hquiet : ∀ t ∈ [RoseTree.node keyword [], .node nameRow [], .node colon []] ++ [] ++
        ([] ++ []) ++ [.node type [.node base []]], Cst.IsQuiet t := by
      simp [hkeyword.isQuiet (by decide), hname.isQuiet, hcolon.isQuiet (by decide), htypeQuiet]
    have honly : ∀ t ∈ [RoseTree.node keyword [], .node nameRow [], .node colon []] ++ [],
        Cst.isDelegation t = false := by
      simp [Cst.isDelegation, hkeyword.kind_eq, hcolon.kind_eq, hplural, hsingular]
    exact .constructor hrow hsupertypes hentry hinvocation htypeRow harguments hopening
      hargument hlambda hclosing hquiet honly hsuite

/-- A stub names the base class of its style as its superclass. -/
theorem IsStubSpec.superTypeName?_eq {spec : String} {test t : Cst} {n : Node} {span : Span}
    (h : IsStubSpec src style spec test t)
    (hshow : n.Shows (.composite .classDeclaration span
      (t.children.flatMap (Cst.memberSketches src)))) :
    superTypeName? n = some style.shortName := by
  cases h with
  | @intro row keyword name colon supertypes entry invocation type base arguments opening argument
      lambda brace unbrace closing hrow hkeyword hname hcolon hsupertypes hentry hinvocation htype
      hbase harguments hopening hargument hlambda hbrace hunbrace hclosing =>
    have htypeRow : (RoseTree.node type [.node base []]).label.IsConstruct "user_type" := htype
    let before : List Sketch := [.leaf .punctuation "class".toList (src.rowSpan keyword),
      .leaf .identifier spec.toList (src.rowSpan name),
      .leaf .punctuation ":".toList (src.rowSpan colon)]
    have hbefore : ∀ s ∈ before, s.isSuperTypeList = false := by
      simp [before, Sketch.isSuperTypeList, Sketch.leaf]
    rw [RoseTree.children_node, List.flatMap_cons, List.flatMap_cons, List.flatMap_cons,
      List.flatMap_singleton, hkeyword.memberSketches_eq (by decide) (by decide),
      hname.memberSketches_eq, hcolon.memberSketches_eq (by decide) (by decide),
      memberSketches_of_constructor src _ hsupertypes hentry hinvocation htypeRow harguments,
      hbase.typeName_eq] at hshow
    have hentries : ∀ s ∈ [Sketch.composite .superTypeCallEntry (src.rowSpan entry)
        (.leaf .typeReference style.shortName.toList (src.rowSpan type) :: Cst.sketches src
          (.node arguments [.node opening [], .node argument [.node lambda
            [.node brace [], test, .node unbrace []]], .node closing []]))],
        s.isSuperTypeList = false := by
      simp [Sketch.isSuperTypeList, Sketch.composite]
    have hwritten := superTypeName?_of_shows before [] hshow (by rwa [List.append_nil]) hentries rfl
      ⟨_, _, rfl, Cst.isSuperTypeList_of_mem_sketches src _⟩
    rwa [String.ofList_toList, style.shortName_ne_empty, if_neg Bool.false_ne_true] at hwritten

/-! ### The result -/

/-- A file with one class that a suite is written in has one node below it, which is listed with the
entries of the suite. -/
theorem IsSpecClass.exists_only_class {suite : List Declaration} {t : Cst}
    (h : IsSpecClass src style suite t) (file : Row) :
    ∃ n : Node, (Node.ofTree (Cst.lower src (.node file [t]))).children = [n] ∧
      n.Shows (.composite .classDeclaration (src.rowSpan t.label)
        (t.children.flatMap (Cst.memberSketches src))) ∧
      ∀ membership : Membership,
        (style.requiresMembership = true → membership n style = true) →
          (listTests style membership n).map RecognizedTest.entry =
            Declaration.entriesAll [] suite := by
  obtain ⟨hrow, hone, hyields⟩ := h.yieldsAll
  obtain ⟨row, members⟩ := t
  rw [RoseTree.label_node] at hrow
  have hchildren := shows_children_lower src file [.node row members]
  rw [List.flatMap_singleton, Cst.sketches_of_class hrow] at hchildren
  obtain ⟨n, hn, hshow⟩ := Sketch.shows_singleton hchildren
  refine ⟨n, hn, hshow, ?_⟩
  intro membership hconfirmed
  rw [Node.map_entry_listTests]
  apply hyields membership [] n.children (hshow.children hone)
  intro c hc
  have hfile : (Node.ofTree (Cst.lower src (.node file [.node row members]))).kind ≠
      .callExpression := by
    rintro ⟨⟩
  exact inside_of_class rfl (hn ▸ List.mem_singleton_self n) hshow.kind_eq hfile hconfirmed hc

/-- Generated stubs are recognized under their own name, whatever the name. A literal that is read
off the generated test has the name as its value. The class that is read off the generated spec is
a spec of the style wherever the name of the base class does not resolve to something else, and the
listing of a class that is a spec of the style has one entry, a test of that name. -/
theorem generated_stub_recognized (style : SpecStyle) (name : String) :
    (∀ literal : Cst, IsReadLiteral (utf8Length style.testOpening.toList)
        (escapeLiteral name).toList literal →
      ∃ s, Cst.sketches (.ofString (style.generateTest name)) literal = [s] ∧
        ∀ n : Node, n.Shows s → n.kind = .stringTemplate ∧ stringLiteralValue n = .ok name) ∧
    ∀ (spec : String) (file : Row) (literal test t : Cst),
      IsReadLiteral (utf8Length (style.specOpening spec ++ style.testOpening).toList)
        (escapeLiteral name).toList literal →
      IsStubTest (.ofString (style.generateSpec spec name)) style literal test →
      IsStubSpec (.ofString (style.generateSpec spec name)) style spec test t →
      ∃ n : Node, (Node.ofTree (Cst.lower (.ofString (style.generateSpec spec name))
          (.node file [t]))).children = [n] ∧ n.kind = .classDeclaration ∧
        (∀ c : Classifier, c.resolver.bind (·.resolve style.shortName .empty) = none →
          c.isSpecificationOf n style = true) ∧
        ∀ membership : Membership,
          (style.requiresMembership = true → membership n style = true) →
            (listTests style membership n).map RecognizedTest.entry =
              [⟨.test, name, [], name⟩] := by
  constructor
  · intro literal hread
    have hliteral := hread.isLiteral (style.hasAt_generateTest name)
    obtain ⟨s, hs, hstring⟩ := Cst.exists_sketch_of_isLiteral hliteral
    refine ⟨s, hs, ?_⟩
    intro n hshow
    exact ⟨hshow.kind_eq.trans hstring.kind_eq, hstring.holds n hshow⟩
  · intro spec file literal test t hread htest hspec
    have hliteral := hread.isLiteral (style.hasAt_generateSpec spec name)
    have hclass := hspec.isSpecClass (htest.isTest hliteral)
    obtain ⟨n, hn, hshow, hlisted⟩ := hclass.exists_only_class file
    have hkind : n.kind = .classDeclaration := hshow.kind_eq
    refine ⟨n, hn, hkind, ?_, hlisted⟩
    intro c hnone
    apply Classifier.isSpecificationOf_of_unresolved (hspec.superTypeName?_eq hshow)
    rwa [ImportContext.ofNode_of_only_class rfl hn hkind]

/-! ### One stub -/

namespace StringSpecSample

open FunSpecSample (construct token lambda isConstruct isIdentifier isLambda)

/-- A name with a quote, and a dollar sign at its end. -/
def name : String := "a\"$"

/-- The generated spec. -/
def source : Source := .ofString (SpecStyle.stringSpec.generateSpec "S" name)

/-- The literal of the generated test, with the escapes between content rows. -/
def spreadLiteral : Cst :=
  construct "string_literal" 0 7 [token "\"" 0 1, construct "string_content" 1 2 [],
    construct "escape_sequence" 2 4 [], construct "escape_sequence" 4 6 [], token "\"" 6 7]

/-- The literal in the generated spec, with the escapes in one content row. -/
def nestedLiteral : Cst :=
  construct "string_literal" 27 34 [token "\"" 27 28, construct "string_content" 28 33
    [construct "escape_sequence" 29 31 [], construct "escape_sequence" 31 33 []],
    token "\"" 33 34]

/-- The test in the generated spec. -/
def test : Cst := construct "call_expression" 27 38 [nestedLiteral, lambda 35 38 []]

/-- The class. -/
def spec : Cst :=
  construct "class_declaration" 0 41 [token "class" 0 5, construct "identifier" 6 7 [],
    token ":" 8 9, construct "delegation_specifiers" 10 41
      [construct "delegation_specifier" 10 41 [construct "constructor_invocation" 10 41
        [construct "user_type" 10 20 [construct "identifier" 10 20 []],
          construct "value_arguments" 20 41 [token "(" 20 21,
            construct "value_argument" 21 40 [construct "lambda_literal" 21 40
              [token "\x7b" 21 22, test, token "\x7d" 39 40]],
            token ")" 40 41]]]]]

/-- The escaped name is one plain letter and two escapes. -/
theorem stretches_name : stretches (escapeLiteral name).toList =
    [.plain ['a'], .escape '\"', .escape '$'] := by
  decide

/-- A row over some text of the right kind is a row of content. -/
theorem isContentAt {first last : UInt32} {start : Nat} {text : List Char}
    (h : Row.Covers ⟨"string_content", true, false, false, first, last⟩ start text) :
    Row.IsContentAt ⟨"string_content", true, false, false, first, last⟩ start text :=
  ⟨rfl, rfl, by simp only [Row.isEscape]; decide, by simp only [Row.isContent]; decide, h⟩

/-- A row over a short escape of the right kind is an escape row. -/
theorem isEscapeAt {first last : UInt32} {start : Nat} {letter : Char}
    (h : Row.Covers ⟨"escape_sequence", true, false, false, first, last⟩ start ['\\', letter]) :
    Row.IsEscapeAt ⟨"escape_sequence", true, false, false, first, last⟩ start letter :=
  ⟨rfl, rfl, by simp only [Row.isEscape]; decide, h⟩

/-- The literal with escapes between content rows has the escaped name between its quotes. -/
theorem isReadLiteral_spreadLiteral :
    IsReadLiteral 0 (escapeLiteral name).toList spreadLiteral := by
  have hopening : (token "\"" 0 1).label.IsQuoteAt 0 := ⟨rfl, rfl, by decide, by decide⟩
  have hclosing : (token "\"" 6 7).label.IsQuoteAt
      (0 + 1 + utf8Length (escapeLiteral name).toList) := ⟨rfl, rfl, by decide, by decide⟩
  have hentries : IsReading 1 (escapeLiteral name).toList [construct "string_content" 1 2 [],
      construct "escape_sequence" 2 4 [], construct "escape_sequence" 4 6 []] := by
    apply IsReading.spread
    rw [stretches_name]
    exact .plain (isContentAt ⟨by decide, by decide⟩) rfl
      (.escape (isEscapeAt ⟨by decide, by decide⟩)
        (.escape (isEscapeAt ⟨by decide, by decide⟩) .nil))
  exact .intro (by decide) (isConstruct "string_literal" 0 7) hopening hentries hclosing

/-- The literal with escapes inside one content row has the escaped name between its quotes. -/
theorem isReadLiteral_nestedLiteral :
    IsReadLiteral 27 (escapeLiteral name).toList nestedLiteral := by
  have hopening : (token "\"" 27 28).label.IsQuoteAt 27 := ⟨rfl, rfl, by decide, by decide⟩
  have hclosing : (token "\"" 33 34).label.IsQuoteAt
      (27 + 1 + utf8Length (escapeLiteral name).toList) := ⟨rfl, rfl, by decide, by decide⟩
  have hentries : IsReading 28 (escapeLiteral name).toList [construct "string_content" 28 33
      [construct "escape_sequence" 29 31 [], construct "escape_sequence" 31 33 []]] := by
    apply IsReading.nested (by decide) (isContentAt ⟨by decide, by decide⟩)
    rw [stretches_name]
    exact .plain (.escape ⟨by decide, by decide⟩ (.escape ⟨by decide, by decide⟩ .nil))
  exact .intro (by decide) (isConstruct "string_literal" 27 34) hopening hentries hclosing

/-- A token with its text is a token of the grammar. -/
theorem isMark {text : String} {first last : UInt32}
    (h : source.rowText ⟨text, false, false, false, first, last⟩ = text.toList)
    (hcomment : text ∉ KindNames.comments) :
    Row.IsMark source ⟨text, false, false, false, first, last⟩ text :=
  ⟨⟨h, rfl, rfl, rfl, by simpa [Row.isComment] using hcomment⟩, rfl⟩

/-- The test in the generated spec is one with that literal. -/
theorem isStubTest_test : IsStubTest source .stringSpec nestedLiteral test :=
  .flat rfl (isConstruct _ 27 38) (.intro (isMark (by decide) (by decide))
    (isMark (by decide) (by decide)) (isLambda 35 38 []))

/-- The class is one with that test. -/
theorem isStubSpec_spec : IsStubSpec source .stringSpec "S" test spec :=
  .intro (isConstruct _ 0 41) (isMark (by decide) (by decide)) (isIdentifier (by decide))
    (isMark (by decide) (by decide)) (isConstruct _ 10 41) (isConstruct _ 10 41)
    (isConstruct _ 10 41) (isConstruct _ 10 20) (isIdentifier (by decide)) (isConstruct _ 20 41)
    (isMark (by decide) (by decide)).toIsToken (isConstruct _ 21 40) (isConstruct _ 21 40)
    (isMark (by decide) (by decide)) (isMark (by decide) (by decide))
    (isMark (by decide) (by decide)).toIsToken

end StringSpecSample

open StringSpecSample in
/-- The name is read back from the generated test, and it is the one entry in the listing of the
generated spec. -/
theorem recognized_stringSpecSample :
    IsReadLiteral 0 (escapeLiteral name).toList spreadLiteral ∧
      (∃ s, Cst.sketches (.ofString (SpecStyle.stringSpec.generateTest name)) spreadLiteral = [s] ∧
        ∀ n : Node, n.Shows s → n.kind = .stringTemplate ∧ stringLiteralValue n = .ok name) ∧
      IsReadLiteral 27 (escapeLiteral name).toList nestedLiteral ∧
      IsStubTest source .stringSpec nestedLiteral test ∧
      IsStubSpec source .stringSpec "S" test spec ∧
      ∃ n : Node,
        (Node.ofTree (Cst.lower source
          (.node ⟨"source_file", true, false, false, 0, 42⟩ [spec]))).children = [n] ∧
        (listTests .stringSpec (Classifier.mk .full none).isSpecificationOf n).map
          RecognizedTest.entry = [⟨.test, "a\"$", [], "a\"$"⟩] := by
  obtain ⟨hliteral, hspec⟩ := generated_stub_recognized .stringSpec name
  obtain ⟨n, hn, -, hconfirmed, hlisted⟩ :=
    hspec "S" ⟨"source_file", true, false, false, 0, 42⟩ nestedLiteral test spec
      isReadLiteral_nestedLiteral isStubTest_test isStubSpec_spec
  exact ⟨isReadLiteral_spreadLiteral, hliteral spreadLiteral isReadLiteral_spreadLiteral,
    isReadLiteral_nestedLiteral, isStubTest_test, isStubSpec_spec, n, hn,
    hlisted (Classifier.mk .full none).isSpecificationOf fun _ => hconfirmed _ rfl⟩

end KotestOutline
