import KotestOutline.Proofs.Lowering.Call
import KotestOutline.Proofs.Suite.Literal

/-!
# What written calls lower to

Each call in a written suite lowers to one sketch of the expected shape. The trailing lambda of a
call stands outside of it in the concrete tree, and inside of it in the sketch.

* `IsLambda.exists_sketch` and `IsCallOf.exists_parts`: the pieces.
* `IsCallOf.exists_sketch_with`, `IsLiteral.exists_sketch_with`: a head with a trailing lambda.
* `exists_sketch_of_configured`: a head with a configuration.
-/

namespace KotestOutline

variable {src : Source} {style : SpecStyle} {membership : Membership} {outer : List String}

/-! ### Identifiers -/

/-- An identifier lowers to a reference to what it names. -/
theorem Row.IsIdentifier.isReferenceTo {row : Row} {text : String} (h : row.IsIdentifier src text) :
    (Part.nameReference src row).IsReferenceTo text where
  kind_eq := rfl
  callFree := lowers_isCallFree.everywhere_nameReference row
  holds := by
    intro n hshow
    apply isName_eq_true_iff.2
    rw [hshow.text_nameReference, h.text_eq, String.ofList_toList]
    exact ⟨hshow.kind_eq, rfl⟩

/-! ### Lambdas -/

/-- A trailing lambda lowers to an argument around what its rows lower to. -/
theorem IsLambda.exists_sketch {body : List Cst} {lambda : Cst} (h : IsLambda body lambda)
    (src : Source) :
    lambda.label.IsConstruct "annotated_lambda" ∧ ∃ span inner, Cst.sketches src lambda =
      [.composite .lambdaArgument span
        [.composite .lambdaExpression inner (body.flatMap (Cst.sketches src))]] := by
  cases h with
  | @intro suffix lambda hsuffix hlambda =>
    refine ⟨hsuffix, src.rowSpan suffix, src.rowSpan lambda, ?_⟩
    rw [hsuffix.sketches_of_plain rfl, List.flatMap_singleton, hlambda.sketches_of_plain rfl]

namespace Sketch

variable {ss : List Sketch} {entries : List ListingEntry} {span inner : Span}

/-- A lambda is complete unless one of its statements is a missing token. -/
theorem isTrailing_of_body (hlist : ss.countP isSuperTypeList ≤ 1)
    (hmissing : ∀ s ∈ ss, s.label.kind ≠ .missing) :
    IsTrailing (.composite .lambdaArgument span [.composite .lambdaExpression inner ss]) where
  kind_eq := rfl
  holds := by
    intro n hshow
    obtain ⟨b, hn, hb⟩ := shows_singleton (hshow.children (Nat.zero_le 1))
    have hbody : b.hasMissingChild = false := by
      unfold Node.hasMissingChild
      rw [List.any_eq_false]
      intro c hc
      obtain ⟨s, hs, hcs⟩ := exists_mem_of_forall₂ (hb.children hlist) hc
      rw [hcs.is_eq]
      simpa using hmissing s hs
    have hlambda : b.is .lambdaExpression = true := hb.is_eq _
    have hargument : n.is .lambdaArgument = true := hshow.is_eq _
    rw [isTrailingLambda, Node.firstChild?, hn]
    simp [hlambda, hargument, hbody]

/-- A lambda contributes what its statements do. -/
theorem yields_lambda (hlist : ss.countP isSuperTypeList ≤ 1)
    (h : YieldsAll style membership outer ss entries) :
    Yields style membership outer
      (.composite .lambdaArgument span [.composite .lambdaExpression inner ss]) entries := by
  refine yields_composite rfl rfl (Nat.zero_le 1) ?_
  have hinner : Yields style membership outer (.composite .lambdaExpression inner ss) entries :=
    yields_composite rfl rfl hlist h
  exact yieldsAll_singleton hinner

end Sketch

/-! ### Calls of a literal -/

/-- A string in parentheses is an argument list with its value. -/
theorem Sketch.IsStringOf.isArgumentsOf {value : String} {template : Sketch}
    (h : template.IsStringOf value) (span openSpan argumentSpan closeSpan : Span) :
    Sketch.IsArgumentsOf value (.composite .valueArgumentList span
      [.leaf .punctuation ['('] openSpan, .composite .valueArgument argumentSpan [template],
        .leaf .punctuation [')'] closeSpan]) := by
  have hargument : Everywhere IsCallFree (.composite .valueArgument argumentSpan [template]) := by
    apply lowers_isCallFree.everywhere_plain argumentSpan rfl
    intro s hs
    rw [List.mem_singleton.1 hs]
    exact h.callFree
  have hfree : Everywhere IsCallFree (.composite .valueArgumentList span
      [.leaf .punctuation ['('] openSpan, .composite .valueArgument argumentSpan [template],
        .leaf .punctuation [')'] closeSpan]) := by
    apply lowers_isCallFree.everywhere_plain span rfl
    intro s hs
    simp only [List.mem_cons, List.not_mem_nil, or_false] at hs
    rcases hs with rfl | rfl | rfl
    · exact lowers_isCallFree.everywhere_leaf _ _ rfl
    · exact hargument
    · exact lowers_isCallFree.everywhere_leaf _ _ rfl
  have htemplate : ∀ s ∈ [template], s.IsElement := by
    have helement : template.IsElement := .of_kind h.kind_eq (by decide)
    simp [helement]
  refine ⟨⟨rfl, ?_⟩, hfree⟩
  intro n hshow
  obtain ⟨a, hn, ha⟩ := shows_singleton (hshow.elements (Nat.zero_le 1))
  obtain ⟨b, ha', hb⟩ := shows_singleton (elements_of_isElement ha htemplate)
  exact singleStringArgument_eq_ok_iff.2
    ⟨hasMissingChild_of_shows hfree hshow, a, b, hn, ha', h.holds b hb⟩

/-- An argument list with one literal lowers to one with the value of the literal. -/
theorem exists_arguments_of_isLiteral {value : String} {arguments opening argument closing : Row}
    {literal : Cst} (harguments : arguments.IsConstruct "value_arguments")
    (hopening : opening.IsToken src "(") (hargument : argument.IsConstruct "value_argument")
    (hliteral : IsLiteral src value literal) (hclosing : closing.IsToken src ")") :
    ∃ s, Cst.sketches src (.node arguments
        [.node opening [], .node argument [literal], .node closing []]) = [s] ∧
      s.IsArgumentsOf value := by
  obtain ⟨template, htemplate, hstring⟩ := Cst.exists_sketch_of_isLiteral hliteral
  refine ⟨_, ?_, hstring.isArgumentsOf (src.rowSpan arguments) (src.rowSpan opening)
    (src.rowSpan argument) (src.rowSpan closing)⟩
  exact Cst.sketches_of_arguments harguments hopening hargument hclosing htemplate

/-- Whether a tree is a call with two parts, the reference to a function and an argument list with
a value, that waits for its trailing lambda. -/
structure Cst.HasCallParts (src : Source) (t : Cst) (function value : String) (a b : Part) :
    Prop where
  call : t.label.IsConstruct "call_expression"
  parts : ∀ label, Part.callParts (.node label (t.children.map (toPart src))) = [a, b]
  named : Part.isNamed a = true
  kind_ne : Part.isKind a "navigation_expression" = false
  awaits : Part.awaitsLambda [a, b] = true
  callee : ∃ s, Part.sketches a = [s] ∧ s.IsReferenceTo function
  arguments : ∃ s, Part.sketches b = [s] ∧ s.IsArgumentsOf value

/-- A call of a literal is such a tree. -/
theorem IsCallOf.exists_parts {function value : String} {t : Cst}
    (h : IsCallOf src function value t) : ∃ a b, t.HasCallParts src function value a b := by
  cases h with
  | @intro call callee arguments opening argument closing literal hcall hcallee harguments hopening
      hargument hliteral hclosing =>
    refine ⟨Cst.toPart src (.node callee []), Cst.toPart src (.node arguments
      [.node opening [], .node argument [literal], .node closing []]), ?_⟩
    have hnamed : Part.isNamed (Cst.toPart src (.node callee [])) = true := by
      rw [Cst.isNamed_toPart]
      exact hcallee.named
    constructor
    case call => exact hcall
    case named => exact hnamed
    case callee =>
      exact ⟨Part.nameReference src callee, hcallee.sketches_eq [], hcallee.isReferenceTo⟩
    case arguments =>
      exact exists_arguments_of_isLiteral harguments hopening hargument hliteral hclosing
    case kind_ne =>
      rw [Cst.isKind_toPart]
      exact hcallee.kind_ne "navigation_expression" (by decide)
    case awaits =>
      have hlambda := hcallee.kind_ne "annotated_lambda" (by decide)
      simp [Part.awaitsLambda, Cst.isKind_toPart, harguments.kind_eq, hlambda]
    case parts =>
      intro label
      apply Part.callParts_of_not_call label hnamed
      · rw [Cst.isKind_toPart]
        exact hcallee.kind_ne "call_expression" (by decide)
      · have hsuffix := hcallee.kind_ne "call_suffix" (by decide)
        simp [Cst.isKind_toPart, harguments.kind_eq, hsuffix]

/-- A part is its row over the parts of the children. -/
theorem Cst.toPart_eq (src : Source) (t : Cst) :
    toPart src t = .node (toPart src t).label (t.children.map (toPart src)) := by
  rw [← children_toPart]
  cases toPart src t
  rfl

/-- A call that waits for its trailing lambda takes it in. -/
theorem Cst.callParts_of_lambda (src : Source) (call : Row) (head lambda : Cst)
    (hhead : head.label.IsConstruct "call_expression")
    (hlambda : lambda.label.IsConstruct "annotated_lambda")
    (hawaits : Part.awaitsLambda (Part.callParts (toPart src head)) = true) :
    Part.callParts (.node (call, []) ([head, lambda].map (toPart src))) =
      Part.callParts (toPart src head) ++ [toPart src lambda] := by
  apply Part.callParts_of_call (call, []) _ _ _ (List.cons_ne_nil _ _) _ hawaits
  · rw [isNamed_toPart]
    exact hhead.named
  · rw [isKind_toPart, hhead.kind_eq]
    rfl
  · simp [isKind_toPart, hhead.kind_eq, hlambda.kind_eq]
  · simp [isKind_toPart, hlambda.kind_eq]

/-- The call alone lowers to a call of reference and arguments. -/
theorem IsCallOf.exists_sketch {function value : String} {t : Cst}
    (h : IsCallOf src function value t) :
    ∃ span callee arguments, Cst.sketches src t =
        [.composite .callExpression span [callee, arguments]] ∧
      callee.IsReferenceTo function ∧ arguments.IsArgumentsOf value := by
  obtain ⟨a, b, hparts⟩ := h.exists_parts
  obtain ⟨callee, ha, hcallee⟩ := hparts.callee
  obtain ⟨arguments, hb, harguments⟩ := hparts.arguments
  obtain ⟨row, ts⟩ := t
  have hrow : row.IsConstruct "call_expression" := hparts.call
  have hchildren : Part.callParts (.node (row, []) (ts.map (Cst.toPart src))) = [a, b] :=
    hparts.parts (row, [])
  refine ⟨src.rowSpan row, callee, arguments, ?_, hcallee, harguments⟩
  rw [hrow.sketches_of_call, Part.callNode_of_parts src hchildren hparts.named hparts.kind_ne]
  simp [Part.sketchAll, ha, hb]

/-- With a trailing lambda it is one call of reference, arguments and lambda. -/
theorem IsCallOf.exists_sketch_with {function value : String} {call : Row} {head lambda : Cst}
    (h : IsCallOf src function value head) (hcall : call.IsConstruct "call_expression")
    (hlambda : lambda.label.IsConstruct "annotated_lambda") {body : Sketch}
    (hbody : Cst.sketches src lambda = [body]) :
    ∃ span callee arguments, Cst.sketches src (.node call [head, lambda]) =
        [.composite .callExpression span [callee, arguments, body]] ∧
      callee.IsReferenceTo function ∧ arguments.IsArgumentsOf value := by
  obtain ⟨a, b, hparts⟩ := h.exists_parts
  obtain ⟨callee, ha, hcallee⟩ := hparts.callee
  obtain ⟨arguments, hb, harguments⟩ := hparts.arguments
  have hinner : Part.callParts (Cst.toPart src head) = [a, b] := by
    rw [Cst.toPart_eq]
    exact hparts.parts _
  have houter := Cst.callParts_of_lambda src call head lambda hparts.call hlambda
    (by rw [hinner, hparts.awaits])
  rw [hinner] at houter
  have hlast : Part.sketches (Cst.toPart src lambda) = [body] := hbody
  refine ⟨src.rowSpan call, callee, arguments, ?_, hcallee, harguments⟩
  rw [hcall.sketches_of_call,
    Part.callNode_of_parts src houter hparts.named hparts.kind_ne]
  simp [Part.sketchAll, ha, hb, hlast]

/-! ### Strings as callees -/

/-- A literal is a construct of one of the kinds of strings. -/
theorem IsLiteral.exists_kind {value : String} {t : Cst} (h : IsLiteral src value t) :
    ∃ kind ∈ KindNames.strings, t.label.IsConstruct kind := by
  cases h with
  | @intro kind row _ _ _ hkind hrow => exact ⟨kind, hkind, hrow⟩

/-- A literal is of no other kind. -/
theorem IsLiteral.kind_ne {value : String} {t : Cst} (h : IsLiteral src value t) (kind : String)
    (hkind : kind ∉ KindNames.strings) : (t.label.kind == kind) = false := by
  obtain ⟨kind', hmem, hrow⟩ := h.exists_kind
  apply beq_eq_false_iff_ne.2
  intro heq
  apply hkind
  rw [← heq, hrow.kind_eq]
  exact hmem

/-- A literal with a trailing lambda is a call of template and lambda. -/
theorem IsLiteral.exists_sketch_with {value : String} {call : Row} {head lambda : Cst}
    (h : IsLiteral src value head) (hcall : call.IsConstruct "call_expression")
    (hlambda : lambda.label.IsConstruct "annotated_lambda") {body : Sketch}
    (hbody : Cst.sketches src lambda = [body]) :
    ∃ span template, Cst.sketches src (.node call [head, lambda]) =
        [.composite .callExpression span [template, body]] ∧ template.IsStringOf value := by
  obtain ⟨template, htemplate, hstring⟩ := Cst.exists_sketch_of_isLiteral h
  obtain ⟨kind, -, hrow⟩ := h.exists_kind
  have hnamed : Part.isNamed (Cst.toPart src head) = true := by
    rw [Cst.isNamed_toPart]
    exact hrow.named
  have hparts : Part.callParts (.node (call, []) ([head, lambda].map (Cst.toPart src))) =
      [Cst.toPart src head, Cst.toPart src lambda] := by
    apply Part.callParts_of_not_call (call, []) hnamed
    · rw [Cst.isKind_toPart]
      exact h.kind_ne "call_expression" (by decide)
    · have hsuffix := h.kind_ne "call_suffix" (by decide)
      simp [Cst.isKind_toPart, hsuffix, hlambda.kind_eq]
  have hkind : Part.isKind (Cst.toPart src head) "navigation_expression" = false := by
    rw [Cst.isKind_toPart]
    exact h.kind_ne "navigation_expression" (by decide)
  have hfirst : Part.sketches (Cst.toPart src head) = [template] := htemplate
  have hlast : Part.sketches (Cst.toPart src lambda) = [body] := hbody
  refine ⟨src.rowSpan call, template, ?_, hstring⟩
  rw [hcall.sketches_of_call, Part.callNode_of_parts src hparts hnamed hkind]
  simp [Part.sketchAll, hfirst, hlast]

/-! ### Configured tests -/

section Configured

variable {call inner navigation dot config arguments : Row} {head lambda : Cst}

/-- A call of a call takes the lambda in, also where the callee has a dot. -/
theorem callParts_of_configured (src : Source) (call : Row) (argumentRows children : List Cst)
    (hinner : inner.IsConstruct "call_expression")
    (hnavigation : navigation.IsConstruct "navigation_expression")
    (harguments : arguments.IsConstruct "value_arguments")
    (hlambda : lambda.label.IsConstruct "annotated_lambda") :
    Part.callParts (.node (call, [])
        ([.node inner [.node navigation children, .node arguments argumentRows], lambda].map
          (Cst.toPart src))) =
      [Cst.toPart src (.node navigation children), Cst.toPart src (.node arguments argumentRows),
        Cst.toPart src lambda] := by
  have hparts : Part.callParts (Cst.toPart src
      (.node inner [.node navigation children, .node arguments argumentRows])) =
      [Cst.toPart src (.node navigation children),
        Cst.toPart src (.node arguments argumentRows)] := by
    rw [Cst.toPart_node]
    apply Part.callParts_of_not_call
    · rw [Cst.isNamed_toPart]
      exact hnavigation.named
    · simp [Cst.isKind_toPart, hnavigation.kind_eq]
    · simp [Cst.isKind_toPart, hnavigation.kind_eq, harguments.kind_eq]
  have hawaits : Part.awaitsLambda (Part.callParts (Cst.toPart src
      (.node inner [.node navigation children, .node arguments argumentRows]))) = true := by
    rw [hparts]
    simp [Part.awaitsLambda, Cst.isKind_toPart, hnavigation.kind_eq, harguments.kind_eq]
  have hmerge := Cst.callParts_of_lambda src call
    (.node inner [.node navigation children, .node arguments argumentRows]) lambda hinner hlambda
    hawaits
  rw [hparts] at hmerge
  exact hmerge

/-- Receiver, dot and selector of a navigation are its three children. -/
theorem navigation_children (hnamed : head.label.named = true)
    (hhead : (head.label.kind == "navigation_suffix") = false) (hdot : dot.IsToken src ".")
    (hconfig : config.IsIdentifier src "config") :
    Part.dotToken? src ([head, .node dot [], .node config []].map (Cst.toPart src)) =
        some (Cst.toPart src (.node dot [])) ∧
      Part.selector? ([head, .node dot [], .node config []].map (Cst.toPart src)) =
        some (Cst.toPart src (.node config [])) ∧
      ((([head, .node dot [], .node config []].map (Cst.toPart src)).filter Part.isNamed).head?.map
        Part.sketches).getD [] = Cst.sketches src head := by
  have hsuffix := hconfig.kind_ne "navigation_suffix" (by decide)
  refine ⟨?_, ?_, ?_⟩
  · simp [Part.dotToken?, Part.isDotToken, Cst.isNamed_toPart, Cst.isKind_toPart, Cst.row_toPart,
      hnamed, hhead, hdot.named, hdot.text_eq]
  · simp [Part.selector?, Cst.isNamed_toPart, Cst.isKind_toPart, Cst.row_toPart, hnamed, hdot.named,
      hconfig.named, hsuffix, hconfig.isIdentifier]
  · simp [Cst.isNamed_toPart, hnamed, hdot.named, hconfig.named, Cst.sketches]

/-- Whatever is configured, the dotted expression has it, the dot and the call of `config`. -/
theorem exists_sketch_of_configured (argumentRows : List Cst)
    (hcall : call.IsConstruct "call_expression")
    (hinner : inner.IsConstruct "call_expression")
    (hnavigation : navigation.IsConstruct "navigation_expression")
    (hnamed : head.label.named = true) (hhead : (head.label.kind == "navigation_suffix") = false)
    (hdot : dot.IsToken src ".") (hconfig : config.IsIdentifier src "config")
    (harguments : arguments.IsConstruct "value_arguments")
    (hlambda : lambda.label.IsConstruct "annotated_lambda") {body : Sketch}
    (hbody : Cst.sketches src lambda = [body]) :
    ∃ span dotSpan selectorSpan argumentsSpan, Cst.sketches src
        (.node call [.node inner [.node navigation [head, .node dot [], .node config []],
          .node arguments argumentRows], lambda]) =
      [.composite .dotQualifiedExpression span (Cst.sketches src head ++
        [.leaf .dot ['.'] dotSpan, .composite .callExpression selectorSpan
          [Part.nameReference src config, .composite .valueArgumentList argumentsSpan
            (argumentRows.flatMap (Cst.sketches src)), body]])] := by
  have hparts := callParts_of_configured src call argumentRows
    [head, .node dot [], .node config []] hinner hnavigation harguments hlambda
  obtain ⟨hdotToken, hselector, hreceiver⟩ := navigation_children hnamed hhead hdot hconfig
  rw [← RoseTree.children_node navigation [head, .node dot [], .node config []],
    ← Cst.children_toPart] at hdotToken hselector hreceiver
  obtain ⟨selectorSpan, hnode⟩ := Part.callNode_of_navigation src hparts
    (by rw [Cst.isNamed_toPart]; exact hnavigation.named)
    (by simp [Cst.isKind_toPart, hnavigation.kind_eq]) hdotToken hselector
  have hlist := harguments.sketches_of_plain rfl src argumentRows
  refine ⟨src.rowSpan call, src.rowSpan dot, selectorSpan, src.rowSpan arguments, ?_⟩
  have hfollowing : Part.sketchAll
      [Cst.toPart src (.node arguments argumentRows), Cst.toPart src lambda] =
      [.composite .valueArgumentList (src.rowSpan arguments)
        (argumentRows.flatMap (Cst.sketches src)), body] := by
    have hlast : Part.sketches (Cst.toPart src lambda) = [body] := hbody
    have hfirst : Part.sketches (Cst.toPart src (.node arguments argumentRows)) = _ := hlist
    rw [Part.sketchAll, List.flatMap_cons, List.flatMap_singleton, hfirst, hlast]
    rfl
  rw [hcall.sketches_of_call, hnode, hreceiver, hfollowing, Cst.row_toPart, Cst.row_toPart]
  rfl

end Configured

end KotestOutline
