import KotestOutline.Proofs.Suite.Yield

/-!
# What calls contribute

The call shapes as sketches: a test contributes its own entry, a container its entry and those of
its lambda one level deeper, and the pieces of a configured test nothing of their own.

A sketch is described by what every node that shows it satisfies (`Sketch.IsPiece`), so that the
shapes can be put together without looking into their pieces.
-/

namespace KotestOutline

variable {style : SpecStyle} {rules : NestedStyle} {membership : Membership} {outer : List String}

/-! ### Names of the functions -/

/-- In each nested style the functions for tests, for containers and for configuration differ. -/
theorem SpecStyle.functions_ne (h : style.nested? = some rules) :
    rules.testFn ≠ rules.containerFn ∧ rules.testFn ≠ configFunction ∧
      rules.containerFn ≠ configFunction := by
  cases style with
  | stringSpec => cases h
  | expectSpec => obtain rfl := Option.some.inj h; decide
  | funSpec => obtain rfl := Option.some.inj h; decide
  | shouldSpec => obtain rfl := Option.some.inj h; decide

/-- A call is of the function that its callee names. -/
theorem function_eq_of_namedCall {n callee : Node} {rest : List Node} {function name value : String}
    (h : namedCall function n = .ok value) (helements : n.elements = callee :: rest)
    (hname : isName callee name = true) : function = name := by
  obtain ⟨-, callee', arguments, lambda, helements', hname', -⟩ := namedCall_eq_ok_iff.1 h
  rw [helements, List.cons.injEq] at helements'
  rw [helements'.1] at hname
  exact (isName_eq_true_iff.1 hname').2.symm.trans (isName_eq_true_iff.1 hname).2

/-- A style with containers finds their names by its rules. -/
theorem SpecStyle.containerName?_of_nested? (h : style.nested? = some rules) :
    style.containerName? = rules.containerName? := by
  funext n
  rw [containerName?, h, Option.bind_some]

/-- A container has a name just if the style has containers and the node is a call of their
function. -/
theorem SpecStyle.containerName?_eq_some_iff {n : Node} {name : String} :
    style.containerName? n = some name ↔
      ∃ rules, style.nested? = some rules ∧ namedCall rules.containerFn n = .ok name := by
  rw [containerName?, Option.bind_eq_some_iff]
  apply exists_congr
  intro rules
  apply and_congr_right
  intro _
  unfold NestedStyle.containerName?
  cases namedCall rules.containerFn n <;> simp [Except.toOption]

/-- What is no call of the container function is no container. -/
theorem SpecStyle.containerName?_eq_none {n : Node}
    (h : ∀ rules, style.nested? = some rules → ∀ name, namedCall rules.containerFn n ≠ .ok name) :
    style.containerName? n = none := by
  apply Option.eq_none_iff_forall_ne_some.2
  intro name hname
  obtain ⟨rules, hnested, hcall⟩ := containerName?_eq_some_iff.1 hname
  exact h rules hnested name hcall

/-! ### Elements -/

/-- The elements of a node show the children of its sketch that are no tokens. -/
theorem Node.Shows.elements {n : Node} {s : Sketch} (h : n.Shows s)
    (hone : s.children.countP Sketch.isSuperTypeList ≤ 1) :
    List.Forall₂ Shows n.elements (s.children.filter fun u => !u.label.kind.isToken) := by
  apply List.rel_filter _ (h.children hone)
  intro c u hcu
  have hkind : c.kind = u.label.kind := Shows.kind_eq hcu
  simp only [hkind]

namespace Sketch

/-- Whether a sketch is neither a token nor a supertype list. -/
def IsElement (s : Sketch) : Prop :=
  s.label.kind.isToken = false ∧ s.label.kind ≠ .superTypeList

/-- A sketch of a kind that is neither that of a token nor that of a supertype list is an
element. -/
theorem IsElement.of_kind {s : Sketch} {kind : NodeKind} (h : s.label.kind = kind)
    (hkind : kind.isToken = false ∧ kind ≠ .superTypeList) : s.IsElement := by
  subst h
  exact hkind

/-- An element is no supertype list. -/
theorem IsElement.isSuperTypeList {s : Sketch} (h : s.IsElement) : s.isSuperTypeList = false := by
  unfold Sketch.isSuperTypeList
  simp [h.2]

/-- Among elements there is no supertype list. -/
theorem countP_of_isElement {ss : List Sketch} (h : ∀ s ∈ ss, s.IsElement) :
    ss.countP isSuperTypeList ≤ 1 := by
  have hzero : ss.countP isSuperTypeList = 0 :=
    countP_isSuperTypeList_eq_zero fun s hs => (h s hs).isSuperTypeList
  omega

/-- Where all children are elements, nothing is left out. -/
theorem elements_of_isElement {kind : NodeKind} {span : Span} {ss : List Sketch} {n : Node}
    (h : n.Shows (.composite kind span ss)) (hss : ∀ s ∈ ss, s.IsElement) :
    List.Forall₂ Node.Shows n.elements ss := by
  have hshow := h.elements (countP_of_isElement hss)
  have hall : ss.filter (fun u => !u.label.kind.isToken) = ss := by
    apply List.filter_eq_self.2
    intro s hs
    simp [(hss s hs).1]
  rwa [composite, RoseTree.children_node, hall] at hshow

/-! ### Pieces of a call -/

/-- Whether a sketch has a kind, and every node that shows it a property. -/
structure IsPiece (kind : NodeKind) (property : Node → Prop) (s : Sketch) : Prop where
  kind_eq : s.label.kind = kind
  holds : ∀ n : Node, n.Shows s → property n

/-- Whether a piece has no call in it. -/
structure IsQuietPiece (kind : NodeKind) (property : Node → Prop) (s : Sketch) : Prop
    extends IsPiece kind property s where
  callFree : s.Everywhere IsCallFree

/-- A reference to a function. -/
abbrev IsReferenceTo (function : String) : Sketch → Prop :=
  IsQuietPiece .nameReference fun n => isName n function = true

/-- A string literal with a value. -/
abbrev IsStringOf (value : String) : Sketch → Prop :=
  IsQuietPiece .stringTemplate fun n => stringLiteralValue n = .ok value

/-- An argument list that is one literal with a value. -/
abbrev IsArgumentsOf (value : String) : Sketch → Prop :=
  IsQuietPiece .valueArgumentList fun n => singleStringArgument n = .ok value

/-- A complete trailing lambda, which may hold declarations. -/
abbrev IsTrailing : Sketch → Prop :=
  IsPiece .lambdaArgument fun n => isTrailingLambda n = true

variable {callee arguments lambda template : Sketch} {span : Span} {function name : String}
  {entries : List ListingEntry}

/-- Callee, arguments and lambda are elements. -/
theorem isElement_call_pieces (hcallee : callee.label.kind = .nameReference)
    (harguments : arguments.label.kind = .valueArgumentList)
    (hlambda : lambda.label.kind = .lambdaArgument) :
    ∀ s ∈ [callee, arguments, lambda], s.IsElement := by
  have h₁ : callee.IsElement := .of_kind hcallee (by decide)
  have h₂ : arguments.IsElement := .of_kind harguments (by decide)
  have h₃ : lambda.IsElement := .of_kind hlambda (by decide)
  simp [h₁, h₂, h₃]

/-- A call of callee, arguments and lambda has just these as its elements. -/
theorem elements_of_call (hcallee : callee.label.kind = .nameReference)
    (harguments : arguments.label.kind = .valueArgumentList)
    (hlambda : lambda.label.kind = .lambdaArgument) {n : Node}
    (h : n.Shows (.composite .callExpression span [callee, arguments, lambda])) :
    ∃ a b c, n.elements = [a, b, c] ∧ a.Shows callee ∧ b.Shows arguments ∧ c.Shows lambda :=
  shows_triple (elements_of_isElement h (isElement_call_pieces hcallee harguments hlambda))

/-- A match contributes its entry and what its children contribute, which are one container deeper
if it is one. -/
theorem yields_of_match {s : Sketch} {kind : TestKind} (extra : List String)
    (hclass : s.label.kind.isClassOrObject = false)
    (hone : s.children.countP isSuperTypeList ≤ 1)
    (hmatch : ∀ n : Node, n.Shows s → n.Inside style membership outer →
      style.tryMatch n = .ok (.ofNode n name outer kind))
    (hextra : ∀ n : Node, n.Shows s →
      (if n.is .callExpression then (style.containerName? n).toList else []) = extra)
    (h : YieldsAll style membership (outer ++ extra) s.children entries) :
    Yields style membership outer s (.declared kind name outer :: entries) := by
  intro n hshow hinside
  have hkind : n.kind.isClassOrObject = false := by rw [hshow.kind_eq, hclass]
  have hchildren : ∀ c ∈ n.children, c.Inside style membership (outer ++ extra) := by
    intro c hc
    rw [← hextra n hshow]
    exact hinside.of_mem_children hkind hc
  rw [Node.entriesAt_eq hkind, hinside.recognize?_eq_some (hmatch n hshow hinside), Option.map_some,
    RecognizedTest.entry_ofNode, h n.children (hshow.children hone) hchildren]
  rfl

/-! ### Nested styles -/

section Nested

/-- A node that shows a name, an argument list with one string and a lambda is a call of that
name. -/
theorem namedCall_of_pieces (hcallee : callee.IsReferenceTo function)
    (harguments : arguments.IsArgumentsOf name) (hlambda : lambda.IsTrailing) {n : Node}
    (h : n.Shows (.composite .callExpression span [callee, arguments, lambda])) :
    namedCall function n = .ok name := by
  obtain ⟨a, b, c, helements, ha, hb, hc⟩ :=
    elements_of_call hcallee.kind_eq harguments.kind_eq hlambda.kind_eq h
  refine namedCall_eq_ok_iff.2 ⟨h.kind_eq, a, b, c, helements, hcallee.holds a ha, ?_,
    hlambda.holds c hc, harguments.holds b hb⟩
  rw [hb.kind_eq, harguments.kind_eq]

/-- A node that shows a call of one name is no call of another. -/
theorem namedCall_ne_ok {other value : String} (hcallee : callee.IsReferenceTo function)
    (harguments : arguments.label.kind = .valueArgumentList) (hlambda : lambda.IsTrailing)
    (hne : other ≠ function) {n : Node}
    (h : n.Shows (.composite .callExpression span [callee, arguments, lambda])) :
    namedCall other n ≠ .ok value := by
  intro hcall
  obtain ⟨a, b, c, helements, ha, -, -⟩ :=
    elements_of_call hcallee.kind_eq harguments hlambda.kind_eq h
  exact hne (function_eq_of_namedCall hcall helements (hcallee.holds a ha))

/-- A node inside some containers that matches the rules for containers matches with the names of
these. -/
theorem tryMatch_eq_build {n : Node} {kind : TestKind} (hnested : style.nested? = some rules)
    (hinside : n.Inside style membership outer)
    (h : rules.tryMatch n = .ok (rules.build n kind name)) :
    style.tryMatch n = .ok (.ofNode n name outer kind) := by
  have hbuild : rules.build n kind name = .ofNode n name outer kind := by
    rw [NestedStyle.build, ← SpecStyle.containerName?_of_nested? hnested, hinside.containers]
  rw [SpecStyle.tryMatch_of_nested? hnested, h, hbuild]

/-- In a call of a function, only the lambda contributes to the listing. -/
theorem yieldsAll_call_pieces (hcallee : callee.IsReferenceTo function)
    (harguments : arguments.Everywhere IsCallFree)
    (hbody : Yields style membership outer lambda entries) :
    YieldsAll style membership outer [callee, arguments, lambda] entries := by
  have hpieces : ∀ s ∈ [callee, arguments], s.Everywhere IsCallFree := by
    intro s hs
    rcases List.mem_pair.1 hs with rfl | rfl
    · exact hcallee.callFree
    · exact harguments
  exact YieldsAll.append_left hpieces (yieldsAll_singleton hbody)

/-- A call of the test function is a test. -/
theorem yields_test (hnested : style.nested? = some rules)
    (hcallee : callee.IsReferenceTo rules.testFn) (harguments : arguments.IsArgumentsOf name)
    (hlambda : lambda.IsTrailing) (hbody : Yields style membership outer lambda []) :
    Yields style membership outer (.composite .callExpression span [callee, arguments, lambda])
      [.declared .test name outer] := by
  refine yields_of_match [] rfl
    (countP_of_isElement
      (isElement_call_pieces hcallee.kind_eq harguments.kind_eq hlambda.kind_eq)) ?_ ?_ ?_
  · intro n hshow hinside
    exact tryMatch_eq_build hnested hinside (NestedStyle.tryMatch_eq_ok_iff.2
      (Or.inl ⟨name, namedCall_of_pieces hcallee harguments hlambda hshow, rfl⟩))
  · intro n hshow
    have hnone : style.containerName? n = none := by
      apply SpecStyle.containerName?_eq_none
      intro rules' hrules' value
      obtain rfl := Option.some.inj (hnested.symm.trans hrules')
      exact namedCall_ne_ok hcallee harguments.kind_eq hlambda
        (SpecStyle.functions_ne hnested).1.symm hshow
    rw [hnone, Option.toList_none, ite_self]
  · rw [List.append_nil]
    exact yieldsAll_call_pieces hcallee harguments.callFree hbody

/-- A call of the container function is a container, with what its lambda holds inside it. -/
theorem yields_container (hnested : style.nested? = some rules)
    (hcallee : callee.IsReferenceTo rules.containerFn) (harguments : arguments.IsArgumentsOf name)
    (hlambda : lambda.IsTrailing)
    (hbody : Yields style membership (outer ++ [name]) lambda entries) :
    Yields style membership outer (.composite .callExpression span [callee, arguments, lambda])
      (.declared .container name outer :: entries) := by
  refine yields_of_match [name] rfl
    (countP_of_isElement
      (isElement_call_pieces hcallee.kind_eq harguments.kind_eq hlambda.kind_eq)) ?_ ?_
    (yieldsAll_call_pieces hcallee harguments.callFree hbody)
  · intro n hshow hinside
    refine tryMatch_eq_build hnested hinside (NestedStyle.tryMatch_eq_ok_iff.2 (Or.inr (Or.inl
      ⟨fun value => ?_, name, namedCall_of_pieces hcallee harguments hlambda hshow, rfl⟩)))
    exact namedCall_ne_ok hcallee harguments.kind_eq hlambda
      (SpecStyle.functions_ne hnested).1 hshow
  · intro n hshow
    have hname : style.containerName? n = some name := SpecStyle.containerName?_eq_some_iff.2
      ⟨rules, hnested, namedCall_of_pieces hcallee harguments hlambda hshow⟩
    rw [hshow.is_eq, hname]
    rfl

end Nested

/-! ### Configuration -/

section Configured

variable {receiver selector reference : Sketch} {dotSpan selectorSpan : Span}

/-- The call of `config` at the end of a dotted expression. -/
theorem isConfigCall_of_pieces (hreference : reference.IsReferenceTo configFunction)
    (harguments : arguments.label.kind = .valueArgumentList)
    (hfree : arguments.Everywhere IsCallFree) (hlambda : lambda.IsTrailing) {n : Node}
    (h : n.Shows (.composite .callExpression span [reference, arguments, lambda])) :
    isConfigCall n configFunction = true := by
  obtain ⟨a, b, c, helements, ha, hb, hc⟩ :=
    elements_of_call hreference.kind_eq harguments hlambda.kind_eq h
  have hmissing : b.hasMissingChild = false := hasMissingChild_of_shows hfree hb
  have hcall : n.is .callExpression = true := h.is_eq _
  have harguments' : b.is .valueArgumentList = true := by
    rw [hb.is_eq, harguments]
    rfl
  rw [isConfigCall, hcall, helements]
  simp [hreference.holds a ha, harguments', hmissing, hlambda.holds c hc]

/-- The call of `config` is nothing of its own. -/
theorem yields_selector (hreference : reference.IsReferenceTo configFunction)
    (harguments : arguments.label.kind = .valueArgumentList)
    (hfree : arguments.Everywhere IsCallFree) (hlambda : lambda.IsTrailing)
    (hbody : Yields style membership outer lambda entries) :
    Yields style membership outer (.composite .callExpression span [reference, arguments, lambda])
      entries := by
  refine yields_of_children rfl
    (countP_of_isElement
      (isElement_call_pieces hreference.kind_eq harguments hlambda.kind_eq)) ?_ ?_
    (yieldsAll_call_pieces hreference hfree hbody)
  · intro n hshow t ht
    rcases (SpecStyle.tryMatch_eq_ok ht).1 with
      ⟨rules, function, value, hnested, hfunction, hcall⟩ |
      ⟨-, value, hstring⟩ | ⟨hkind, -⟩
    · obtain ⟨-, htest, hcontainer⟩ := SpecStyle.functions_ne hnested
      rcases hfunction with rfl | rfl
      · exact namedCall_ne_ok hreference harguments hlambda htest hshow hcall
      · exact namedCall_ne_ok hreference harguments hlambda hcontainer hshow hcall
    · obtain ⟨-, template, body, helements, -⟩ := stringCall_eq_ok_iff.1 hstring
      obtain ⟨a, b, c, helements', -⟩ :=
        elements_of_call hreference.kind_eq harguments hlambda.kind_eq hshow
      rw [helements] at helements'
      cases helements'
    · rw [hshow.kind_eq] at hkind
      cases hkind
  · intro n hshow _
    apply SpecStyle.containerName?_eq_none
    intro rules hnested value
    exact namedCall_ne_ok hreference harguments hlambda (SpecStyle.functions_ne hnested).2.2 hshow

/-- A dotted expression holds no supertype list. -/
theorem countP_dotted (hreceiver : receiver.IsElement)
    (hselector : selector.label.kind = .callExpression) :
    [receiver, .leaf .dot ['.'] dotSpan, selector].countP isSuperTypeList ≤ 1 := by
  have hlist := hreceiver.isSuperTypeList
  unfold isSuperTypeList at hlist ⊢
  simp [leaf, hlist, hselector]

/-- A dotted expression has receiver and selector as its elements. -/
theorem elements_of_dotted (hreceiver : receiver.IsElement)
    (hselector : selector.label.kind = .callExpression) {n : Node}
    (h : n.Shows (.composite .dotQualifiedExpression span
      [receiver, .leaf .dot ['.'] dotSpan, selector])) :
    ∃ a b, n.elements = [a, b] ∧ a.Shows receiver ∧ b.Shows selector := by
  have hshow := h.elements (countP_dotted hreceiver hselector)
  have hdot : NodeKind.dot.isToken = true := rfl
  have hcall : NodeKind.callExpression.isToken = false := rfl
  simp only [composite, leaf, RoseTree.children_node, RoseTree.label_node, List.filter_cons,
    hreceiver.1, hselector, hdot, hcall, Bool.not_false, Bool.not_true, if_true,
    Bool.false_eq_true, if_false, List.filter_nil] at hshow
  exact shows_pair hshow

/-- A configured test contributes its own entry; receiver and selector contribute nothing. -/
theorem yields_configured (hreceiver : receiver.IsElement)
    (hselector : selector.label.kind = .callExpression)
    (hmatch : ∀ n : Node, n.Shows (.composite .dotQualifiedExpression span
        [receiver, .leaf .dot ['.'] dotSpan, selector]) → n.Inside style membership outer →
      style.tryMatch n = .ok (.ofNode n name outer .test))
    (hreceiverYields : Yields style membership outer receiver [])
    (hselectorYields : Yields style membership outer selector []) :
    Yields style membership outer (.composite .dotQualifiedExpression span
      [receiver, .leaf .dot ['.'] dotSpan, selector]) [.declared .test name outer] := by
  refine yields_of_match [] rfl (countP_dotted hreceiver hselector) hmatch ?_ ?_
  · intro n hshow
    have hcall : n.is .callExpression = false := hshow.is_eq _
    rw [hcall, if_neg Bool.false_ne_true]
  · rw [List.append_nil]
    have hdot : Everywhere IsCallFree (.leaf .dot ['.'] dotSpan) :=
      lowers_isCallFree.everywhere_leaf _ _ rfl
    exact YieldsAll.cons hreceiverYields (YieldsAll.cons (yields_nil hdot)
      (YieldsAll.cons hselectorYields yieldsAll_nil))

/-- The name and the argument list of a call are elements. -/
theorem isElement_plainCall_pieces (hcallee : callee.IsReferenceTo function)
    (harguments : arguments.IsArgumentsOf name) : ∀ s ∈ [callee, arguments], s.IsElement := by
  have h₁ : callee.IsElement := .of_kind hcallee.kind_eq (by decide)
  have h₂ : arguments.IsElement := .of_kind harguments.kind_eq (by decide)
  simp [h₁, h₂]

/-- The call that a configuration follows. -/
theorem plainCall_of_pieces (hcallee : callee.IsReferenceTo function)
    (harguments : arguments.IsArgumentsOf name) {n : Node}
    (h : n.Shows (.composite .callExpression span [callee, arguments])) :
    n.elements.length = 2 ∧ plainCall function n = .ok name := by
  obtain ⟨a, b, helements, ha, hb⟩ :=
    shows_pair (elements_of_isElement h (isElement_plainCall_pieces hcallee harguments))
  refine ⟨by rw [helements]; rfl, plainCall_eq_ok_iff.2
    ⟨h.kind_eq, a, b, helements, hcallee.holds a ha, ?_, harguments.holds b hb⟩⟩
  rw [hb.kind_eq, harguments.kind_eq]

/-- In a nested style a call without lambda is nothing of its own. -/
theorem yields_plainCall (hnested : style.nested? = some rules)
    (hcallee : callee.IsReferenceTo function) (harguments : arguments.IsArgumentsOf name) :
    Yields style membership outer (.composite .callExpression span [callee, arguments]) [] := by
  have hnot : ∀ n : Node, n.Shows (.composite .callExpression span [callee, arguments]) →
      ∀ function value, namedCall function n ≠ .ok value := by
    intro n hshow other value hcall
    obtain ⟨-, a, b, c, helements, -⟩ := namedCall_eq_ok_iff.1 hcall
    have hlength := (plainCall_of_pieces hcallee harguments hshow).1
    rw [helements] at hlength
    cases hlength
  refine yields_of_children rfl
    (countP_of_isElement (isElement_plainCall_pieces hcallee harguments)) ?_ ?_ ?_
  · intro n hshow t ht
    rcases (SpecStyle.tryMatch_eq_ok ht).1 with ⟨_, other, value, -, -, hcall⟩ | ⟨hflat, -⟩ |
      ⟨hkind, -⟩
    · exact hnot n hshow other value hcall
    · rw [hnested] at hflat
      cases hflat
    · rw [hshow.kind_eq] at hkind
      cases hkind
  · intro n hshow _
    apply SpecStyle.containerName?_eq_none
    intro rules' _ value
    exact hnot n hshow rules'.containerFn value
  · apply yieldsAll_nil_of_forall
    intro s hs
    rcases List.mem_pair.1 hs with rfl | rfl
    · exact hcallee.callFree
    · exact harguments.callFree

/-- A configured call of the test function is a test. -/
theorem yields_configuredCall (hnested : style.nested? = some rules)
    (hcallee : callee.IsReferenceTo rules.testFn) (hname : arguments.IsArgumentsOf name)
    {selectorArguments : Sketch} {receiverSpan : Span}
    (hreference : reference.IsReferenceTo configFunction)
    (harguments : selectorArguments.label.kind = .valueArgumentList)
    (hfree : selectorArguments.Everywhere IsCallFree) (hlambda : lambda.IsTrailing)
    (hbody : Yields style membership outer lambda []) :
    Yields style membership outer (.composite .dotQualifiedExpression span
      [.composite .callExpression receiverSpan [callee, arguments], .leaf .dot ['.'] dotSpan,
        .composite .callExpression selectorSpan [reference, selectorArguments, lambda]])
      [.declared .test name outer] := by
  have hreceiver : IsElement (.composite .callExpression receiverSpan [callee, arguments]) :=
    ⟨rfl, by rintro ⟨⟩⟩
  refine yields_configured hreceiver rfl ?_ (yields_plainCall hnested hcallee hname)
    (yields_selector hreference harguments hfree hlambda hbody)
  intro n hshow hinside
  obtain ⟨a, b, helements, ha, hb⟩ := elements_of_dotted hreceiver rfl hshow
  refine tryMatch_eq_build hnested hinside (NestedStyle.tryMatch_eq_ok_iff.2
    (Or.inr (Or.inr
      ⟨name, configuredCall_eq_ok_iff.2 ⟨hshow.kind_eq, a, b, helements, ?_, ?_⟩, rfl⟩)))
  · exact isConfigCall_of_pieces hreference harguments hfree hlambda hb
  · exact (plainCall_of_pieces hcallee hname ha).2

end Configured

/-! ### The flat style -/

section Flat

/-- A node inside some containers that matches the rules of flat styles matches with the names of
these. -/
theorem tryMatch_eq_ofNode {n : Node} (hflat : style.nested? = none)
    (hinside : n.Inside style membership outer)
    (h : FlatStyle.tryMatch n = .ok (.ofNode n name [] .test)) :
    style.tryMatch n = .ok (.ofNode n name outer .test) := by
  have houter : outer = [] := by
    have hnone : ∀ m, style.containerName? m = none := by
      intro m
      rw [SpecStyle.containerName?, hflat, Option.bind_none]
    rw [← hinside.containers, containerNames,
      List.filterMap_eq_nil_iff.2 fun m _ => hnone m, List.reverse_nil]
  rw [SpecStyle.tryMatch_of_flat hflat, h, houter]

/-- A string with a lambda is a test. -/
theorem yields_stringCall (hflat : style.nested? = none) (htemplate : template.IsStringOf name)
    (hlambda : lambda.IsTrailing) (hbody : Yields style membership outer lambda []) :
    Yields style membership outer (.composite .callExpression span [template, lambda])
      [.declared .test name outer] := by
  have hpieces : ∀ s ∈ [template, lambda], s.IsElement := by
    have h₁ : template.IsElement := .of_kind htemplate.kind_eq (by decide)
    have h₂ : lambda.IsElement := .of_kind hlambda.kind_eq (by decide)
    simp [h₁, h₂]
  refine yields_of_match [] rfl (countP_of_isElement hpieces) ?_ ?_ ?_
  · intro n hshow hinside
    obtain ⟨a, b, helements, ha, hb⟩ := shows_pair (elements_of_isElement hshow hpieces)
    refine tryMatch_eq_ofNode hflat hinside
      (FlatStyle.tryMatch_eq_ok_iff.2 (Or.inl ⟨name, ?_, rfl⟩))
    exact stringCall_eq_ok_iff.2 ⟨hshow.kind_eq, a, b, helements, hlambda.holds b hb,
      htemplate.holds a ha⟩
  · intro n _
    rw [SpecStyle.containerName?, hflat, Option.bind_none, Option.toList_none, ite_self]
  · rw [List.append_nil]
    exact YieldsAll.cons (yields_nil htemplate.callFree) (YieldsAll.cons hbody yieldsAll_nil)

/-- A configured string is a test. -/
theorem yields_configuredString {reference : Sketch} {dotSpan selectorSpan : Span}
    (hflat : style.nested? = none) (htemplate : template.IsStringOf name)
    (hreference : reference.IsReferenceTo configFunction)
    (harguments : arguments.label.kind = .valueArgumentList)
    (hfree : arguments.Everywhere IsCallFree) (hlambda : lambda.IsTrailing)
    (hbody : Yields style membership outer lambda []) :
    Yields style membership outer (.composite .dotQualifiedExpression span
      [template, .leaf .dot ['.'] dotSpan,
        .composite .callExpression selectorSpan [reference, arguments, lambda]])
      [.declared .test name outer] := by
  have hreceiver : template.IsElement := .of_kind htemplate.kind_eq (by decide)
  refine yields_configured hreceiver rfl ?_ (yields_nil htemplate.callFree)
    (yields_selector hreference harguments hfree hlambda hbody)
  intro n hshow hinside
  obtain ⟨a, b, helements, ha, hb⟩ := elements_of_dotted hreceiver rfl hshow
  refine tryMatch_eq_ofNode hflat hinside (FlatStyle.tryMatch_eq_ok_iff.2 (Or.inr ⟨name, ?_, rfl⟩))
  exact configuredString_eq_ok_iff.2 ⟨hshow.kind_eq, a, b, helements,
    isConfigCall_of_pieces hreference harguments hfree hlambda hb, htemplate.holds a ha⟩

end Flat

end Sketch

end KotestOutline
