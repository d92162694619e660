import KotestOutline.Proofs.Recognition.LiteralGrammar
import KotestOutline.Proofs.Recognition.Outcome

/-!
# Forms of declarations

The written forms in which a style declares, and that no two styles share one.
-/

namespace KotestOutline

/-!
## The forms of a declaration

Tests and containers are written in four forms: a call of a function or of a string, with a lambda
or configured. The form of a node is the same for all styles; a style only says which forms it takes
for a declaration (`SpecStyle.declares?`).

* `Node.HasForm` says what it takes to be of a form, and `Node.HasForm.unique` that no node is of
  two.
* `SpecStyle.outcome_of_hasForm` and `SpecStyle.outcome_of_not_hasForm`: what a style reads of a
  node is the name in its form, if it takes the form for a declaration.
* `SpecStyle.tryMatch_eq_shape_iff`: a node is rejected for its shape if it has no form that counts
  in the style.
-/

section

/-- A way to write a test or a container, with the node that has the name in it. -/
inductive CallForm where
  | named (function : String) (arguments : Node)
  | string (template : Node)
  | configuredNamed (function : String) (arguments : Node)
  | configuredString (template : Node)

/-- The name in a form. -/
def CallForm.value : CallForm → MatchResult String
  | named _ arguments => singleStringArgument arguments
  | string template => stringLiteralValue template
  | configuredNamed _ arguments => singleStringArgument arguments
  | configuredString template => stringLiteralValue template

/-- The function that is called in a form, if any. -/
def CallForm.function? : CallForm → Option String
  | named function _ => some function
  | string _ => none
  | configuredNamed function _ => some function
  | configuredString _ => none

/-- What a node of a form declares in a style, if anything. -/
def SpecStyle.declares? (style : SpecStyle) (form : CallForm) : Option TestKind :=
  match style.nested?, form with
  | some rules, .named function _ =>
    if function = rules.testFn then some .test
    else if function = rules.containerFn then some .container else none
  | some rules, .configuredNamed function _ => if function = rules.testFn then some .test else none
  | none, .string _ => some .test
  | none, .configuredString _ => some .test
  | _, _ => none

/-- The callee and the complete argument list of a call. -/
structure IsHead (callee arguments : Node) (function : String) : Prop where
  name : isName callee function = true
  kind : arguments.kind = .valueArgumentList
  complete : arguments.hasMissingChild = false

/-- What a node of a form is made of. -/
inductive Node.HasForm (n : Node) : CallForm → Prop where
  | named {callee arguments lambda : Node} {function : String}
      (kind : n.kind = .callExpression) (elements : n.elements = [callee, arguments, lambda])
      (head : IsHead callee arguments function) (block : isTrailingLambda lambda = true) :
      n.HasForm (.named function arguments)
  | string {template lambda : Node}
      (kind : n.kind = .callExpression) (elements : n.elements = [template, lambda])
      (head : template.kind = .stringTemplate) (block : isTrailingLambda lambda = true) :
      n.HasForm (.string template)
  | configuredNamed {call selector callee arguments : Node} {function : String}
      (kind : n.kind = .dotQualifiedExpression) (operands : n.elements = [call, selector])
      (config : isConfigCall selector configFunction = true)
      (isCall : call.kind = .callExpression) (elements : call.elements = [callee, arguments])
      (head : IsHead callee arguments function) : n.HasForm (.configuredNamed function arguments)
  | configuredString {template selector : Node}
      (kind : n.kind = .dotQualifiedExpression) (operands : n.elements = [template, selector])
      (config : isConfigCall selector configFunction = true)
      (head : template.kind = .stringTemplate) : n.HasForm (.configuredString template)

variable {style : SpecStyle} {rules : NestedStyle} {n : Node} {form form' : CallForm}
  {function other : String}

/-- A callee has one name, whatever argument list is behind it. -/
theorem IsHead.function_eq {callee arguments arguments' : Node}
    (h : IsHead callee arguments function) (h' : IsHead callee arguments' other) :
    function = other :=
  (isName_eq_true_iff.1 h.name).2.symm.trans (isName_eq_true_iff.1 h'.name).2

/-- A node has at most one form. -/
theorem Node.HasForm.unique (h : n.HasForm form) (h' : n.HasForm form') : form = form' := by
  cases h with
  | named kind elements head =>
    cases h' with
    | named _ elements' head' =>
      cases elements.symm.trans elements'
      rw [head.function_eq head']
    | string _ elements' => cases elements.symm.trans elements'
    | configuredNamed kind' | configuredString kind' => cases kind.symm.trans kind'
  | string kind elements =>
    cases h' with
    | named _ elements' => cases elements.symm.trans elements'
    | string _ elements' =>
      cases elements.symm.trans elements'
      rfl
    | configuredNamed kind' | configuredString kind' => cases kind.symm.trans kind'
  | configuredNamed kind operands _ isCall elements head =>
    cases h' with
    | named kind' | string kind' => cases kind.symm.trans kind'
    | configuredNamed _ operands' _ _ elements' head' =>
      cases operands.symm.trans operands'
      cases elements.symm.trans elements'
      rw [head.function_eq head']
    | configuredString _ operands' _ head' =>
      cases operands.symm.trans operands'
      cases isCall.symm.trans head'
  | configuredString kind operands _ head =>
    cases h' with
    | named kind' | string kind' => cases kind.symm.trans kind'
    | configuredNamed _ operands' _ isCall' =>
      cases operands.symm.trans operands'
      cases head.symm.trans isCall'
    | configuredString _ operands' =>
      cases operands.symm.trans operands'
      rfl

/-! ### Declarations of a style -/

/-- The forms of a test are those of the test function, or of strings in the flat style. -/
theorem SpecStyle.declares?_eq_test_iff :
    style.declares? form = some .test ↔ style.nested?.map NestedStyle.testFn = form.function? := by
  unfold declares?
  cases style.nested? <;> cases form <;> simp [CallForm.function?, eq_comm]

/-- The form of a container is a call of the container function with a lambda. -/
theorem SpecStyle.declares?_eq_container_iff :
    style.declares? form = some .container ↔
      ∃ rules arguments, style.nested? = some rules ∧
        form = .named rules.containerFn arguments := by
  unfold declares?
  cases hnested : style.nested? with
  | none => cases form <;> simp
  | some rules =>
    obtain ⟨hdistinct, -⟩ := functions_ne hnested
    cases form with
    | named function arguments =>
      by_cases htest : function = rules.testFn
      · simp [htest, hdistinct]
      · simp [htest]
    | string | configuredNamed | configuredString => simp

/-! ### Names in forms -/

/-- A complete argument list is rejected, if at all, for what is in it. -/
theorem singleStringArgument_ne_shape {arguments : Node} (h : arguments.hasMissingChild = false) :
    singleStringArgument arguments ≠ .error .shape := by
  unfold singleStringArgument
  rw [if_neg (by rw [h]; exact Bool.false_ne_true)]
  split
  · split
    · split
      next htemplate =>
        rw [Ne, stringLiteralValue_eq_shape_iff, not_not]
        exact beq_iff_eq.1 htemplate
      · exact fun h => nomatch h
    · exact fun h => nomatch h
  · exact fun h => nomatch h

/-- What is of a form has a name in it, or something that is no literal. -/
theorem Node.HasForm.value_ne_shape (h : n.HasForm form) : form.value ≠ .error .shape := by
  cases h with
  | named _ _ head => exact singleStringArgument_ne_shape head.complete
  | string _ _ head => exact fun h => stringLiteralValue_eq_shape_iff.1 h head
  | configuredNamed _ _ _ _ _ head => exact singleStringArgument_ne_shape head.complete
  | configuredString _ _ _ head => exact fun h => stringLiteralValue_eq_shape_iff.1 h head

/-! ### What the matchers read of forms -/

section Matchers

variable {callee arguments lambda : Node}

/-- A callee is asked for its own name and no other. -/
theorem IsHead.isName_eq (h : IsHead callee arguments function) :
    isName callee other = (function == other) := by
  obtain ⟨hkind, rfl⟩ := isName_eq_true_iff.1 h.name
  simp [isName, Node.is, hkind]

/-- A call of the named form is a test or a container if the function is the one that is looked for,
and its name is in the argument list. -/
theorem namedCall_of_head (kind : n.kind = .callExpression)
    (elements : n.elements = [callee, arguments, lambda]) (head : IsHead callee arguments function)
    (block : isTrailingLambda lambda = true) :
    namedCall other n = if function = other then singleStringArgument arguments
      else .error .shape := by
  unfold namedCall
  rw [elements]
  simp [Node.is, kind, head.isName_eq, head.kind, block]

/-- A call without a lambda is read if its function is the one that is looked for. -/
theorem plainCall_of_head (kind : n.kind = .callExpression)
    (elements : n.elements = [callee, arguments]) (head : IsHead callee arguments function) :
    plainCall other n = if function = other then singleStringArgument arguments
      else .error .shape := by
  unfold plainCall
  rw [elements]
  simp [Node.is, kind, head.isName_eq, head.kind]

/-- A chain with a call of `config` at its end is read as its receiver. -/
theorem configuredCall_of_operands {receiver selector : Node}
    (kind : n.kind = .dotQualifiedExpression) (operands : n.elements = [receiver, selector])
    (config : isConfigCall selector configFunction = true) :
    configuredCall function configFunction n = plainCall function receiver := by
  simp [configuredCall, dotParts, Node.is, kind, operands, config, bind, Except.bind]

/-- A chain on a string with a call of `config` at its end is named by the string. -/
theorem configuredString_of_operands {receiver selector : Node}
    (kind : n.kind = .dotQualifiedExpression) (operands : n.elements = [receiver, selector])
    (config : isConfigCall selector configFunction = true) :
    configuredString configFunction n =
      if receiver.is .stringTemplate then stringLiteralValue receiver else .error .shape := by
  simp [configuredString, dotParts, Node.is, kind, operands, config, bind, Except.bind]

/-- Without a form, a call is of no function. -/
theorem namedCall_of_not_hasForm (h : ∀ form, ¬ n.HasForm form) :
    namedCall function n = .error .shape := by
  unfold namedCall
  split
  · rfl
  next hkind =>
    split
    next callee arguments lambda elements =>
      split
      next hparts =>
        simp only [Bool.and_eq_true, Node.is, beq_iff_eq] at hparts
        cases hmissing : arguments.hasMissingChild with
        | true => rw [singleStringArgument, if_pos hmissing]
        | false =>
          refine absurd (.named ?_ elements ⟨hparts.1.1, hparts.1.2, hmissing⟩ hparts.2)
            (h (.named function arguments))
          simpa [Node.is] using hkind
      · rfl
    · rfl

/-- What is no call of a function with arguments has the wrong shape for a receiver. -/
theorem plainCall_eq_shape
    (h : ∀ callee arguments, n.kind = .callExpression → n.elements = [callee, arguments] →
      ¬ IsHead callee arguments function) : plainCall function n = .error .shape := by
  unfold plainCall
  split
  · rfl
  next hkind =>
    split
    next callee arguments elements =>
      split
      next hparts =>
        simp only [Bool.and_eq_true, Node.is, beq_iff_eq] at hparts
        cases hmissing : arguments.hasMissingChild with
        | true => rw [singleStringArgument, if_pos hmissing]
        | false =>
          refine absurd ⟨hparts.1, hparts.2, hmissing⟩ (h callee arguments ?_ elements)
          simpa [Node.is] using hkind
      · rfl
    · rfl

/-- A node of no form is no call of a string. -/
theorem stringCall_of_not_hasForm (h : ∀ form, ¬ n.HasForm form) :
    stringCall n = .error .shape := by
  unfold stringCall
  split
  · rfl
  next hkind =>
    split
    next template lambda elements =>
      split
      next hparts =>
        simp only [Bool.and_eq_true, Node.is, beq_iff_eq] at hparts
        refine absurd (.string ?_ elements hparts.1 hparts.2) (h (.string template))
        simpa [Node.is] using hkind
      · rfl
    · rfl

/-- A node of no form is no chain on a call. -/
theorem configuredCall_of_not_hasForm (h : ∀ form, ¬ n.HasForm form) :
    configuredCall function configFunction n = .error .shape := by
  unfold configuredCall dotParts
  split
  · rfl
  next hkind =>
    split
    next receiver selector operands =>
      show (if isConfigCall selector configFunction then plainCall function receiver
        else .error .shape) = .error .shape
      split
      next hconfig =>
        apply plainCall_eq_shape
        intro callee arguments hcall elements head
        refine h (.configuredNamed function arguments)
          (.configuredNamed ?_ operands hconfig hcall elements head)
        simpa [Node.is] using hkind
      · rfl
    · rfl

/-- A node of no form is no chain on a string. -/
theorem configuredString_of_not_hasForm (h : ∀ form, ¬ n.HasForm form) :
    configuredString configFunction n = .error .shape := by
  unfold configuredString dotParts
  split
  · rfl
  next hkind =>
    split
    next template selector operands =>
      show (if template.is .stringTemplate && isConfigCall selector configFunction then
        stringLiteralValue template else .error .shape) = .error .shape
      split
      next hparts =>
        simp only [Bool.and_eq_true, Node.is, beq_iff_eq] at hparts
        refine absurd (.configuredString ?_ operands hparts.2 hparts.1)
          (h (.configuredString template))
        simpa [Node.is] using hkind
      · rfl
    · rfl

end Matchers

/-! ### What a style reads of forms -/

/-- A node without a form declares nothing. -/
theorem SpecStyle.outcome_of_not_hasForm (h : ∀ form, ¬ n.HasForm form) :
    style.outcome n = .error .shape := by
  by_cases hcall : n.kind = .callExpression
  · rw [outcome_of_call hcall]
    cases style.nested? with
    | none => rw [Option.elim_none, stringCall_of_not_hasForm h]; rfl
    | some rules =>
      rw [Option.elim_some, NestedStyle.callOutcome, namedCall_of_not_hasForm h,
        namedCall_of_not_hasForm h]
      rfl
  · by_cases hdotted : n.kind = .dotQualifiedExpression
    · rw [outcome_of_dotted hdotted]
      cases style.nested? with
      | none => rw [Option.elim_none, configuredString_of_not_hasForm h]; rfl
      | some rules => rw [Option.elim_some, configuredCall_of_not_hasForm h]; rfl
    · exact outcome_of_other hcall hdotted

/-- No reason is more specific than the shape alone. -/
theorem NoMatch.mostSpecific_shape (reason : NoMatch) : reason.mostSpecific .shape = reason := by
  cases reason <;> rfl

/-- A call of the test function is a test, and one of the container function a container. -/
theorem SpecStyle.callOutcome_of_head {callee arguments lambda : Node}
    (hnested : style.nested? = some rules) (kind : n.kind = .callExpression)
    (elements : n.elements = [callee, arguments, lambda]) (head : IsHead callee arguments function)
    (block : isTrailingLambda lambda = true) :
    rules.callOutcome n = (style.declares? (.named function arguments)).elim (.error .shape)
      fun kind => (singleStringArgument arguments).map (kind, ·) := by
  obtain ⟨hdistinct, -, -⟩ := functions_ne hnested
  simp only [NestedStyle.callOutcome, namedCall_of_head kind elements head block, declares?,
    hnested]
  by_cases htest : function = rules.testFn
  · rw [if_pos htest, if_neg (htest ▸ hdistinct), if_pos htest]
    cases singleStringArgument arguments with
    | ok name => rfl
    | error reason => exact congrArg Except.error reason.mostSpecific_shape
  · rw [if_neg htest, if_neg htest]
    by_cases hcontainer : function = rules.containerFn
    · rw [if_pos hcontainer, if_pos hcontainer]
      cases singleStringArgument arguments <;> rfl
    · rw [if_neg hcontainer, if_neg hcontainer]
      rfl

/-- Of a node of a form, a style reads the name, if the form declares something in it. -/
theorem SpecStyle.outcome_of_hasForm (h : n.HasForm form) :
    style.outcome n = (style.declares? form).elim (.error .shape) fun kind =>
      form.value.map (kind, ·) := by
  cases h with
  | named kind elements head block =>
    rw [outcome_of_call kind]
    cases hnested : style.nested? with
    | none => simp [declares?, hnested, stringCall, elements, Except.map]
    | some rules => exact callOutcome_of_head hnested kind elements head block
  | string kind elements head block =>
    rw [outcome_of_call kind]
    cases hnested : style.nested? with
    | none =>
      simp [declares?, hnested, stringCall, elements, Node.is, kind, head, block, CallForm.value]
    | some rules =>
      have hlength : n.elements.length ≠ 3 := by simp [elements]
      rw [Option.elim_some, NestedStyle.callOutcome, namedCall_of_length_ne hlength,
        namedCall_of_length_ne hlength]
      simp [declares?, hnested, NoMatch.mostSpecific]
  | configuredNamed kind operands config isCall elements head =>
    rw [outcome_of_dotted kind]
    cases hnested : style.nested? with
    | none =>
      rw [Option.elim_none, configuredString_of_operands kind operands config, Node.is, isCall]
      simp [declares?, hnested, Except.map]
    | some rules =>
      rw [Option.elim_some, configuredCall_of_operands kind operands config,
        plainCall_of_head isCall elements head]
      simp only [declares?, hnested]
      split <;> rfl
  | configuredString kind operands config head =>
    rw [outcome_of_dotted kind]
    cases hnested : style.nested? with
    | none =>
      rw [Option.elim_none, configuredString_of_operands kind operands config, Node.is, head]
      simp [declares?, hnested, CallForm.value]
    | some rules =>
      rw [Option.elim_some, configuredCall_of_operands kind operands config]
      simp [declares?, hnested, plainCall, Node.is, head, Except.map]

/-! ### Matches and rejections -/

/-- Either no form of the node declares something, or the style reads the name in the form. -/
theorem SpecStyle.outcome_cases (style : SpecStyle) (n : Node) :
    ((∀ form, n.HasForm form → style.declares? form = none) ∧ style.outcome n = .error .shape) ∨
      ∃ form kind, n.HasForm form ∧ style.declares? form = some kind ∧
        style.outcome n = form.value.map (kind, ·) := by
  by_cases hform : ∃ form, n.HasForm form
  · obtain ⟨form, hform⟩ := hform
    have hout := style.outcome_of_hasForm hform
    cases hkind : style.declares? form with
    | none =>
      rw [hkind] at hout
      exact .inl ⟨fun form' hform' => hform'.unique hform ▸ hkind, hout⟩
    | some kind =>
      rw [hkind] at hout
      exact .inr ⟨form, kind, hform, hkind, hout⟩
  · have hnone := not_exists.1 hform
    exact .inl ⟨fun form h => absurd h (hnone form), outcome_of_not_hasForm hnone⟩

/-- A style matches the forms that declare something in it and have a name. -/
theorem SpecStyle.outcome_eq_ok_iff {kind : TestKind} {name : String} :
    style.outcome n = .ok (kind, name) ↔
      ∃ form, n.HasForm form ∧ style.declares? form = some kind ∧ form.value = .ok name := by
  constructor
  · intro h
    obtain ⟨-, hout⟩ | ⟨form, kind', hform, hkind, hout⟩ := style.outcome_cases n <;>
      rw [hout] at h
    · cases h
    · cases hvalue : form.value <;> rw [hvalue] at h <;> cases h
      exact ⟨form, hform, hkind, hvalue⟩
  · rintro ⟨form, hform, hkind, hvalue⟩
    rw [outcome_of_hasForm hform, hkind, hvalue]
    rfl

/-- A style rejects for the shape what has no form that declares something in it. -/
theorem SpecStyle.tryMatch_eq_shape_iff :
    style.tryMatch n = .error .shape ↔
      ∀ form, n.HasForm form → style.declares? form = none := by
  rw [tryMatch_eq_error_iff]
  obtain ⟨hnone, hout⟩ | ⟨form, kind, hform, hkind, hout⟩ := style.outcome_cases n <;> rw [hout]
  · exact iff_of_true rfl hnone
  · refine iff_of_false (fun h => hform.value_ne_shape ?_) fun h => ?_
    · cases hvalue : form.value <;> rw [hvalue] at h <;> cases h
      rfl
    · cases hkind.symm.trans (h form hform)

/-- A style rejects for the literal what has such a form, but no plain literal in it. -/
theorem SpecStyle.tryMatch_eq_literal_iff :
    style.tryMatch n = .error .literal ↔
      ∃ form kind, n.HasForm form ∧ style.declares? form = some kind ∧
        form.value = .error .literal := by
  rw [tryMatch_eq_error_iff]
  constructor
  · intro h
    obtain ⟨-, hout⟩ | ⟨form, kind, hform, hkind, hout⟩ := style.outcome_cases n <;>
      rw [hout] at h
    · cases h
    · refine ⟨form, kind, hform, hkind, ?_⟩
      cases hvalue : form.value <;> rw [hvalue] at h <;> cases h
      rfl
  · rintro ⟨form, kind, hform, hkind, hvalue⟩
    rw [outcome_of_hasForm hform, hkind, hvalue]
    rfl

end

/-!
## Styles side by side

Styles do not compete for a node. A node is of one form at most, and two styles take a form for a
declaration only where it is a call of the function that opens containers in both
(`SpecStyle.declares?_exclusive`). What both match is therefore the same container, and inside the
same ones: the containers around a node are read with that function too.

* `SpecStyle.tryMatch_exclusive` says this of any two styles, and what is left for the others beside
  a test and beside a match of the flat style.
-/

namespace SpecStyle

variable {s s' : SpecStyle} {rules rules' : NestedStyle} {form : CallForm} {kind kind' : TestKind}
  {n : Node} {t : RecognizedTest}

/-! ### Forms that two styles take -/

/-- No two styles declare tests in the same way. -/
theorem testFn_injective : Function.Injective fun s => (nested? s).map NestedStyle.testFn := by
  intro a b
  cases a <;> cases b <;> decide

/-- What is a test function in one style opens no container in another. -/
theorem testFn_ne_containerFn (h : s.nested? = some rules) (h' : s'.nested? = some rules') :
    rules.testFn ≠ rules'.containerFn := by
  revert h h'
  cases s <;> cases s' <;> rintro ⟨⟩ ⟨⟩ <;> decide

/-- What one style takes for a test no other takes for a container. -/
theorem not_test_of_container (h : s.declares? form = some .test) :
    s'.declares? form ≠ some .container := by
  intro h'
  obtain ⟨rules', arguments, hnested', rfl⟩ := declares?_eq_container_iff.1 h'
  obtain ⟨rules, hnested, hfunction⟩ := Option.map_eq_some_iff.1 (declares?_eq_test_iff.1 h)
  exact testFn_ne_containerFn hnested hnested' hfunction

/-- Two styles take a form for a declaration only as a container, opened by the function of both. -/
theorem declares?_exclusive (hne : s ≠ s') (h : s.declares? form = some kind)
    (h' : s'.declares? form = some kind') :
    kind = .container ∧ kind' = .container ∧ ∃ rules rules', s.nested? = some rules ∧
      s'.nested? = some rules' ∧ rules.containerFn = rules'.containerFn := by
  cases kind with
  | test =>
    cases kind' with
    | test =>
      have hfunction := (declares?_eq_test_iff.1 h).trans (declares?_eq_test_iff.1 h').symm
      exact absurd (testFn_injective hfunction) hne
    | container => exact absurd h' (not_test_of_container h)
  | container =>
    cases kind' with
    | test => exact absurd h (not_test_of_container h')
    | container =>
      obtain ⟨rules, arguments, hnested, rfl⟩ := declares?_eq_container_iff.1 h
      obtain ⟨rules', arguments', hnested', hform⟩ := declares?_eq_container_iff.1 h'
      exact ⟨rfl, rfl, rules, rules', hnested, hnested', (CallForm.named.inj hform).1⟩

/-! ### Containers of two styles -/

/-- Two styles whose containers are calls of one function find the same names of containers. -/
theorem containerName?_eq_of_containerFn (h : s.nested? = some rules)
    (h' : s'.nested? = some rules') (hfunction : rules.containerFn = rules'.containerFn) :
    s.containerName? = s'.containerName? := by
  rw [containerName?_of_nested? h, containerName?_of_nested? h']
  funext n
  rw [NestedStyle.containerName?, NestedStyle.containerName?, hfunction]

/-- What two styles match is the same container to both. -/
theorem eq_of_tryMatch {t' : RecognizedTest} (hne : s ≠ s') (h : s.tryMatch n = .ok t)
    (h' : s'.tryMatch n = .ok t') :
    t' = t ∧ t.kind = .container ∧ s.nested?.isSome = true ∧ s'.nested?.isSome = true := by
  obtain ⟨kind, name, hout, rfl⟩ := tryMatch_eq_ok_iff_outcome.1 h
  obtain ⟨kind', name', hout', rfl⟩ := tryMatch_eq_ok_iff_outcome.1 h'
  obtain ⟨form, hform, hkind, hvalue⟩ := outcome_eq_ok_iff.1 hout
  obtain ⟨form', hform', hkind', hvalue'⟩ := outcome_eq_ok_iff.1 hout'
  obtain rfl := hform.unique hform'
  obtain ⟨rfl, rfl, rules, rules', hnested, hnested', hfunction⟩ :=
    declares?_exclusive hne hkind hkind'
  obtain rfl : name = name' := Except.ok.inj (hvalue.symm.trans hvalue')
  rw [containerName?_eq_of_containerFn hnested hnested' hfunction, hnested, hnested']
  exact ⟨rfl, rfl, rfl, rfl⟩

/-- What one style rejects for its shape beside a match of the flat one. -/
theorem tryMatch_eq_shape_of_flat (hflat : s.nested? = none) (hne : s ≠ s')
    (h : s.tryMatch n = .ok t) : s'.tryMatch n = .error .shape := by
  obtain ⟨kind, name, hout, -⟩ := tryMatch_eq_ok_iff_outcome.1 h
  obtain ⟨form, hform, hkind, -⟩ := outcome_eq_ok_iff.1 hout
  refine tryMatch_eq_shape_iff.2 fun form' hform' => ?_
  obtain rfl := hform.unique hform'
  cases hkind' : s'.declares? form with
  | none => rfl
  | some kind' =>
    obtain ⟨-, -, rules, -, hnested, -⟩ := declares?_exclusive hne hkind hkind'
    cases hflat.symm.trans hnested

/-- **Styles do not compete for a node.** If two styles match a node, neither is the flat one, and
the node is a container to both, of the same name, inside the same containers and with the same
path. So beside a style in which a node is a test no other one matches it, and beside the flat style
every other one rejects it for its shape. -/
theorem tryMatch_exclusive (hne : s ≠ s') (n : Node) (t : RecognizedTest)
    (h : s.tryMatch n = .ok t) :
    (∀ t', s'.tryMatch n = .ok t' → s ≠ .stringSpec ∧ s' ≠ .stringSpec ∧
      t.kind = .container ∧ t'.kind = .container ∧
      t'.name = t.name ∧ t'.containers = t.containers ∧ t'.path = t.path) ∧
    (t.kind = .test → ∀ t', s'.tryMatch n ≠ .ok t') ∧
    (s = .stringSpec → s'.tryMatch n = .error .shape) := by
  refine ⟨fun t' h' => ?_, fun htest t' h' => ?_, ?_⟩
  · obtain ⟨rfl, hkind, hnested, hnested'⟩ := eq_of_tryMatch hne h h'
    refine ⟨?_, ?_, hkind, hkind, rfl, rfl, rfl⟩
    · rintro rfl
      cases hnested
    · rintro rfl
      cases hnested'
  · obtain ⟨-, hkind, -⟩ := eq_of_tryMatch hne h h'
    cases htest.symm.trans hkind
  · rintro rfl
    exact tryMatch_eq_shape_of_flat rfl hne h

/-- The outer container of the class is the same to two styles, and the test in it is one to the
style with its function alone. -/
theorem exclusive_nestedClassArena :
    ∃ n ∈ nestedClassArena.toTree.nodes, ∃ n' ∈ nestedClassArena.toTree.nodes,
      (∃ t t', tryMatch .funSpec n = .ok t ∧ tryMatch .shouldSpec n = .ok t' ∧ t.name = "a" ∧
        t.kind = .container ∧ t'.kind = .container ∧ t'.name = t.name ∧
          t'.containers = t.containers ∧ t'.path = t.path) ∧
      ∃ t, tryMatch .funSpec n' = .ok t ∧ t.containers = ["a"] ∧
        ∀ t', tryMatch .shouldSpec n' ≠ .ok t' := by
  let n := nestedClassArena.toTree.nodes.get ⟨2, by decide⟩
  let n' := nestedClassArena.toTree.nodes.get ⟨13, by decide⟩
  have hne : funSpec ≠ shouldSpec := by decide
  have h : tryMatch .funSpec n = .ok ⟨"a", "a", [], .container, 2, .origin⟩ := by rfl
  have hshould : tryMatch .shouldSpec n = .ok ⟨"a", "a", [], .container, 2, .origin⟩ := by rfl
  have h' : tryMatch .funSpec n' = .ok ⟨"b", "a -- b", ["a"], .test, 13, .origin⟩ := by rfl
  obtain ⟨hboth, -, -⟩ := tryMatch_exclusive hne n _ h
  obtain ⟨-, halone, -⟩ := tryMatch_exclusive hne n' _ h'
  obtain ⟨-, -, hkinds⟩ := hboth _ hshould
  exact ⟨n, List.get_mem _ _, n', List.get_mem _ _, ⟨_, _, h, hshould, rfl, hkinds⟩,
    _, h', rfl, halone rfl⟩

end SpecStyle

end KotestOutline
