import KotestOutline.Proofs.Recognition.Listing

/-!
# What a style reads of a node

The answer of a style has two parts: what the node declares, which is read off the node and a few
levels under it, and the containers around it. This file is about the first part.

* `SpecStyle.outcome` is that part, and `SpecStyle.tryMatch_eq_map_outcome` puts both together.
* `Node.SamePiece` and `Node.SameString`: two nodes are the same to a matcher that meets them as
  pieces of a call of a function, or of a call of a string.
* `SpecStyle.outcome_congr`: nodes whose pieces are the same have the same outcome.
-/

namespace KotestOutline

variable {style : SpecStyle} {rules : NestedStyle} {function config : String} {n n' : Node}

/-! ### What a node declares -/

/-- A call as a test, or else as a container. -/
def NestedStyle.callOutcome (rules : NestedStyle) (n : Node) : MatchResult (TestKind × String) :=
  match namedCall rules.testFn n with
  | .ok name => .ok (.test, name)
  | .error reason =>
    match namedCall rules.containerFn n with
    | .ok name => .ok (.container, name)
    | .error other => .error (reason.mostSpecific other)

/-- What a node declares in a style, and under which name, whatever is around it. -/
def SpecStyle.outcome (style : SpecStyle) (n : Node) : MatchResult (TestKind × String) :=
  match n.kind with
  | .callExpression =>
    style.nested?.elim ((stringCall n).map (TestKind.test, ·)) (·.callOutcome n)
  | .dotQualifiedExpression =>
    (style.nested?.elim (configuredString configFunction n) fun rules =>
      configuredCall rules.testFn configFunction n).map (TestKind.test, ·)
  | _ => .error .shape

/-- A call is a call of a string to a flat style, and a test or a container by name to a style with
containers. -/
theorem SpecStyle.outcome_of_call (h : n.kind = .callExpression) :
    style.outcome n =
      style.nested?.elim ((stringCall n).map (TestKind.test, ·)) (·.callOutcome n) := by
  rw [outcome, h]

/-- A dotted access is a chain on a string to a flat style, and on a test by name to a style with
containers. -/
theorem SpecStyle.outcome_of_dotted (h : n.kind = .dotQualifiedExpression) :
    style.outcome n =
      (style.nested?.elim (configuredString configFunction n) fun rules =>
        configuredCall rules.testFn configFunction n).map (TestKind.test, ·) := by
  rw [outcome, h]

/-- A node that is neither a call nor a dotted access declares nothing. -/
theorem SpecStyle.outcome_of_other (hcall : n.kind ≠ .callExpression)
    (hdotted : n.kind ≠ .dotQualifiedExpression) : style.outcome n = .error .shape := by
  unfold outcome
  split
  · exact absurd ‹_› hcall
  · exact absurd ‹_› hdotted
  · rfl

/-- Only nested styles have containers. -/
theorem SpecStyle.containerNames_of_flat (h : style.nested? = none) (n : Node) :
    containerNames style.containerName? n = [] := by
  rw [containerNames, List.reverse_eq_nil_iff, List.filterMap_eq_nil_iff]
  intro a _
  rw [containerName?, h, Option.bind_none]

/-- A match is what the node declares, inside the containers around it. -/
theorem SpecStyle.tryMatch_eq_map_outcome (style : SpecStyle) (n : Node) :
    style.tryMatch n = (style.outcome n).map fun declared =>
      .ofNode n declared.2 (containerNames style.containerName? n) declared.1 := by
  cases hnested : style.nested? with
  | none =>
    rw [tryMatch_of_flat hnested, containerNames_of_flat hnested]
    unfold FlatStyle.tryMatch
    split
    next hkind =>
      rw [outcome_of_call hkind, hnested, Option.elim_none]
      cases stringCall n <;> rfl
    next hkind =>
      rw [outcome_of_dotted hkind, hnested, Option.elim_none]
      cases configuredString configFunction n <;> rfl
    next hcall hdotted =>
      rw [outcome_of_other hcall hdotted]
      rfl
  | some rules =>
    rw [tryMatch_of_nested? hnested, containerName?_of_nested? hnested]
    unfold NestedStyle.tryMatch
    split
    next hkind =>
      rw [outcome_of_call hkind, hnested, Option.elim_some]
      unfold NestedStyle.matchCall NestedStyle.callOutcome
      cases namedCall rules.testFn n with
      | ok name => rfl
      | error reason => cases namedCall rules.containerFn n <;> rfl
    next hkind =>
      rw [outcome_of_dotted hkind, hnested, Option.elim_some]
      cases configuredCall rules.testFn configFunction n <;> rfl
    next hcall hdotted =>
      rw [outcome_of_other hcall hdotted]
      rfl

/-- A node that is rejected is rejected for what it is, whatever is around it. -/
theorem SpecStyle.tryMatch_eq_error_iff {reason : NoMatch} :
    style.tryMatch n = .error reason ↔ style.outcome n = .error reason := by
  rw [tryMatch_eq_map_outcome]
  cases style.outcome n <;> simp [Except.map]

/-- A node that matches is what it declares, with the names of the containers around it. -/
theorem SpecStyle.tryMatch_eq_ok_iff_outcome {t : RecognizedTest} :
    style.tryMatch n = .ok t ↔ ∃ kind name, style.outcome n = .ok (kind, name) ∧
      t = .ofNode n name (containerNames style.containerName? n) kind := by
  rw [tryMatch_eq_map_outcome]
  cases style.outcome n with
  | error reason => simp [Except.map]
  | ok declared => simp [Except.map, Prod.ext_iff, eq_comm]

/-- In the flat style every declaration is a test. -/
theorem SpecStyle.kind_of_outcome_of_flat {declared : TestKind × String}
    (hflat : style.nested? = none) (h : style.outcome n = .ok declared) : declared.1 = .test := by
  unfold outcome at h
  rw [hflat, Option.elim_none, Option.elim_none] at h
  split at h
  · cases hvalue : stringCall n <;> rw [hvalue] at h <;> cases h
    rfl
  · cases hvalue : configuredString configFunction n <;> rw [hvalue] at h <;> cases h
    rfl
  · cases h

/-- A node is a container exactly if that is what it declares. -/
theorem SpecStyle.containerName?_eq_some_iff_outcome {name : String} :
    style.containerName? n = some name ↔ style.outcome n = .ok (.container, name) := by
  rw [← map_name_recognize? style .assumed, Option.map_eq_some_iff]
  constructor
  · rintro ⟨t, ht, rfl⟩
    obtain ⟨hrec, hkind⟩ := Option.filter_eq_some_iff.1 ht
    obtain ⟨kind, name, hout, rfl⟩ := tryMatch_eq_ok_iff_outcome.1 (tryMatch_of_recognize? hrec)
    obtain rfl : kind = .container := beq_iff_eq.1 hkind
    exact hout
  · intro hout
    have hmatch := tryMatch_eq_ok_iff_outcome.2 ⟨_, _, hout, rfl⟩
    have hrec : style.tryRecognize .assumed n =
        .ok (.ofNode n name (containerNames style.containerName? n) .container) := by
      refine tryRecognize_eq_ok_iff.2 ⟨hmatch, fun hgate => ?_⟩
      cases kind_of_outcome_of_flat (Option.isNone_iff_eq_none.1 hgate) hout
    exact ⟨_, Option.filter_eq_some_iff.2 ⟨recognize?_eq_some_iff.2 hrec, rfl⟩, rfl⟩

/-- What matches nothing is no container. -/
theorem SpecStyle.containerName?_eq_none_of_not_match (h : ∀ test, style.tryMatch n ≠ .ok test) :
    style.containerName? n = none := by
  apply Option.eq_none_iff_forall_ne_some.2
  intro name hname
  exact h _ (tryMatch_eq_ok_iff_outcome.2
    ⟨_, _, containerName?_eq_some_iff_outcome.1 hname, rfl⟩)

/-- Two nodes that declare the same are the same to those below them. -/
theorem SpecStyle.containerName?_congr (h : style.outcome n = style.outcome n') :
    style.containerName? n = style.containerName? n' := by
  ext name
  rw [containerName?_eq_some_iff_outcome, containerName?_eq_some_iff_outcome, h]

/-- A call that declares something is a call of the function for that, or in the flat style of a
string. -/
theorem SpecStyle.call_of_outcome {kind : TestKind} {name : String}
    (hkind : n.kind = .callExpression) (h : style.outcome n = .ok (kind, name)) :
    (∃ rules, style.nested? = some rules ∧
      ((kind = .test ∧ namedCall rules.testFn n = .ok name) ∨
        (kind = .container ∧ namedCall rules.containerFn n = .ok name))) ∨
      (style.nested? = none ∧ kind = .test ∧ stringCall n = .ok name) := by
  rw [outcome_of_call hkind] at h
  cases hnested : style.nested? with
  | none =>
    rw [hnested, Option.elim_none] at h
    cases hvalue : stringCall n <;> rw [hvalue] at h <;> cases h
    exact Or.inr ⟨rfl, rfl, rfl⟩
  | some rules =>
    rw [hnested, Option.elim_some, NestedStyle.callOutcome] at h
    refine Or.inl ⟨rules, rfl, ?_⟩
    split at h
    next htest =>
      cases h
      exact Or.inl ⟨rfl, htest⟩
    next =>
      split at h
      next hcontainer =>
        cases h
        exact Or.inr ⟨rfl, hcontainer⟩
      · cases h

/-- A call that declares a test is a call of the test function, or in the flat style of a string. -/
theorem SpecStyle.test_of_outcome {name : String} (hkind : n.kind = .callExpression)
    (h : style.outcome n = .ok (.test, name)) :
    (∃ rules, style.nested? = some rules ∧ namedCall rules.testFn n = .ok name) ∨
      (style.nested? = none ∧ stringCall n = .ok name) := by
  rcases call_of_outcome hkind h with
    ⟨rules, hnested, ⟨-, hcall⟩ | ⟨hcontainer, -⟩⟩ | ⟨hflat, -, hcall⟩
  · exact Or.inl ⟨rules, hnested, hcall⟩
  · cases hcontainer
  · exact Or.inr ⟨hflat, hcall⟩

/-- A dotted expression that declares something is a chain. -/
theorem SpecStyle.chain_of_outcome {declared : TestKind × String}
    (hkind : n.kind = .dotQualifiedExpression) (h : style.outcome n = .ok declared) :
    ∃ receiver selector, n.elements = [receiver, selector] ∧
      isConfigCall selector configFunction = true ∧
      ((∃ rules, style.nested? = some rules ∧ plainCall rules.testFn receiver = .ok declared.2) ∨
        (style.nested? = none ∧ stringLiteralValue receiver = .ok declared.2)) := by
  rw [outcome_of_dotted hkind] at h
  cases hnested : style.nested? with
  | none =>
    rw [hnested, Option.elim_none] at h
    cases hvalue : configuredString configFunction n <;> rw [hvalue] at h <;> cases h
    obtain ⟨-, receiver, selector, helements, hconfig, hreceiver⟩ :=
      configuredString_eq_ok_iff.1 hvalue
    exact ⟨receiver, selector, helements, hconfig, Or.inr ⟨rfl, hreceiver⟩⟩
  | some rules =>
    rw [hnested, Option.elim_some] at h
    cases hvalue : configuredCall rules.testFn configFunction n <;> rw [hvalue] at h <;> cases h
    obtain ⟨-, receiver, selector, helements, hconfig, hreceiver⟩ :=
      configuredCall_eq_ok_iff.1 hvalue
    exact ⟨receiver, selector, helements, hconfig, Or.inl ⟨rules, rfl, hreceiver⟩⟩

/-! ### Rejections -/

section Rejections

variable {callee : Node} {rest : List Node}

/-- A call of another number of pieces does not have the named form. -/
theorem namedCall_of_length_ne (h : n.elements.length ≠ 3) :
    namedCall function n = .error .shape := by
  unfold namedCall
  split
  · rfl
  · split
    next helements =>
      rw [helements] at h
      exact absurd rfl h
    · rfl

/-- A call of another number of pieces is no call in front of `config`. -/
theorem plainCall_of_length_ne (h : n.elements.length ≠ 2) :
    plainCall function n = .error .shape := by
  unfold plainCall
  split
  · rfl
  · split
    next helements =>
      rw [helements] at h
      exact absurd rfl h
    · rfl

/-- A call of another name does not have the named form. -/
theorem namedCall_of_isName_eq_false (helements : n.elements = callee :: rest)
    (h : isName callee function = false) : namedCall function n = .error .shape := by
  unfold namedCall
  split
  · rfl
  · split
    next helements' =>
      obtain ⟨rfl, -⟩ := List.cons.inj (helements.symm.trans helements')
      rw [h, Bool.false_and, Bool.false_and, if_neg Bool.false_ne_true]
    · rfl

/-- A call of another name is no call of `config`. -/
theorem isConfigCall_of_isName_eq_false (helements : n.elements = callee :: rest)
    (h : isName callee config = false) : isConfigCall n config = false := by
  unfold isConfigCall
  rw [helements]
  split
  next heq =>
    obtain ⟨rfl, -⟩ := List.cons.inj heq
    rw [h, Bool.false_and, Bool.and_false]
  next heq =>
    obtain ⟨rfl, -⟩ := List.cons.inj heq
    rw [h, Bool.false_and, Bool.false_and, Bool.false_and, Bool.and_false]
  · rw [Bool.and_false]

/-- A call of `config` has that name for its callee. -/
theorem exists_callee_of_isConfigCall (h : isConfigCall n config = true) :
    n.kind = .callExpression ∧
      ∃ callee rest, n.elements = callee :: rest ∧ isName callee config = true := by
  rw [isConfigCall, Bool.and_eq_true] at h
  obtain ⟨hkind, h⟩ := h
  refine ⟨beq_iff_eq.1 hkind, ?_⟩
  split at h
  next helements =>
    simp only [Bool.and_eq_true] at h
    exact ⟨_, _, helements, h.1⟩
  next helements =>
    simp only [Bool.and_eq_true] at h
    exact ⟨_, _, helements, h.1.1.1⟩
  · cases h

/-- A node has one name. -/
theorem isName_eq_false {name other : String} (h : isName n name = true) (hne : name ≠ other) :
    isName n other = false := by
  rw [Bool.eq_false_iff]
  intro hother
  exact hne ((isName_eq_true_iff.1 h).2.symm.trans (isName_eq_true_iff.1 hother).2)

/-- A call that declares something calls a function of the style or a string, not `config`, and a
function with more than its arguments. -/
theorem SpecStyle.callee_of_outcome {declared : TestKind × String}
    (hkind : n.kind = .callExpression) (h : style.outcome n = .ok declared) :
    ∃ callee rest, n.elements = callee :: rest ∧ isName callee configFunction = false ∧
      (style.nested?.isSome = true → n.elements.length = 3) := by
  rcases call_of_outcome hkind h with ⟨rules, hnested, hcall⟩ | ⟨hflat, -, hcall⟩
  · obtain ⟨-, htest, hcontainer⟩ := functions_ne hnested
    rcases hcall with ⟨-, hcall⟩ | ⟨-, hcall⟩ <;>
      obtain ⟨-, callee, arguments, lambda, helements, hname, -⟩ := namedCall_eq_ok_iff.1 hcall
    · exact ⟨callee, _, helements, isName_eq_false hname htest, fun _ => by rw [helements]; rfl⟩
    · exact ⟨callee, _, helements, isName_eq_false hname hcontainer,
        fun _ => by rw [helements]; rfl⟩
  · obtain ⟨-, template, lambda, helements, -, hvalue⟩ := stringCall_eq_ok_iff.1 hcall
    refine ⟨template, _, helements, ?_, fun hnested => ?_⟩
    · simp [isName, Node.is, (stringLiteralValue_eq_ok_iff.1 hvalue).1]
    · rw [hflat] at hnested
      cases hnested

end Rejections

/-! ### Corresponding children -/

section Corresponding

variable {relation : Node → Node → Prop} {kind : NodeKind}

/-- Whether a token is missing depends on the kinds of the children. -/
theorem Node.hasMissingChild_congr
    (his : ∀ {c c' : Node}, relation c c' → c.is .missing = c'.is .missing)
    (h : List.Forall₂ relation n.children n'.children) :
    n.hasMissingChild = n'.hasMissingChild := by
  unfold Node.hasMissingChild
  generalize n.children = children at h ⊢
  generalize n'.children = children' at h ⊢
  induction h with
  | nil => rfl
  | cons hc _ ih => rw [List.any_cons, List.any_cons, his hc, ih]

/-- The first child of a kind is related to that of a node with related children, if the relation
knows the kind. -/
theorem Node.firstChild?_congr {target : Node → Node → Prop}
    (his : ∀ {c c' : Node}, relation c c' → c.is kind = c'.is kind)
    (htarget : ∀ {c c' : Node}, relation c c' → c.is kind = true → target c c')
    (h : List.Forall₂ relation n.children n'.children) :
    Option.Rel target (n.firstChild? kind) (n'.firstChild? kind) := by
  unfold Node.firstChild?
  generalize n.children = children at h ⊢
  generalize n'.children = children' at h ⊢
  induction h with
  | nil => exact .none
  | @cons c c' _ _ hc _ ih =>
    rw [List.find?_cons, List.find?_cons, his hc]
    cases hkind : c'.is kind with
    | false => exact ih
    | true => exact .some (htarget hc ((his hc).trans hkind))

/-- Whether a lambda is a trailing lambda depends on what is missing in its body. -/
theorem isTrailingLambda_congr (hkind : n.is .lambdaArgument = n'.is .lambdaArgument)
    (hbody : n.is .lambdaArgument = true →
      Option.Rel (fun body body' => body.hasMissingChild = body'.hasMissingChild)
        (n.firstChild? .lambdaExpression) (n'.firstChild? .lambdaExpression)) :
    isTrailingLambda n = isTrailingLambda n' := by
  unfold isTrailingLambda
  rw [← hkind]
  cases hlambda : n.is .lambdaArgument with
  | false => rfl
  | true =>
    have hrel := hbody hlambda
    generalize n.firstChild? .lambdaExpression = body at hrel ⊢
    generalize n'.firstChild? .lambdaExpression = body' at hrel ⊢
    cases hrel with
    | none => rfl
    | some hmissing => rw [Option.any_some, Option.any_some, hmissing]

end Corresponding

/-! ### Pieces of calls -/

/-- Whether two nodes are the same to a matcher that meets them as pieces of a call of `config`. -/
structure Node.SameShape (n n' : Node) : Prop where
  isName : ∀ name, isName n name = isName n' name
  isArguments : n.is .valueArgumentList = n'.is .valueArgumentList
  isComplete : (n.is .valueArgumentList && !n.hasMissingChild) =
    (n'.is .valueArgumentList && !n'.hasMissingChild)
  isTrailingLambda : isTrailingLambda n = isTrailingLambda n'

/-- Whether two nodes are the same to a matcher that meets them as pieces of a call of a function
with one string. -/
structure Node.SamePiece (n n' : Node) : Prop extends n.SameShape n' where
  argument : n.is .valueArgumentList = true → singleStringArgument n = singleStringArgument n'

/-- Whether two nodes are the same to a matcher that meets them as pieces of a call of a string. -/
structure Node.SameString (n n' : Node) : Prop where
  isTemplate : n.is .stringTemplate = n'.is .stringTemplate
  isTrailingLambda : isTrailingLambda n = isTrailingLambda n'
  value : n.is .stringTemplate = true → stringLiteralValue n = stringLiteralValue n'

/-- The named form depends on what a matcher sees of the pieces of a call. -/
theorem namedCall_congr (hkind : n.is .callExpression = n'.is .callExpression)
    (h : List.Forall₂ Node.SamePiece n.elements n'.elements) :
    namedCall function n = namedCall function n' := by
  unfold namedCall
  rw [hkind]
  split
  · rfl
  · revert h
    generalize n.elements = pieces
    generalize n'.elements = pieces'
    intro h
    rcases h with _ | ⟨h₁, _ | ⟨h₂, _ | ⟨h₃, _ | _⟩⟩⟩ <;> try rfl
    simp only [h₁.isName, h₃.isTrailingLambda, h₂.isArguments]
    split
    next hparts =>
      simp only [Bool.and_eq_true] at hparts
      exact h₂.argument (h₂.isArguments.trans hparts.1.2)
    · rfl

/-- The named form without its lambda depends on what a matcher sees of the pieces of a call. -/
theorem plainCall_congr (hkind : n.is .callExpression = n'.is .callExpression)
    (h : List.Forall₂ Node.SamePiece n.elements n'.elements) :
    plainCall function n = plainCall function n' := by
  unfold plainCall
  rw [hkind]
  split
  · rfl
  · revert h
    generalize n.elements = pieces
    generalize n'.elements = pieces'
    intro h
    rcases h with _ | ⟨h₁, _ | ⟨h₂, _ | _⟩⟩ <;> try rfl
    simp only [h₁.isName, h₂.isArguments]
    split
    next hparts =>
      simp only [Bool.and_eq_true] at hparts
      exact h₂.argument (h₂.isArguments.trans hparts.2)
    · rfl

/-- Whether a call is one of `config` depends on what a matcher sees of its pieces. -/
theorem isConfigCall_congr (hkind : n.is .callExpression = n'.is .callExpression)
    (h : List.Forall₂ Node.SameShape n.elements n'.elements) :
    isConfigCall n config = isConfigCall n' config := by
  unfold isConfigCall
  rw [hkind]
  apply congrArg
  revert h
  generalize n.elements = pieces
  generalize n'.elements = pieces'
  intro h
  rcases h with _ | ⟨h₁, _ | ⟨h₂, _ | ⟨h₃, _ | _⟩⟩⟩ <;> try rfl
  · simp only [h₁.isName, h₂.isTrailingLambda]
  · simp only [h₁.isName, h₃.isTrailingLambda, Bool.and_assoc (isName _ config), h₂.isComplete]

/-- The string form depends on what a matcher sees of the pieces of a call. -/
theorem stringCall_congr (hkind : n.is .callExpression = n'.is .callExpression)
    (h : List.Forall₂ Node.SameString n.elements n'.elements) : stringCall n = stringCall n' := by
  unfold stringCall
  rw [hkind]
  split
  · rfl
  · revert h
    generalize n.elements = pieces
    generalize n'.elements = pieces'
    intro h
    rcases h with _ | ⟨h₁, _ | ⟨h₂, _ | _⟩⟩ <;> try rfl
    simp only [h₁.isTemplate, h₂.isTrailingLambda]
    split
    next hparts =>
      rw [Bool.and_eq_true] at hparts
      exact h₁.value (h₁.isTemplate.trans hparts.1)
    · rfl

/-! ### Operands of dotted expressions -/

/-- Whether two nodes are the same to a style that meets them as receiver or selector of a dotted
expression. -/
structure SpecStyle.SameOperand (style : SpecStyle) (n n' : Node) : Prop where
  isConfigCall : isConfigCall n configFunction = isConfigCall n' configFunction
  plainCall : ∀ rules, style.nested? = some rules →
    plainCall rules.testFn n = plainCall rules.testFn n'
  isTemplate : style.nested? = none → n.is .stringTemplate = n'.is .stringTemplate
  value : style.nested? = none → stringLiteralValue n = stringLiteralValue n'

/-- Two dotted accesses with related sides either both lack a side, or each side is related to that
of the other. -/
theorem dotParts_congr {relation : Node → Node → Prop}
    (hkind : n.is .dotQualifiedExpression = n'.is .dotQualifiedExpression)
    (h : List.Forall₂ relation n.elements n'.elements) :
    (dotParts n = .error .shape ∧ dotParts n' = .error .shape) ∨
      ∃ receiver selector receiver' selector', dotParts n = .ok (receiver, selector) ∧
        dotParts n' = .ok (receiver', selector') ∧ relation receiver receiver' ∧
          relation selector selector' := by
  unfold dotParts
  rw [hkind]
  split
  · exact Or.inl ⟨rfl, rfl⟩
  · revert h
    generalize n.elements = operands
    generalize n'.elements = operands'
    intro h
    rcases h with _ | ⟨h₁, _ | ⟨h₂, _ | _⟩⟩
    · exact Or.inl ⟨rfl, rfl⟩
    · exact Or.inl ⟨rfl, rfl⟩
    · exact Or.inr ⟨_, _, _, _, rfl, rfl, h₁, h₂⟩
    · exact Or.inl ⟨rfl, rfl⟩

/-- The configured named form depends on what a style sees of the two sides. -/
theorem configuredCall_congr (hnested : style.nested? = some rules)
    (hkind : n.is .dotQualifiedExpression = n'.is .dotQualifiedExpression)
    (h : List.Forall₂ style.SameOperand n.elements n'.elements) :
    configuredCall rules.testFn configFunction n =
      configuredCall rules.testFn configFunction n' := by
  unfold configuredCall
  rcases dotParts_congr hkind h with
    ⟨hn, hn'⟩ | ⟨receiver, selector, receiver', selector', hn, hn', hreceiver, hselector⟩
  · rw [hn, hn']
  · rw [hn, hn']
    show (if isConfigCall selector configFunction then _ else _) = _
    rw [hselector.isConfigCall, hreceiver.plainCall rules hnested]
    rfl

/-- The configured string form depends on what a style sees of the two sides. -/
theorem configuredString_congr (hflat : style.nested? = none)
    (hkind : n.is .dotQualifiedExpression = n'.is .dotQualifiedExpression)
    (h : List.Forall₂ style.SameOperand n.elements n'.elements) :
    configuredString configFunction n = configuredString configFunction n' := by
  unfold configuredString
  rcases dotParts_congr hkind h with
    ⟨hn, hn'⟩ | ⟨receiver, selector, receiver', selector', hn, hn', hreceiver, hselector⟩
  · rw [hn, hn']
  · rw [hn, hn']
    show (if receiver.is .stringTemplate && isConfigCall selector configFunction then _ else _) = _
    rw [hselector.isConfigCall, hreceiver.isTemplate hflat, hreceiver.value hflat]
    rfl

/-! ### Outcomes -/

/-- Whether two nodes are the same to a style that meets them as pieces of a call. -/
structure SpecStyle.SamePiece (style : SpecStyle) (n n' : Node) : Prop where
  named : style.nested?.isSome = true → n.SamePiece n'
  string : style.nested? = none → n.SameString n'

/-- What a node declares depends on its kind and on its pieces, as far as the style reads them. -/
theorem SpecStyle.outcome_congr (hkind : n.kind = n'.kind)
    (hcall : n.kind = .callExpression →
      List.Forall₂ style.SamePiece n.elements n'.elements)
    (hdotted : n.kind = .dotQualifiedExpression →
      List.Forall₂ style.SameOperand n.elements n'.elements) :
    style.outcome n = style.outcome n' := by
  have his : ∀ kind, n.is kind = n'.is kind := by
    intro kind
    rw [Node.is, Node.is, hkind]
  by_cases hn : n.kind = .callExpression
  · rw [outcome_of_call hn, outcome_of_call (hkind ▸ hn)]
    cases hnested : style.nested? with
    | none =>
      rw [Option.elim_none, Option.elim_none,
        stringCall_congr (his _) ((hcall hn).imp fun _ _ h => h.string hnested)]
    | some rules =>
      have hpieces : List.Forall₂ Node.SamePiece n.elements n'.elements :=
        (hcall hn).imp fun _ _ h => h.named (by rw [hnested, Option.isSome_some])
      rw [Option.elim_some, Option.elim_some, NestedStyle.callOutcome, NestedStyle.callOutcome,
        namedCall_congr (his _) hpieces, namedCall_congr (his _) hpieces]
  · by_cases hn' : n.kind = .dotQualifiedExpression
    · rw [outcome_of_dotted hn', outcome_of_dotted (hkind ▸ hn')]
      cases hnested : style.nested? with
      | none =>
        rw [Option.elim_none, Option.elim_none,
          configuredString_congr hnested (his _) (hdotted hn')]
      | some rules =>
        rw [Option.elim_some, Option.elim_some,
          configuredCall_congr hnested (his _) (hdotted hn')]
    · rw [outcome_of_other hn hn', outcome_of_other (hkind ▸ hn) (hkind ▸ hn')]

end KotestOutline
