import KotestOutline.Pattern
import KotestOutline.Proofs.Syntax.Walk
import KotestOutline.Recognition
import Mathlib.Data.List.Basic
import Mathlib.Tactic.SplitIfs

/-!
# What a style matches

The conditions under which the matchers accept, and what the styles make of them.
-/

namespace KotestOutline

/-!
## Call shapes as conditions

What it takes for a matcher to accept, one equivalence for each matcher: the elements of the node
and what is asked of each of them.
-/

section

variable {n : Node} {name function config : String}

/-! ### Literals -/

/-- A literal has a value just if it is terminated and all of its entries have one. -/
theorem stringLiteralValue_eq_ok_iff :
    stringLiteralValue n = .ok name ↔
      n.kind = .stringTemplate ∧ isTerminated n = true ∧ entriesValue n.children = .ok name := by
  unfold stringLiteralValue
  by_cases hkind : n.kind = .stringTemplate
  · cases hterminated : isTerminated n <;> simp [Node.is, hkind]
  · simp [Node.is, hkind]

/-- An argument list has a name just if it is complete and holds one literal. -/
theorem singleStringArgument_eq_ok_iff :
    singleStringArgument n = .ok name ↔
      n.hasMissingChild = false ∧ ∃ argument expression, n.elements = [argument] ∧
        argument.elements = [expression] ∧ stringLiteralValue expression = .ok name := by
  unfold singleStringArgument
  cases hmissing : n.hasMissingChild with
  | true => simp
  | false =>
    rw [if_neg Bool.false_ne_true]
    constructor
    · intro h
      split at h
      next argument hargument =>
        split at h
        next expression hexpression =>
          split at h
          · exact ⟨rfl, argument, expression, hargument, hexpression, h⟩
          · cases h
        · cases h
      · cases h
    · rintro ⟨-, argument, expression, hargument, hexpression, h⟩
      rw [hargument]
      dsimp only
      rw [hexpression]
      dsimp only
      rw [Node.is, (stringLiteralValue_eq_ok_iff.1 h).1]
      exact h

/-- A node is a name just if it is a reference with that text. -/
theorem isName_eq_true_iff :
    isName n name = true ↔ n.kind = .nameReference ∧ n.text = name := by
  simp [isName, Node.is]

/-! ### Calls -/

/-- A call has the named form just if it is a name, a complete argument list with one literal, and a
trailing lambda. -/
theorem namedCall_eq_ok_iff :
    namedCall function n = .ok name ↔
      n.kind = .callExpression ∧ ∃ callee arguments lambda,
        n.elements = [callee, arguments, lambda] ∧ isName callee function = true ∧
          arguments.kind = .valueArgumentList ∧ isTrailingLambda lambda = true ∧
            singleStringArgument arguments = .ok name := by
  unfold namedCall
  by_cases hkind : n.kind = .callExpression
  · rw [if_neg (by simp [Node.is, hkind])]
    constructor
    · intro h
      split at h
      next callee arguments lambda helements =>
        split at h
        next hparts =>
          simp only [Bool.and_eq_true, Node.is, beq_iff_eq] at hparts
          obtain ⟨⟨hcallee, harguments⟩, hlambda⟩ := hparts
          exact ⟨hkind, callee, arguments, lambda, helements, hcallee, harguments, hlambda, h⟩
        · cases h
      · cases h
    · rintro ⟨-, callee, arguments, lambda, helements, hcallee, harguments, hlambda, h⟩
      rw [helements]
      simpa [Node.is, hcallee, harguments, hlambda] using h
  · simp [Node.is, hkind]

/-- The named form is a call. -/
theorem kind_of_namedCall (h : namedCall function n = .ok name) : n.kind = .callExpression :=
  (namedCall_eq_ok_iff.1 h).1

/-- A call in front of `config` has the named form without its lambda. -/
theorem plainCall_eq_ok_iff :
    plainCall function n = .ok name ↔
      n.kind = .callExpression ∧ ∃ callee arguments,
        n.elements = [callee, arguments] ∧ isName callee function = true ∧
          arguments.kind = .valueArgumentList ∧ singleStringArgument arguments = .ok name := by
  unfold plainCall
  by_cases hkind : n.kind = .callExpression
  · rw [if_neg (by simp [Node.is, hkind])]
    constructor
    · intro h
      split at h
      next callee arguments helements =>
        split at h
        next hparts =>
          simp only [Bool.and_eq_true, Node.is, beq_iff_eq] at hparts
          exact ⟨hkind, callee, arguments, helements, hparts.1, hparts.2, h⟩
        · cases h
      · cases h
    · rintro ⟨-, callee, arguments, helements, hcallee, harguments, h⟩
      rw [helements]
      simpa [Node.is, hcallee, harguments] using h
  · simp [Node.is, hkind]

/-- A call has the string form just if it is a literal and a trailing lambda. -/
theorem stringCall_eq_ok_iff :
    stringCall n = .ok name ↔
      n.kind = .callExpression ∧ ∃ receiver lambda,
        n.elements = [receiver, lambda] ∧ isTrailingLambda lambda = true ∧
          stringLiteralValue receiver = .ok name := by
  unfold stringCall
  by_cases hkind : n.kind = .callExpression
  · rw [if_neg (by simp [Node.is, hkind])]
    constructor
    · intro h
      split at h
      next receiver lambda helements =>
        split at h
        next hparts =>
          rw [Bool.and_eq_true] at hparts
          exact ⟨hkind, receiver, lambda, helements, hparts.2, h⟩
        · cases h
      · cases h
    · rintro ⟨-, receiver, lambda, helements, hlambda, h⟩
      rw [helements]
      simpa [Node.is, (stringLiteralValue_eq_ok_iff.1 h).1, hlambda] using h
  · simp [Node.is, hkind]

/-- The string form is a call. -/
theorem kind_of_stringCall (h : stringCall n = .ok name) : n.kind = .callExpression :=
  (stringCall_eq_ok_iff.1 h).1

/-! ### Dotted expressions -/

/-- A dotted access has two sides just if these are its structural children. -/
theorem dotParts_eq_ok_iff {parts : Node × Node} :
    dotParts n = .ok parts ↔
      n.kind = .dotQualifiedExpression ∧ n.elements = [parts.1, parts.2] := by
  obtain ⟨receiver, selector⟩ := parts
  unfold dotParts
  by_cases hkind : n.kind = .dotQualifiedExpression
  · rw [if_neg (by simp [Node.is, hkind])]
    constructor
    · intro h
      split at h
      next helements =>
        obtain ⟨rfl, rfl⟩ := Prod.mk.inj (Except.ok.inj h)
        exact ⟨hkind, helements⟩
      · cases h
    · rintro ⟨-, helements⟩
      rw [helements]
  · simp [Node.is, hkind]

/-- What is asked of receiver and selector is asked of the two elements. -/
theorem dotParts_bind_eq_ok_iff {f : Node × Node → MatchResult String} :
    (dotParts n >>= f) = .ok name ↔
      n.kind = .dotQualifiedExpression ∧ ∃ receiver selector,
        n.elements = [receiver, selector] ∧ f (receiver, selector) = .ok name := by
  constructor
  · intro h
    cases hparts : dotParts n with
    | error reason =>
      rw [hparts] at h
      cases h
    | ok parts =>
      rw [hparts] at h
      obtain ⟨hkind, helements⟩ := dotParts_eq_ok_iff.1 hparts
      exact ⟨hkind, parts.1, parts.2, helements, h⟩
  · rintro ⟨hkind, receiver, selector, helements, h⟩
    have hparts : dotParts n = .ok (receiver, selector) := dotParts_eq_ok_iff.2 ⟨hkind, helements⟩
    rw [hparts]
    exact h

/-- A chain has the configured named form just if it ends in a call of `config` and begins with a
named call. -/
theorem configuredCall_eq_ok_iff :
    configuredCall function config n = .ok name ↔
      n.kind = .dotQualifiedExpression ∧ ∃ receiver selector,
        n.elements = [receiver, selector] ∧ isConfigCall selector config = true ∧
          plainCall function receiver = .ok name := by
  unfold configuredCall
  rw [dotParts_bind_eq_ok_iff]
  apply and_congr_right
  intro _
  refine exists_congr fun receiver => exists_congr fun selector => and_congr_right fun _ => ?_
  cases hconfig : isConfigCall selector config <;> simp [hconfig]

/-- The configured named form is a dotted access. -/
theorem kind_of_configuredCall (h : configuredCall function config n = .ok name) :
    n.kind = .dotQualifiedExpression :=
  (configuredCall_eq_ok_iff.1 h).1

/-- A chain has the configured string form just if it ends in a call of `config` and begins with a
literal. -/
theorem configuredString_eq_ok_iff :
    configuredString config n = .ok name ↔
      n.kind = .dotQualifiedExpression ∧ ∃ receiver selector,
        n.elements = [receiver, selector] ∧ isConfigCall selector config = true ∧
          stringLiteralValue receiver = .ok name := by
  unfold configuredString
  rw [dotParts_bind_eq_ok_iff]
  apply and_congr_right
  intro _
  refine exists_congr fun receiver => exists_congr fun selector => and_congr_right fun _ => ?_
  by_cases hreceiver : receiver.kind = .stringTemplate
  · cases hconfig : isConfigCall selector config <;> simp [Node.is, hreceiver, hconfig]
  · have hvalue : stringLiteralValue receiver ≠ .ok name := by
      intro h
      exact hreceiver (stringLiteralValue_eq_ok_iff.1 h).1
    simp [Node.is, hreceiver, hvalue]

/-- The configured string form is a dotted access. -/
theorem kind_of_configuredString (h : configuredString config n = .ok name) :
    n.kind = .dotQualifiedExpression :=
  (configuredString_eq_ok_iff.1 h).1

end

/-!
## What a style matches

The answers of a style at one node, read as facts about the node.

* `NestedStyle.tryMatch_eq_ok_iff` and `FlatStyle.tryMatch_eq_ok_iff` are the ways to match.
* `SpecStyle.kind_of_tryMatch` and `SpecStyle.anchor_of_tryMatch`: a match is a call or a dotted
  expression, and the test it yields is anchored there.
* `SpecStyle.tryRecognize_eq_ok_iff`: recognition is a match, and for the flat style membership of
  the nearest class.
* `listTests_eq_walk`: the listing of a class by the walk with a stack.
* `mem_listTests`: what a class lists is what its style recognizes on the walk under it.
-/

section

variable {n : Node} {t : RecognizedTest}

/-! ### Nested styles -/

namespace NestedStyle

variable {style : NestedStyle}

/-- A call is a test if it calls the function of tests, and a container if it calls that of
containers and not that of tests. -/
theorem matchCall_eq_ok_iff :
    style.matchCall n = .ok t ↔
      (∃ name, namedCall style.testFn n = .ok name ∧ t = style.build n .test name) ∨
      ((∀ name, namedCall style.testFn n ≠ .ok name) ∧
        ∃ name, namedCall style.containerFn n = .ok name ∧ t = style.build n .container name) := by
  unfold matchCall
  cases htest : namedCall style.testFn n with
  | ok name => simp [eq_comm]
  | error reason => cases namedCall style.containerFn n <;> simp [eq_comm]

/-- The three ways to match: a call of the test function, else one of the container function, or a
configured test. -/
theorem tryMatch_eq_ok_iff :
    style.tryMatch n = .ok t ↔
      (∃ name, namedCall style.testFn n = .ok name ∧ t = style.build n .test name) ∨
      ((∀ name, namedCall style.testFn n ≠ .ok name) ∧
        ∃ name, namedCall style.containerFn n = .ok name ∧ t = style.build n .container name) ∨
      ∃ name, configuredCall style.testFn configFunction n = .ok name ∧
        t = style.build n .test name := by
  unfold tryMatch
  split
  next hkind =>
    have hnot : ∀ name, configuredCall style.testFn configFunction n ≠ .ok name := by
      intro name h
      rw [kind_of_configuredCall h] at hkind
      cases hkind
    simp [matchCall_eq_ok_iff, hnot]
  next hkind =>
    have hnot : ∀ function name, namedCall function n ≠ .ok name := by
      intro function name h
      rw [kind_of_namedCall h] at hkind
      cases hkind
    cases configuredCall style.testFn configFunction n <;> simp [hnot, Except.map, eq_comm]
  next hnotCall hnotDotted =>
    have hnot : ∀ function name, namedCall function n ≠ .ok name := by
      intro function name h
      exact hnotCall (kind_of_namedCall h)
    have hnot' : ∀ name, configuredCall style.testFn configFunction n ≠ .ok name := by
      intro name h
      exact hnotDotted (kind_of_configuredCall h)
    simp [hnot, hnot']

end NestedStyle

/-! ### The flat style -/

/-- The two ways to match: a string with a lambda, or a configured string. -/
theorem FlatStyle.tryMatch_eq_ok_iff :
    FlatStyle.tryMatch n = .ok t ↔
      (∃ name, stringCall n = .ok name ∧ t = .ofNode n name [] .test) ∨
      ∃ name, configuredString configFunction n = .ok name ∧ t = .ofNode n name [] .test := by
  unfold FlatStyle.tryMatch
  split
  next hkind =>
    have hnot : ∀ name, configuredString configFunction n ≠ .ok name := by
      intro name h
      rw [kind_of_configuredString h] at hkind
      cases hkind
    cases stringCall n <;> simp [hnot, Except.map, eq_comm]
  next hkind =>
    have hnot : ∀ name, stringCall n ≠ .ok name := by
      intro name h
      rw [kind_of_stringCall h] at hkind
      cases hkind
    cases configuredString configFunction n <;> simp [hnot, Except.map, eq_comm]
  next hnotCall hnotDotted =>
    have hnot : ∀ name, stringCall n ≠ .ok name := by
      intro name h
      exact hnotCall (kind_of_stringCall h)
    have hnot' : ∀ name, configuredString configFunction n ≠ .ok name := by
      intro name h
      exact hnotDotted (kind_of_configuredString h)
    simp [hnot, hnot']

/-! ### Every style -/

namespace SpecStyle

variable {style : SpecStyle} {membership : Membership}

/-- A style with containers matches by its rules for them. -/
theorem tryMatch_of_nested? {rules : NestedStyle} (h : style.nested? = some rules) (n : Node) :
    style.tryMatch n = rules.tryMatch n := by
  rw [tryMatch, h, Option.elim_some]

/-- A style without containers matches by the rules of flat styles. -/
theorem tryMatch_of_flat (h : style.nested? = none) (n : Node) :
    style.tryMatch n = FlatStyle.tryMatch n := by
  rw [tryMatch, h, Option.elim_none]

/-- Every match is made at a call of one of the two functions or of a string, or at a dotted
expression that a call of `config` ends; and it yields the test of its node. -/
theorem tryMatch_eq_ok (h : style.tryMatch n = .ok t) :
    ((∃ rules function name, style.nested? = some rules ∧
        (function = rules.testFn ∨ function = rules.containerFn) ∧
          namedCall function n = .ok name) ∨
      (style.nested? = none ∧ ∃ name, stringCall n = .ok name) ∨
      (n.kind = .dotQualifiedExpression ∧ ∃ receiver selector,
        n.elements = [receiver, selector] ∧ isConfigCall selector configFunction = true)) ∧
    ∃ name containers kind, t = .ofNode n name containers kind := by
  cases hnested : style.nested? with
  | none =>
    rw [tryMatch_of_flat hnested] at h
    rcases FlatStyle.tryMatch_eq_ok_iff.1 h with ⟨name, hname, ht⟩ | ⟨name, hname, ht⟩
    · exact ⟨Or.inr (Or.inl ⟨rfl, name, hname⟩), name, [], .test, ht⟩
    · obtain ⟨hkind, receiver, selector, helements, hconfig, -⟩ :=
        configuredString_eq_ok_iff.1 hname
      exact ⟨Or.inr (Or.inr ⟨hkind, receiver, selector, helements, hconfig⟩), name, [], .test, ht⟩
  | some rules =>
    rw [tryMatch_of_nested? hnested] at h
    rcases NestedStyle.tryMatch_eq_ok_iff.1 h with
      ⟨name, hname, ht⟩ | ⟨-, name, hname, ht⟩ | ⟨name, hname, ht⟩
    · exact ⟨Or.inl ⟨rules, _, name, rfl, Or.inl rfl, hname⟩, name, _, .test, ht⟩
    · exact ⟨Or.inl ⟨rules, _, name, rfl, Or.inr rfl, hname⟩, name, _, .container, ht⟩
    · obtain ⟨hkind, receiver, selector, helements, hconfig, -⟩ := configuredCall_eq_ok_iff.1 hname
      exact ⟨Or.inr (Or.inr ⟨hkind, receiver, selector, helements, hconfig⟩), name, _, .test, ht⟩

/-- Only calls and dotted expressions match. -/
theorem kind_of_tryMatch (h : style.tryMatch n = .ok t) : n.kind.mayDeclareTest = true := by
  rcases (tryMatch_eq_ok h).1 with ⟨_, _, _, -, -, hcall⟩ | ⟨-, _, hcall⟩ | ⟨hkind, -⟩
  · rw [kind_of_namedCall hcall]
    rfl
  · rw [kind_of_stringCall hcall]
    rfl
  · rw [hkind]
    rfl

/-- A match is anchored at the node it is made at. -/
theorem anchor_of_tryMatch (h : style.tryMatch n = .ok t) : t.anchor = n.id := by
  obtain ⟨-, name, containers, kind, rfl⟩ := tryMatch_eq_ok h
  rfl

/-- A match needs a call: the node itself, or the selector of a dotted expression. -/
theorem exists_call_of_tryMatch (h : style.tryMatch n = .ok t) :
    n.kind = .callExpression ∨ ∃ m ∈ n.children, m.kind = .callExpression := by
  rcases (tryMatch_eq_ok h).1 with ⟨_, _, _, -, -, hcall⟩ | ⟨-, _, hcall⟩ |
    ⟨-, receiver, selector, helements, hconfig⟩
  · exact Or.inl (kind_of_namedCall hcall)
  · exact Or.inl (kind_of_stringCall hcall)
  · have hselector : selector ∈ n.elements := by
      rw [helements]
      exact List.mem_cons_of_mem receiver List.mem_cons_self
    rw [isConfigCall, Bool.and_eq_true, Node.is, beq_iff_eq] at hconfig
    exact Or.inr ⟨selector, Node.mem_children_of_mem_elements hselector, hconfig.1⟩

/-- A node is recognized in a style just if it matches and, where the style asks for it, the class
around it is one of the style. -/
theorem tryRecognize_eq_ok_iff :
    style.tryRecognize membership n = .ok t ↔
      style.tryMatch n = .ok t ∧
        (style.requiresMembership = true → n.enclosingClass?.any (membership · style) = true) := by
  cases hmatch : style.tryMatch n with
  | error reason =>
    simp [tryRecognize, hmatch, bind, Except.bind]
  | ok found =>
    have hgate : style.tryRecognize membership n =
        if style.requiresMembership && !n.enclosingClass?.any (membership · style) then
          .error .notInSpec
        else .ok found := by
      rw [tryRecognize, hmatch]
      rfl
    rw [hgate]
    cases style.requiresMembership <;> cases n.enclosingClass?.any (membership · style) <;> simp

/-- What is recognized matches. -/
theorem tryMatch_of_tryRecognize (h : style.tryRecognize membership n = .ok t) :
    style.tryMatch n = .ok t :=
  (tryRecognize_eq_ok_iff.1 h).1

/-- A test is found just if it is recognized. -/
theorem recognize?_eq_some_iff :
    style.recognize? membership n = some t ↔ style.tryRecognize membership n = .ok t := by
  unfold recognize?
  cases style.tryRecognize membership n <;> simp [Except.toOption]

/-- What is found matches. -/
theorem tryMatch_of_recognize? (h : style.recognize? membership n = some t) :
    style.tryMatch n = .ok t :=
  tryMatch_of_tryRecognize (recognize?_eq_some_iff.1 h)

end SpecStyle

/-! ### Listed tests -/

/-- A node that may declare a test is no class. -/
theorem NodeKind.not_isClassOrObject_of_mayDeclareTest {kind : NodeKind}
    (h : kind.mayDeclareTest = true) : kind.isClassOrObject = false := by
  cases kind <;> first | rfl | cases h

/-- The listing is read off the walk with a stack that drops every class it meets. -/
theorem listTests_eq_walk (style : SpecStyle) (membership : Membership) (n : Node) :
    listTests style membership n =
      ((n.descent.walk NodeKind.isClassOrObject).filter (·.kind.mayDeclareTest)).filterMap
        (style.recognize? membership) := by
  rw [Node.walk_descent, listTests]

/-- The walk may as well try every node: what is neither a call nor a dotted expression matches
nothing. -/
theorem listTests_eq_filterMap (style : SpecStyle) (membership : Membership) (n : Node) :
    listTests style membership n =
      (n.below NodeKind.isClassOrObject).filterMap (style.recognize? membership) := by
  unfold listTests
  rw [List.filterMap_filter]
  apply List.filterMap_congr
  intro m _
  split_ifs with hkind
  · rfl
  · cases hfound : style.recognize? membership m with
    | none => rfl
    | some found =>
      have hmatch := SpecStyle.tryMatch_of_recognize? hfound
      exact absurd (SpecStyle.kind_of_tryMatch hmatch) hkind

/-- The listed tests are those recognized at the nodes below that are in no class of their own. -/
theorem mem_listTests {style : SpecStyle} {membership : Membership} :
    t ∈ listTests style membership n ↔
      ∃ m ∈ n.below NodeKind.isClassOrObject, style.tryRecognize membership m = .ok t := by
  rw [listTests_eq_filterMap, List.mem_filterMap]
  simp only [SpecStyle.recognize?_eq_some_iff]

end

end KotestOutline
