import KotestOutline.Proofs.Recognition.Outcome
import KotestOutline.Proofs.Syntax.Alike

/-!
# A test in its two forms

A test may be written as a bare call or as the receiver of a call of `config`. Two trees that differ
in the form of one test are read alike by every matcher away from that test, and at the test both
declare the same.

* `SpecStyle.IsConfigChain` relates a bare call to its chain.
* `SpecStyle.Reforms` is its closure: one test changes its form somewhere in a tree. It asks that no
  node above the test has its text read and is made up of the texts below it.
* `SpecStyle.Reforms.outcome_eq`: what related nodes declare.
-/

namespace KotestOutline

/-! ### Elements of trees -/

namespace SyntaxTree

/-- The structural children of a tree, which are no tokens. -/
def elements (t : SyntaxTree) : List SyntaxTree := t.children.filter (!·.label.kind.isToken)

/-- Whether the tokens among the children are leaves. -/
def HasPlainTokens (t : SyntaxTree) : Prop :=
  ∀ c ∈ t.children, c.label.kind.isToken = true → c.children = []

end SyntaxTree

/-- The node of a subtree directly below. -/
def Node.child (n : Node) (t : SyntaxTree) : Node := ⟨t, n.tree :: n.above⟩

@[simp] theorem Node.tree_child (n : Node) (t : SyntaxTree) : (n.child t).tree = t := rfl

/-- The children of a node are those of its tree, each with the way down to it. -/
theorem Node.children_eq_map (n : Node) : n.children = n.tree.children.map n.child := rfl

/-- The structural children of a node are those of its tree, each with the way down to it. -/
theorem Node.elements_eq_map (n : Node) : n.elements = n.tree.elements.map n.child := by
  rw [Node.elements, Node.children_eq_map, List.filter_map]
  rfl

/-! ### The two forms -/

namespace SpecStyle

/-- Whether nothing in a tree is a class or matches the style. -/
def IsIdle (style : SpecStyle) (t : SyntaxTree) : Prop :=
  ∀ m ∈ t.nodes, m.kind.isClassOrObject = false ∧ ∀ test, style.tryMatch m ≠ .ok test

/-- Whether a tree is the receiver of the chain of a call with the pieces `front` before its lambda:
the call without lambda, or the string. -/
def IsReceiver (style : SpecStyle) (front : List SyntaxTree) (receiver : SyntaxTree) : Prop :=
  style.nested?.elim (∃ template, front = [template] ∧ template.Alike receiver) fun _ =>
    receiver.label.kind = .callExpression ∧ receiver.HasPlainTokens ∧
      List.Forall₂ SyntaxTree.Alike front receiver.elements

/-- Whether a tree is a call of `config` with a lambda, which may have a complete argument list. -/
structure IsSelector (style : SpecStyle) (lambda selector : SyntaxTree) : Prop where
  kind : selector.label.kind = .callExpression
  tokens : selector.HasPlainTokens
  elements : ∃ (reference : SyntaxTree) (arguments : Option SyntaxTree) (lambda' : SyntaxTree),
    selector.elements = reference :: (arguments.toList ++ [lambda']) ∧
      isName (.ofTree reference) configFunction = true ∧ style.IsIdle reference ∧
      (∀ list ∈ arguments, list.label.kind = .valueArgumentList ∧
        (Node.ofTree list).hasMissingChild = false ∧ style.IsIdle list) ∧
      lambda.Alike lambda'

/-- Whether `chain` is the config chain of the call `bare`. -/
structure IsConfigChain (style : SpecStyle) (bare chain : SyntaxTree) : Prop where
  kind_bare : bare.label.kind = .callExpression
  tokens_bare : bare.HasPlainTokens
  kind_chain : chain.label.kind = .dotQualifiedExpression
  tokens_chain : chain.HasPlainTokens
  elements : ∃ front lambda receiver selector,
    bare.elements = front ++ [lambda] ∧ chain.elements = [receiver, selector] ∧
      style.IsReceiver front receiver ∧ style.IsSelector lambda selector

end SpecStyle

/-- Whether a matcher reads the text of nodes of this kind. -/
def NodeKind.isTextual : NodeKind → Bool
  | .nameReference | .literalStringEntry | .escapeStringEntry => true
  | _ => false

/-- Whether the text of a node is read and made up of the texts below. -/
def Label.JoinsText (label : Label) : Prop := label.kind.isTextual = true ∧ label.text = none

instance (label : Label) : Decidable label.JoinsText := inferInstanceAs (Decidable (_ ∧ _))

/-- Whether two trees are alike but for the form of one test. -/
inductive SpecStyle.Reforms (style : SpecStyle) : SyntaxTree → SyntaxTree → Prop where
  | alike {t t' : SyntaxTree} (h : t.Alike t') : Reforms style t t'
  | chain {bare chain : SyntaxTree} {name : String} (h : style.IsConfigChain bare chain)
      (htest : ∀ above, style.outcome ⟨bare, above⟩ = .ok (.test, name)) : Reforms style bare chain
  | inside {frame frame' : Frame Label} {t t' : SyntaxTree}
      (hframe : frame.map Label.shape = frame'.map Label.shape) (htext : ¬frame.label.JoinsText)
      (h : Reforms style t t') : Reforms style (frame.plug t) (frame'.plug t')

/-! ### What stays -/

/-- A bare test is a call, and its chain is a dotted access. -/
theorem SpecStyle.IsConfigChain.kinds {style : SpecStyle} {n n' : Node}
    (h : style.IsConfigChain n.tree n'.tree) :
    n.kind = .callExpression ∧ n'.kind = .dotQualifiedExpression :=
  ⟨h.kind_bare, h.kind_chain⟩

namespace SpecStyle.Reforms

variable {style : SpecStyle} {t t' : SyntaxTree} {n n' c c' : Node} {kind : NodeKind}

/-- Apart from the two forms themselves, related nodes have one kind, one text where it is read, and
related children. -/
structure Keeps (style : SpecStyle) (n n' : Node) : Prop where
  kind : n.kind = n'.kind
  text : n.kind.isTextual = true → n.text = n'.text
  children : List.Forall₂ (fun c c' : Node => style.Reforms c.tree c'.tree) n.children n'.children

/-- Of two trees that are alike but for the form of a test, either they are these two forms, or the
roots keep what a matcher reads of them. -/
theorem chain_or_keeps (h : style.Reforms n.tree n'.tree) :
    (style.IsConfigChain n.tree n'.tree ∧
      ∃ name, ∀ above, style.outcome ⟨n.tree, above⟩ = .ok (.test, name)) ∨
    Keeps style n n' := by
  obtain ⟨t, above⟩ := n
  obtain ⟨t', above'⟩ := n'
  have hforall : List.Forall₂ (style.Reforms) t.children t'.children →
      List.Forall₂ (fun c c' : Node => style.Reforms c.tree c'.tree)
        (Node.mk t above).children (Node.mk t' above').children := by
    intro h
    rw [Node.children, Node.children, List.forall₂_map_left_iff, List.forall₂_map_right_iff]
    exact h
  cases h with
  | alike h =>
    exact Or.inr ⟨congrArg Prod.fst h.shape_eq, fun _ => h.text_eq,
      hforall (h.children.imp fun _ _ => alike)⟩
  | chain h htest => exact Or.inl ⟨h, _, htest⟩
  | @inside frame frame' t t' hframe htext h =>
    obtain ⟨label, left, right⟩ := frame
    obtain ⟨label', left', right'⟩ := frame'
    simp only [Frame.map, Frame.mk.injEq] at hframe
    obtain ⟨hshape, hleft, hright⟩ := hframe
    have hsiblings : ∀ ts ts' : List SyntaxTree,
        ts.map (RoseTree.map Label.shape) = ts'.map (RoseTree.map Label.shape) →
          List.Forall₂ style.Reforms ts ts' := fun ts ts' hts =>
      (SyntaxTree.forall₂_alike hts).imp fun _ _ => alike
    refine Or.inr ⟨congrArg Prod.fst hshape, fun htextual => ?_, hforall ?_⟩
    · -- such a node has a text of its own
      obtain ⟨text, hown⟩ := Option.ne_none_iff_exists'.1 fun hnone => htext ⟨htextual, hnone⟩
      have hown' : label'.text = some text := (congrArg Prod.snd hshape).symm.trans hown
      show (label.text).getD _ = (label'.text).getD _
      rw [show label.text = some text from hown, hown', Option.getD_some, Option.getD_some]
    · exact (List.rel_append (hsiblings _ _ hleft)) (.cons h (hsiblings _ _ hright))

/-- The two forms differ in their kind, which only those ask about that look for declarations. -/
theorem is_eq (h : style.Reforms n.tree n'.tree) (hkind : kind.mayDeclareTest = false) :
    n.is kind = n'.is kind := by
  rcases chain_or_keeps h with ⟨hchain, -⟩ | hkeeps
  · rw [Node.is, Node.is, hchain.kinds.1, hchain.kinds.2]
    cases kind <;> first | rfl | cases hkind
  · rw [Node.is, Node.is, hkeeps.kind]

/-- Changing the form of a test makes no token of another node, and no other node of a token. -/
theorem isToken_eq (h : style.Reforms n.tree n'.tree) : n.kind.isToken = n'.kind.isToken := by
  rcases chain_or_keeps h with ⟨hchain, -⟩ | hkeeps
  · rw [hchain.kinds.1, hchain.kinds.2]
    rfl
  · rw [hkeeps.kind]

/-- What has the kind of a piece keeps it. -/
theorem keeps_of_is (h : style.Reforms n.tree n'.tree) (hkind : kind.mayDeclareTest = false)
    (hn : n.is kind = true) : Keeps style n n' := by
  rcases chain_or_keeps h with ⟨hchain, -⟩ | hkeeps
  · rw [Node.is, beq_iff_eq, hchain.kinds.1] at hn
    subst hn
    cases hkind
  · exact hkeeps

namespace Keeps

/-- The structural children of nodes that keep what is read of them are alike but for the form of a
test. -/
theorem elements (h : Keeps style n n') :
    List.Forall₂ (fun c c' : Node => style.Reforms c.tree c'.tree) n.elements n'.elements := by
  apply List.rel_filter _ h.children
  intro c c' hc
  simp only [isToken_eq hc]

/-- Changing the form of a test below a node leaves it complete or not. -/
theorem hasMissingChild_eq (h : Keeps style n n') : n.hasMissingChild = n'.hasMissingChild :=
  Node.hasMissingChild_congr (fun hc => is_eq hc rfl) h.children

/-- Changing the form of a test below a node leaves its first child of a kind, unless tests are of
that kind. -/
theorem firstChild? (h : Keeps style n n') (hkind : kind.mayDeclareTest = false) :
    Option.Rel (Keeps style) (n.firstChild? kind) (n'.firstChild? kind) :=
  Node.firstChild?_congr (fun hc => is_eq hc hkind) (fun hc => keeps_of_is hc hkind) h.children

/-- Changing the form of a test below a string leaves the value of its entries. -/
theorem entriesValue_eq {entries entries' : List Node}
    (h : List.Forall₂ (fun c c' : Node => style.Reforms c.tree c'.tree) entries entries') :
    entriesValue entries = entriesValue entries' := by
  induction h with
  | nil => rfl
  | @cons c c' _ _ hc _ ih =>
    rcases chain_or_keeps hc with ⟨hchain, -⟩ | hkeeps
    · rw [entriesValue, entriesValue, hchain.kinds.1, hchain.kinds.2]
    · rw [entriesValue, entriesValue, ← hkeeps.kind]
      split
      · exact ih
      · exact ih
      next hkind => rw [ih, hkeeps.text (by rw [hkind]; rfl)]
      next hkind => rw [ih, hkeeps.text (by rw [hkind]; rfl)]
      · rfl

/-- Changing the form of a test below a string leaves it terminated or not. -/
theorem isTerminated_eq (h : Keeps style n n') : isTerminated n = isTerminated n' := by
  have hquote : ∀ kind : NodeKind, kind.mayDeclareTest = false →
      (n.firstChild? kind).isSome = (n'.firstChild? kind).isSome := by
    intro kind hkind
    have hrel := h.firstChild? hkind
    generalize n.firstChild? kind = quote at hrel ⊢
    generalize n'.firstChild? kind = quote' at hrel ⊢
    cases hrel <;> rfl
  unfold isTerminated
  rw [hquote _ rfl, hquote _ rfl, h.hasMissingChild_eq]

end Keeps

/-- A literal keeps its value when a test changes its form. -/
theorem value_eq (h : style.Reforms n.tree n'.tree) :
    stringLiteralValue n = stringLiteralValue n' := by
  unfold stringLiteralValue
  by_cases htemplate : n.is .stringTemplate = true
  · have hkeeps := keeps_of_is h rfl htemplate
    rw [is_eq h rfl, hkeeps.isTerminated_eq, Keeps.entriesValue_eq hkeeps.children]
  · rw [← is_eq h rfl, if_pos (by simpa using htemplate), if_pos (by simpa using htemplate)]

/-- A name stays that name when a test changes its form. -/
theorem isName_eq (h : style.Reforms n.tree n'.tree) (name : String) :
    isName n name = isName n' name := by
  unfold isName
  by_cases hreference : n.is .nameReference = true
  · have hkeeps := keeps_of_is h rfl hreference
    rw [is_eq h rfl, hkeeps.text (by rw [beq_iff_eq.1 hreference]; rfl)]
  · rw [← is_eq h rfl, Bool.eq_false_iff.2 hreference, Bool.false_and, Bool.false_and]

/-- A lambda stays a trailing lambda when a test in it changes its form. -/
theorem isTrailingLambda_eq (h : style.Reforms n.tree n'.tree) :
    isTrailingLambda n = isTrailingLambda n' := by
  refine isTrailingLambda_congr (is_eq h rfl) fun hlambda => ?_
  exact Node.firstChild?_congr (fun hc => is_eq hc rfl)
    (fun hc hbody => (keeps_of_is hc rfl hbody).hasMissingChild_eq)
    (keeps_of_is h rfl hlambda).children

/-- Neither form of a test is an argument with a single expression. -/
theorem elements_ne_singleton {name : String} (h : style.IsConfigChain n.tree n'.tree)
    (htest : ∀ above, style.outcome ⟨n.tree, above⟩ = .ok (.test, name)) (e : Node) :
    n.elements ≠ [e] ∧ n'.elements ≠ [e] := by
  constructor
  · intro he
    rcases test_of_outcome h.kinds.1 (htest n.above) with ⟨rules, -, hcall⟩ | ⟨-, hcall⟩
    · obtain ⟨-, _, _, _, helements, -⟩ := namedCall_eq_ok_iff.1 hcall
      cases helements.symm.trans he
    · obtain ⟨-, _, _, helements, -⟩ := stringCall_eq_ok_iff.1 hcall
      cases helements.symm.trans he
  · intro he
    obtain ⟨_, _, receiver, selector, -, helements, -⟩ := h.elements
    rw [Node.elements_eq_map, helements] at he
    cases he

/-- An argument list keeps its name when a test changes its form. -/
theorem argument_eq (h : style.Reforms n.tree n'.tree) (hlist : n.is .valueArgumentList = true) :
    singleStringArgument n = singleStringArgument n' := by
  have hkeeps := keeps_of_is h rfl hlist
  have harguments := hkeeps.elements
  unfold singleStringArgument
  rw [hkeeps.hasMissingChild_eq]
  generalize n.elements = arguments at harguments ⊢
  generalize n'.elements = arguments' at harguments ⊢
  split
  · rfl
  rcases harguments with _ | ⟨hargument, _ | _⟩ <;> try rfl
  rcases chain_or_keeps hargument with ⟨hchain, name, htest⟩ | hkeeps
  · have hnot := elements_ne_singleton hchain htest
    dsimp only
    split
    next expression hexpression => exact absurd hexpression (hnot expression).1
    · split
      next expression hexpression => exact absurd hexpression (hnot expression).2
      · rfl
  · have hexpressions := hkeeps.elements
    dsimp only
    revert hexpressions
    generalize Node.elements _ = expressions
    generalize Node.elements _ = expressions'
    intro hexpressions
    rcases hexpressions with _ | ⟨hexpression, _ | _⟩ <;> try rfl
    dsimp only
    rw [is_eq hexpression rfl, value_eq hexpression]

/-- A piece of a call of a function is the same to a matcher when a test in it changes its form. -/
theorem samePiece (h : style.Reforms n.tree n'.tree) : n.SamePiece n' where
  isName := isName_eq h
  isArguments := is_eq h rfl
  isTrailingLambda := isTrailingLambda_eq h
  isComplete := by
    by_cases hlist : n.is .valueArgumentList = true
    · rw [is_eq h rfl, (keeps_of_is h rfl hlist).hasMissingChild_eq]
    · rw [← is_eq h rfl, Bool.eq_false_iff.2 hlist, Bool.false_and, Bool.false_and]
  argument := argument_eq h

/-- A piece of a call of a string is the same to a matcher when a test in it changes its form. -/
theorem sameString (h : style.Reforms n.tree n'.tree) : n.SameString n' where
  isTemplate := is_eq h rfl
  isTrailingLambda := isTrailingLambda_eq h
  value _ := value_eq h

/-! ### Operands -/

/-- A side of a dotted access is the same to a style when a test in it changes its form. -/
theorem sameOperand (h : style.Reforms n.tree n'.tree) : style.SameOperand n n' := by
  have htemplate : style.nested? = none → n.is .stringTemplate = n'.is .stringTemplate :=
    fun _ => is_eq h rfl
  rcases chain_or_keeps h with ⟨hchain, name, htest⟩ | hkeeps
  · obtain ⟨hkind, hkind'⟩ := hchain.kinds
    obtain ⟨callee, rest, helements, hname, hlength⟩ := callee_of_outcome hkind (htest n.above)
    refine ⟨?_, fun rules hnested => ?_, htemplate, fun _ => value_eq h⟩
    · rw [isConfigCall_of_isName_eq_false helements hname, isConfigCall, Node.is, hkind']
      rfl
    · have hthree := hlength (by rw [hnested]; rfl)
      rw [plainCall_of_length_ne (by omega), plainCall, Node.is, hkind']
      rfl
  · have hkind : n.is .callExpression = n'.is .callExpression := by
      rw [Node.is, Node.is, hkeeps.kind]
    have hpieces : List.Forall₂ Node.SamePiece n.elements n'.elements :=
      hkeeps.elements.imp fun _ _ hc => samePiece hc
    exact ⟨isConfigCall_congr hkind (hpieces.imp fun _ _ hc => hc.toSameShape),
      fun _ _ => plainCall_congr hkind hpieces, htemplate, fun _ => value_eq h⟩

/-! ### Declarations -/

/-- What only passes on a changed form declares the same. -/
theorem Keeps.outcome_eq (h : Keeps style n n') : style.outcome n = style.outcome n' := by
  apply outcome_congr h.kind
  · intro _
    exact h.elements.imp fun _ _ hc => ⟨fun _ => samePiece hc, fun _ => sameString hc⟩
  · intro _
    exact h.elements.imp fun _ _ hc => sameOperand hc

end SpecStyle.Reforms

/-! ### Both forms -/

namespace SpecStyle

variable {style : SpecStyle} {m n n' : Node} {name : String}

/-- What a node declares depends neither on what is around it nor on numbers and spans. -/
theorem outcome_eq_of_alike (h : n.tree.Alike n'.tree) : style.outcome n = style.outcome n' := by
  rcases Reforms.chain_or_keeps (.alike h : style.Reforms n.tree n'.tree) with ⟨hchain, -⟩ | hkeeps
  · have hkind : n.kind = n'.kind := congrArg Prod.fst h.shape_eq
    rw [hchain.kinds.1, hchain.kinds.2] at hkind
    cases hkind
  · exact hkeeps.outcome_eq

/-- The selector of a chain is a call of `config` if its lambda is complete. -/
theorem IsSelector.isConfigCall (lambda : Node) (h : style.IsSelector lambda.tree m.tree)
    (hlambda : isTrailingLambda lambda = true) : isConfigCall m configFunction = true := by
  obtain ⟨reference, arguments, lambda', helements, hname, -, hlist, halike⟩ := h.elements
  have hname' : isName (m.child reference) configFunction = true := by
    rw [← hname]
    exact Reforms.isName_eq (.alike (.refl reference) : style.Reforms _ _) _
  have hlambda' : isTrailingLambda (m.child lambda') = true := by
    rw [← hlambda]
    exact (Reforms.isTrailingLambda_eq (n := lambda) (.alike halike : style.Reforms _ _)).symm
  rw [KotestOutline.isConfigCall, Node.is, show m.kind = .callExpression from h.kind,
    Node.elements_eq_map, helements]
  cases arguments with
  | none => simp [hname', hlambda']
  | some list =>
    obtain ⟨hkind, hmissing, -⟩ := hlist list rfl
    have hmissing' : (m.child list).hasMissingChild = false := by
      have hsame : style.Reforms (m.child list).tree (Node.ofTree list).tree := .alike (.refl list)
      rw [← hmissing]
      exact (Reforms.keeps_of_is hsame rfl (beq_iff_eq.2 hkind)).hasMissingChild_eq
    simp [hname', hlambda', hmissing', Node.is, Node.kind, hkind]

/-- The receiver of a chain in a nested style is the call without lambda. -/
theorem IsReceiver.plainCall {rules : NestedStyle} {front : List SyntaxTree}
    {callee arguments : Node} (hnested : style.nested? = some rules)
    (h : style.IsReceiver front m.tree) (hfront : front.map n.child = [callee, arguments])
    (hname : isName callee rules.testFn = true) (hlist : arguments.kind = .valueArgumentList)
    (hvalue : singleStringArgument arguments = .ok name) :
    plainCall rules.testFn m = .ok name := by
  rw [IsReceiver, hnested, Option.elim_some] at h
  obtain ⟨hkind, -, halike⟩ := h
  obtain ⟨t, _, rfl, rfl, hrest⟩ := List.map_eq_cons_iff.1 hfront
  obtain ⟨u, _, rfl, rfl, hnil⟩ := List.map_eq_cons_iff.1 hrest
  obtain rfl := List.map_eq_nil_iff.1 hnil
  obtain ⟨t', _, ht, hrest', hreceiver⟩ := List.forall₂_cons_left_iff.1 halike
  obtain ⟨u', _, hu, hnil', rfl⟩ := List.forall₂_cons_left_iff.1 hrest'
  obtain rfl := List.forall₂_nil_left_iff.1 hnil'
  have ht' : style.Reforms (n.child t).tree (m.child t').tree := .alike ht
  have hu' : style.Reforms (n.child u).tree (m.child u').tree := .alike hu
  refine plainCall_eq_ok_iff.2 ⟨hkind, m.child t', m.child u', ?_, ?_, ?_, ?_⟩
  · rw [Node.elements_eq_map, hreceiver]
    rfl
  · rw [← hname, ht'.isName_eq]
  · rw [← hlist]
    exact (congrArg Prod.fst hu.shape_eq).symm
  · rw [← hvalue, hu'.argument_eq (beq_iff_eq.2 hlist)]

/-- The receiver of a chain in the flat style is the string. -/
theorem IsReceiver.value {front : List SyntaxTree} {template : Node} (hflat : style.nested? = none)
    (h : style.IsReceiver front m.tree) (hfront : front.map n.child = [template])
    (hvalue : stringLiteralValue template = .ok name) : stringLiteralValue m = .ok name := by
  rw [IsReceiver, hflat, Option.elim_none] at h
  obtain ⟨t, rfl, halike⟩ := h
  obtain rfl := List.singleton_inj.1 hfront
  have ht : style.Reforms (n.child t).tree m.tree := .alike halike
  rw [← hvalue, ht.value_eq]

/-- The chain of a test declares the same test. -/
theorem IsConfigChain.outcome_eq (h : style.IsConfigChain n.tree n'.tree)
    (htest : style.outcome n = .ok (.test, name)) : style.outcome n' = .ok (.test, name) := by
  obtain ⟨front, lambda, receiver, selector, hbare, hchain, hreceiver, hselector⟩ := h.elements
  have helements : n.elements = front.map n.child ++ [n.child lambda] := by
    rw [Node.elements_eq_map, hbare, List.map_append]
    rfl
  have helements' : n'.elements = [n'.child receiver, n'.child selector] := by
    rw [Node.elements_eq_map, hchain]
    rfl
  have hconfig (hlambda : isTrailingLambda (n.child lambda) = true) :
      KotestOutline.isConfigCall (n'.child selector) configFunction = true :=
    IsSelector.isConfigCall (n.child lambda) hselector hlambda
  rw [outcome_of_dotted h.kinds.2]
  rcases test_of_outcome h.kinds.1 htest with ⟨rules, hnested, hcall⟩ | ⟨hflat, hcall⟩
  · obtain ⟨-, callee, arguments, body, hpieces, hname, hlist, hlambda, hvalue⟩ :=
      namedCall_eq_ok_iff.1 hcall
    obtain ⟨hfront, hbody⟩ := List.append_inj' (helements.symm.trans hpieces :
      _ = [callee, arguments] ++ [body]) rfl
    obtain rfl := List.singleton_inj.1 hbody
    have hplain : KotestOutline.plainCall rules.testFn (n'.child receiver) = .ok name :=
      IsReceiver.plainCall hnested hreceiver hfront hname hlist hvalue
    rw [hnested, Option.elim_some, configuredCall_eq_ok_iff.2
      ⟨h.kinds.2, _, _, helements', hconfig hlambda, hplain⟩]
    rfl
  · obtain ⟨-, template, body, hpieces, hlambda, hvalue⟩ := stringCall_eq_ok_iff.1 hcall
    obtain ⟨hfront, hbody⟩ := List.append_inj' (helements.symm.trans hpieces :
      _ = [template] ++ [body]) rfl
    obtain rfl := List.singleton_inj.1 hbody
    have hvalue' : stringLiteralValue (n'.child receiver) = .ok name :=
      IsReceiver.value hflat hreceiver hfront hvalue
    rw [hflat, Option.elim_none, configuredString_eq_ok_iff.2
      ⟨h.kinds.2, _, _, helements', hconfig hlambda, hvalue'⟩]
    rfl

end SpecStyle

end KotestOutline
