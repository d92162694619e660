import KotestOutline.Proofs.Recognition.Reform
import KotestOutline.Proofs.Suite.Yield

/-!
# Listings do not depend on the form of a test

A chain has two calls more than the bare form: its receiver and its selector. Neither is recognized
of its own nor counted as a container, so the listing of a class says the same about both forms.

* `Node.Inside.map_entry_recognize?`: inside given containers a node is recognized as what it
  declares.
* `SpecStyle.Reforms.entriesAt_eq`: related nodes inside the same containers contribute the same.
* `entries_listTests_of_isConfigChain` is the result for a class, and
  `not_entries_listTests_of_isConfigChain` shows what it needs the condition on texts for.
-/

namespace KotestOutline

variable {style : SpecStyle} {membership membership' : Membership} {outer : List String}
  {m n n' c : Node} {t t' : SyntaxTree}

/-! ### Tokens -/

/-- A token declares no class. -/
theorem NodeKind.not_isClassOrObject {kind : NodeKind} (h : kind.isToken = true) :
    kind.isClassOrObject = false := by
  revert h
  cases kind <;> decide

/-- A token declares no test. -/
theorem NodeKind.not_mayDeclareTest {kind : NodeKind} (h : kind.isToken = true) :
    kind.mayDeclareTest = false := by
  revert h
  cases kind <;> decide

/-! ### Recognition inside containers -/

/-- Inside given containers a node is recognized as what it declares. -/
theorem Node.Inside.map_entry_recognize? (h : n.Inside style membership outer) :
    (style.recognize? membership n).map RecognizedTest.entry =
      (style.outcome n).toOption.map fun declared =>
        .declared declared.1 declared.2 outer := by
  cases hout : style.outcome n with
  | error reason =>
    rw [Node.recognize?_eq_none]
    · rfl
    · intro test htest
      rw [SpecStyle.tryMatch_eq_error_iff.2 hout] at htest
      cases htest
  | ok declared =>
    have hmatch := SpecStyle.tryMatch_eq_ok_iff_outcome.2 ⟨declared.1, declared.2, hout, rfl⟩
    rw [h.recognize?_eq_some hmatch, Option.map_some, RecognizedTest.entry_ofNode, h.containers]
    rfl

/-- Members that contribute nothing may be left out. -/
theorem flatMap_filter_eq {α β : Type} {p : α → Bool} {f : α → List β} {l : List α}
    (h : ∀ x ∈ l, p x = false → f x = []) : (l.filter p).flatMap f = l.flatMap f := by
  induction l with
  | nil => rfl
  | cons x l ih =>
    have hrest := ih fun y hy => h y (List.mem_cons_of_mem x hy)
    cases hp : p x with
    | true => rw [List.filter_cons_of_pos hp, List.flatMap_cons, List.flatMap_cons, hrest]
    | false =>
      rw [List.filter_cons_of_neg (by rw [hp]; exact Bool.false_ne_true), List.flatMap_cons,
        h x List.mem_cons_self hp, List.nil_append, hrest]

/-- Related members that contribute the same make lists that do. -/
theorem flatMap_eq_of_forall₂ {α β γ : Type} {relation : α → β → Prop} {f : α → List γ}
    {g : β → List γ} {l : List α} {l' : List β} (h : List.Forall₂ relation l l')
    (hsame : ∀ a ∈ l, ∀ b ∈ l', relation a b → f a = g b) : l.flatMap f = l'.flatMap g := by
  induction h with
  | nil => rfl
  | @cons a b l l' hab _ ih =>
    rw [List.flatMap_cons, List.flatMap_cons, hsame a List.mem_cons_self b List.mem_cons_self hab,
      ih fun c hc d hd => hsame c (List.mem_cons_of_mem a hc) d (List.mem_cons_of_mem b hd)]

namespace Node

/-- What matches nothing contributes what its children do. -/
theorem entriesAt_of_not_match (hclass : n.kind.isClassOrObject = false)
    (h : ∀ test, style.tryMatch n ≠ .ok test) :
    n.entriesAt style membership = n.children.flatMap (entriesAt style membership) := by
  rw [entriesAt_eq hclass, recognize?_eq_none h]
  rfl

/-- Tokens that are leaves contribute nothing. -/
theorem flatMap_entriesAt_children (h : n.tree.HasPlainTokens) :
    n.children.flatMap (entriesAt style membership) =
      n.elements.flatMap (entriesAt style membership) := by
  symm
  apply flatMap_filter_eq
  intro c hc htoken
  rw [children_eq_map] at hc
  obtain ⟨t, ht, rfl⟩ := List.mem_map.1 hc
  have hkind : (n.child t).kind.isToken = true := by simpa using htoken
  have hclass : (n.child t).kind.isClassOrObject = false := NodeKind.not_isClassOrObject hkind
  have hmatch : ∀ test, style.tryMatch (n.child t) ≠ .ok test := by
    intro test htest
    have hmay := SpecStyle.kind_of_tryMatch htest
    rw [NodeKind.not_mayDeclareTest hkind] at hmay
    cases hmay
  show (n.child t).entriesAt style membership = []
  rw [entriesAt_of_not_match hclass hmatch, children_eq_map, tree_child, h t ht hkind]
  rfl

end Node

/-- Where nothing matches, nothing is contributed. -/
theorem SpecStyle.IsIdle.entriesAt_eq_nil (h : style.IsIdle n.tree) :
    n.entriesAt style membership = [] := by
  have hfree : ∀ m, m = n ∨ m ∈ n.descendants → style.recognize? membership m = none := by
    intro m hm
    have htree : m.tree ∈ n.tree.preorder := by
      rcases hm with rfl | hm
      · exact RoseTree.self_mem_preorder _
      · exact Node.tree_mem_preorder hm
    rw [← SyntaxTree.map_tree_nodes, List.mem_map] at htree
    obtain ⟨m', hm', htree⟩ := htree
    apply Node.recognize?_eq_none
    intro test htest
    obtain ⟨kind, name, hout, -⟩ := tryMatch_eq_ok_iff_outcome.1 htest
    have halike : m'.tree.Alike m.tree := by rw [htree]; exact .refl _
    rw [← outcome_eq_of_alike halike] at hout
    exact (h m' hm').2 _ (tryMatch_eq_ok_iff_outcome.2 ⟨kind, name, hout, rfl⟩)
  unfold Node.entriesAt
  rw [List.map_eq_nil_iff, List.filterMap_eq_nil_iff]
  intro m hm
  split_ifs at hm
  · cases hm
  · rcases List.mem_cons.1 hm with rfl | hm
    · exact hfree m (Or.inl rfl)
    · exact hfree m (Or.inr (Node.mem_descendants_of_mem_below hm))

/-! ### The calls that a chain adds -/

namespace SpecStyle

/-- The receiver of a chain matches nothing: it has no lambda. -/
theorem IsReceiver.not_match {rules : NestedStyle} {front : List SyntaxTree}
    (hnested : style.nested? = some rules) (h : style.IsReceiver front m.tree)
    (hfront : front.length = 2) (test : RecognizedTest) : style.tryMatch m ≠ .ok test := by
  rw [IsReceiver, hnested, Option.elim_some] at h
  obtain ⟨hkind, -, halike⟩ := h
  have hlength : m.elements.length = 2 := by
    rw [Node.elements_eq_map, List.length_map, ← halike.length_eq, hfront]
  intro htest
  rcases (tryMatch_eq_ok htest).1 with ⟨_, _, _, -, -, hcall⟩ | ⟨hflat, -⟩ | ⟨hdotted, -⟩
  · obtain ⟨-, _, _, _, helements, -⟩ := namedCall_eq_ok_iff.1 hcall
    rw [helements] at hlength
    cases hlength
  · rw [hflat] at hnested
    cases hnested
  · rw [Node.kind, hkind] at hdotted
    cases hdotted

/-- The selector of a chain matches nothing: it calls no function of the style. -/
theorem IsSelector.not_match {lambda : SyntaxTree} (h : style.IsSelector lambda m.tree)
    (test : RecognizedTest) : style.tryMatch m ≠ .ok test := by
  obtain ⟨reference, arguments, lambda', helements, hname, -⟩ := h.elements
  have hname' : isName (m.child reference) configFunction = true := by
    rw [← hname]
    exact Reforms.isName_eq (.alike (.refl reference) : style.Reforms _ _) _
  rw [← List.cons_append] at helements
  have hfirst : m.elements = m.child reference :: (arguments.toList ++ [lambda']).map m.child := by
    rw [Node.elements_eq_map, helements]
    rfl
  intro htest
  rcases (tryMatch_eq_ok htest).1 with
    ⟨rules, function, name, hnested, hfunction, hcall⟩ | ⟨-, name, hcall⟩ | ⟨hdotted, -⟩
  · have hconfig := function_eq_of_namedCall hcall hfirst hname'
    obtain ⟨-, htest, hcontainer⟩ := functions_ne hnested
    rcases hfunction with rfl | rfl
    · exact htest hconfig
    · exact hcontainer hconfig
  · obtain ⟨-, template, body, hpieces, -, hvalue⟩ := stringCall_eq_ok_iff.1 hcall
    rw [hfirst, List.cons.injEq] at hpieces
    have hkind := (isName_eq_true_iff.1 hname').1
    rw [hpieces.1, (stringLiteralValue_eq_ok_iff.1 hvalue).1] at hkind
    cases hkind
  · rw [Node.kind, h.kind] at hdotted
    cases hdotted

/-- A complete lambda in a selector contributes what it would on its own. -/
theorem IsSelector.entriesAt_eq {lambda : SyntaxTree} (h : style.IsSelector lambda m.tree)
    (hinside : m.Inside style membership outer) :
    ∃ c : Node, lambda.Alike c.tree ∧ c.Inside style membership outer ∧
      m.entriesAt style membership = c.entriesAt style membership := by
  obtain ⟨reference, arguments, lambda', helements, -, hreference, hlist, halike⟩ := h.elements
  have hclass : m.kind.isClassOrObject = false := by rw [Node.kind, h.kind]; rfl
  have hidle : (m.child reference).entriesAt style membership = [] := hreference.entriesAt_eq_nil
  have hidle' :
      arguments.toList.flatMap (fun t => (m.child t).entriesAt style membership) = [] := by
    rw [List.flatMap_eq_nil_iff]
    intro list hmem
    have hlist' := (hlist list (Option.mem_toList.1 hmem)).2.2
    exact IsIdle.entriesAt_eq_nil (n := m.child list) hlist'
  refine ⟨m.child lambda', halike, ?_, ?_⟩
  · apply hinside.child hclass fun _ => containerName?_eq_none_of_not_match h.not_match
    apply List.mem_map_of_mem
    apply List.mem_of_mem_filter (p := (!·.label.kind.isToken))
    show lambda' ∈ m.tree.elements
    rw [helements]
    simp
  · rw [Node.entriesAt_of_not_match hclass h.not_match, Node.flatMap_entriesAt_children h.tokens,
      Node.elements_eq_map, helements, List.flatMap_map, List.flatMap_cons, List.flatMap_append,
      hidle, hidle', List.nil_append, List.nil_append, List.flatMap_singleton]

/-- What stands before the lambda of a test contributes the same in the receiver of its chain. -/
theorem IsReceiver.entriesAt_eq {front : List SyntaxTree}
    (hlength : ∀ rules, style.nested? = some rules → front.length = 2)
    (h : style.IsReceiver front m.tree) (hinside : m.Inside style membership' outer)
    (hfront : ∀ t ∈ front, ∀ c : Node, t.Alike c.tree → c.Inside style membership' outer →
      (n.child t).entriesAt style membership = c.entriesAt style membership') :
    front.flatMap (fun t => (n.child t).entriesAt style membership) =
      m.entriesAt style membership' := by
  cases hnested : style.nested? with
  | none =>
    rw [IsReceiver, hnested, Option.elim_none] at h
    obtain ⟨template, rfl, halike⟩ := h
    rw [List.flatMap_singleton]
    exact hfront template List.mem_cons_self m halike hinside
  | some rules =>
    have hmatch := h.not_match hnested (hlength rules hnested)
    rw [IsReceiver, hnested, Option.elim_some] at h
    obtain ⟨hkind, htokens, halike⟩ := h
    have hclass : m.kind.isClassOrObject = false := by rw [Node.kind, hkind]; rfl
    rw [Node.entriesAt_of_not_match hclass hmatch, Node.flatMap_entriesAt_children htokens,
      Node.elements_eq_map, List.flatMap_map]
    apply flatMap_eq_of_forall₂ halike
    intro t ht u hu htu
    apply hfront t ht (m.child u) htu
    apply hinside.child hclass fun _ => containerName?_eq_none_of_not_match hmatch
    exact List.mem_map_of_mem (List.mem_of_mem_filter hu)

/-- What is in a test is inside the containers of the test, which is none itself. -/
theorem inside_of_test {name : String} (hclass : n.kind.isClassOrObject = false)
    (htest : style.outcome n = .ok (.test, name)) (hinside : n.Inside style membership outer)
    (hc : c ∈ n.children) : c.Inside style membership outer := by
  apply hinside.child hclass _ hc
  intro _
  apply Option.eq_none_iff_forall_ne_some.2
  intro value hvalue
  rw [containerName?_eq_some_iff_outcome, htest] at hvalue
  cases hvalue

/-- Where a style has functions, two pieces stand before the lambda of a test. -/
theorem length_eq_two_of_test {rules : NestedStyle} {name : String} {front : List SyntaxTree}
    {lambda : SyntaxTree} (hnested : style.nested? = some rules) (hkind : n.kind = .callExpression)
    (htest : style.outcome n = .ok (.test, name)) (hbare : n.tree.elements = front ++ [lambda]) :
    front.length = 2 := by
  rcases test_of_outcome hkind htest with ⟨_, -, hcall⟩ | ⟨hflat, -⟩
  · obtain ⟨-, _, _, _, helements, -⟩ := namedCall_eq_ok_iff.1 hcall
    rw [Node.elements_eq_map, hbare] at helements
    simpa using congrArg List.length helements
  · rw [hflat] at hnested
    cases hnested

/-- Both forms of a test contribute the same, if the alike pieces of them do. -/
theorem IsConfigChain.entriesAt_eq {name : String} (h : style.IsConfigChain n.tree n'.tree)
    (htest : style.outcome n = .ok (.test, name)) (hinside : n.Inside style membership outer)
    (hinside' : n'.Inside style membership' outer)
    (hpieces : ∀ c ∈ n.children, ∀ c' : Node, c.tree.Alike c'.tree →
      c.Inside style membership outer → c'.Inside style membership' outer →
        c.entriesAt style membership = c'.entriesAt style membership') :
    n.entriesAt style membership = n'.entriesAt style membership' := by
  obtain ⟨front, lambda, receiver, selector, hbare, hdotted, hreceiver, hselector⟩ := h.elements
  have hclass : n.kind.isClassOrObject = false := by rw [h.kinds.1]; rfl
  have hclass' : n'.kind.isClassOrObject = false := by rw [h.kinds.2]; rfl
  have hown : (style.recognize? membership n).map RecognizedTest.entry =
      (style.recognize? membership' n').map RecognizedTest.entry := by
    rw [hinside.map_entry_recognize?, hinside'.map_entry_recognize?, htest, h.outcome_eq htest]
  have hchild : ∀ c ∈ n.children, c.Inside style membership outer := fun c hc =>
    inside_of_test hclass htest hinside hc
  have hchild' : ∀ c ∈ n'.children, c.Inside style membership' outer := by
    intro c hc
    apply hinside'.child hclass' _ hc
    -- the dotted expression of a chain is no call, and so no container
    intro hcall
    rw [h.kinds.2] at hcall
    cases hcall
  have hmem : ∀ t ∈ n.tree.elements, n.child t ∈ n.children := fun t ht =>
    List.mem_map_of_mem (List.mem_of_mem_filter ht)
  have hmem' : ∀ t ∈ n'.tree.elements, n'.child t ∈ n'.children := fun t ht =>
    List.mem_map_of_mem (List.mem_of_mem_filter ht)
  rw [hbare] at hmem
  rw [hdotted] at hmem'
  have hlength : ∀ rules, style.nested? = some rules → front.length = 2 :=
    fun _ hnested => length_eq_two_of_test hnested h.kinds.1 htest hbare
  have hfront : front.flatMap (fun t => (n.child t).entriesAt style membership) =
      (n'.child receiver).entriesAt style membership' := by
    apply IsReceiver.entriesAt_eq hlength hreceiver (hchild' _ (hmem' _ (by simp)))
    intro t ht c halike hc
    have hmem := hmem t (List.mem_append_left _ ht)
    exact hpieces _ hmem c halike (hchild _ hmem) hc
  have hlambda : (n.child lambda).entriesAt style membership =
      (n'.child selector).entriesAt style membership' := by
    obtain ⟨c, halike, hc, heq⟩ :=
      IsSelector.entriesAt_eq hselector (hchild' (n'.child selector) (hmem' _ (by simp)))
    have hmem := hmem lambda (by simp)
    rw [heq]
    exact hpieces _ hmem c halike (hchild _ hmem) hc
  rw [Node.entriesAt_eq hclass, Node.entriesAt_eq hclass', hown,
    Node.flatMap_entriesAt_children h.tokens_bare, Node.flatMap_entriesAt_children h.tokens_chain,
    Node.elements_eq_map, Node.elements_eq_map, hbare, hdotted, List.flatMap_map, List.flatMap_map,
    List.flatMap_append, hfront, List.flatMap_singleton, hlambda, List.flatMap_cons,
    List.flatMap_singleton]

/-- **One form for the other.** Inside the same containers, related nodes contribute the same. -/
theorem Reforms.entriesAt_eq (h : style.Reforms n.tree n'.tree)
    (hinside : n.Inside style membership outer) (hinside' : n'.Inside style membership' outer) :
    n.entriesAt style membership = n'.entriesAt style membership' := by
  induction n using Node.induction generalizing n' outer with
  | step n ih =>
    rcases chain_or_keeps h with ⟨hchain, name, htest⟩ | hkeeps
    · apply hchain.entriesAt_eq (htest n.above) hinside hinside'
      intro c hc c' halike hcin hcin'
      exact ih c hc (.alike halike) hcin hcin'
    · cases hclass : n.kind.isClassOrObject with
      | true =>
        unfold Node.entriesAt
        rw [← hkeeps.kind, hclass]
        rfl
      | false =>
        have hclass' : n'.kind.isClassOrObject = false := by rw [← hkeeps.kind, hclass]
        have hname := containerName?_congr hkeeps.outcome_eq
        have hcall : n.is .callExpression = n'.is .callExpression := by
          rw [Node.is, Node.is, hkeeps.kind]
        rw [Node.entriesAt_eq hclass, Node.entriesAt_eq hclass', hinside.map_entry_recognize?,
          hinside'.map_entry_recognize?, hkeeps.outcome_eq]
        apply congrArg
        apply flatMap_eq_of_forall₂ hkeeps.children
        intro c hc c' hc' hrelated
        have hin := hinside.of_mem_children hclass hc
        rw [hname, hcall] at hin
        exact ih c hc hrelated hin (hinside'.of_mem_children hclass' hc')

/-- Nodes of one kind are not the two forms of a test. -/
theorem Reforms.keeps_of_kind_eq (h : style.Reforms n.tree n'.tree) (hkind : n.kind = n'.kind) :
    Reforms.Keeps style n n' := by
  rcases chain_or_keeps h with ⟨hchain, -⟩ | hkeeps
  · rw [hchain.kinds.1, hchain.kinds.2] at hkind
    cases hkind
  · exact hkeeps

/-! ### Contexts -/

variable {inner inner' around around' : Context Label}

/-- What holds of one place of a tree holds of the whole tree. -/
theorem Reforms.plug (hcontext : inner.map Label.shape = inner'.map Label.shape)
    (htext : ∀ frame ∈ inner, ¬frame.label.JoinsText) (h : style.Reforms t t') :
    style.Reforms (inner.plug t) (inner'.plug t') := by
  induction inner generalizing inner' t t' with
  | nil =>
    obtain rfl := List.map_eq_nil_iff.1 hcontext.symm
    exact h
  | cons frame inner ih =>
    obtain ⟨frame', rest, rfl, hframe, hrest⟩ := List.map_eq_cons_iff.1 hcontext.symm
    apply ih hrest.symm fun f hf => htext f (List.mem_cons_of_mem frame hf)
    exact .inside hframe.symm (htext frame List.mem_cons_self) h

/-- The containers around the place of a change stay. -/
theorem Reforms.containerNames_eq (hcontext : around.map Label.shape = around'.map Label.shape)
    (htext : ∀ frame ∈ around, ¬frame.label.JoinsText) (h : style.Reforms t t') :
    containerNames style.containerName? (.within around t) =
      containerNames style.containerName? (.within around' t') := by
  induction around generalizing around' t t' with
  | nil =>
    obtain rfl := List.map_eq_nil_iff.1 hcontext.symm
    rfl
  | cons frame around ih =>
    obtain ⟨frame', rest, rfl, hframe, hrest⟩ := List.map_eq_cons_iff.1 hcontext.symm
    have hparent : style.Reforms (frame.plug t) (frame'.plug t') :=
      .inside hframe.symm (htext frame List.mem_cons_self) h
    have hkind : frame.label.kind = frame'.label.kind :=
      congrArg (fun f => f.label.1) hframe.symm
    have hkeeps : Keeps style (.within around (frame.plug t)) (.within rest (frame'.plug t')) :=
      keeps_of_kind_eq hparent hkind
    rw [Node.containerNames_of_mem_children _ (Node.mem_children_within frame around t),
      Node.containerNames_of_mem_children _ (Node.mem_children_within frame' rest t'),
      ih hrest.symm (fun f hf => htext f (List.mem_cons_of_mem frame hf)) hparent,
      containerName?_congr hkeeps.outcome_eq, Node.is, Node.is, hkeeps.kind]

/-- Inside a confirmed spec, a child is inside the containers of the spec. -/
theorem inside_of_mem_children (hclass : n.kind.isClassOrObject = true)
    (hmember : membership n style = true) (hc : c ∈ n.children) :
    c.Inside style membership (containerNames style.containerName? n) where
  containers := by
    rw [Node.containerNames_of_mem_children _ hc, if_neg, List.append_nil]
    intro hcall
    rw [beq_iff_eq.1 hcall] at hclass
    cases hclass
  confirmed _ := by
    have hfound : c.enclosingClass? = some n := by
      rw [Node.enclosingClass?, Node.ancestors_of_mem_children hc]
      exact List.find?_cons_of_pos hclass
    rw [hfound, Option.any_some, hmember]

/-- Related classes inside the same containers list the same. -/
theorem Reforms.entries_listTests_eq (h : style.Reforms n.tree n'.tree)
    (hclass : n.kind.isClassOrObject = true) (hmember : membership n style = true)
    (hmember' : membership' n' style = true)
    (hnames : containerNames style.containerName? n = containerNames style.containerName? n') :
    (listTests style membership n).map RecognizedTest.entry =
      (listTests style membership' n').map RecognizedTest.entry := by
  have hkeeps : Keeps style n n' := by
    rcases chain_or_keeps h with ⟨hchain, -⟩ | hkeeps
    · rw [hchain.kinds.1] at hclass
      cases hclass
    · exact hkeeps
  have hclass' : n'.kind.isClassOrObject = true := by rw [← hkeeps.kind, hclass]
  rw [Node.map_entry_listTests, Node.map_entry_listTests]
  apply flatMap_eq_of_forall₂ hkeeps.children
  intro c hc c' hc' hrelated
  apply hrelated.entriesAt_eq (inside_of_mem_children hclass hmember hc)
  rw [hnames]
  exact inside_of_mem_children hclass' hmember' hc'

end SpecStyle

variable {inner inner' around around' : Context Label} {bare chain : SyntaxTree}
  {test : RecognizedTest}

/-- **A listing does not depend on the form of a test.** A test in a confirmed class may change from
its bare form to its chain, and numbers and spans may change all over the tree: kinds, names,
containers and paths of the listing stay, in their order. No node above the test may be a name, a
literal or an escape sequence that is made up of the texts below it. -/
theorem entries_listTests_of_isConfigChain
    (hinner : inner.map Label.shape = inner'.map Label.shape)
    (haround : around.map Label.shape = around'.map Label.shape)
    (htext : ∀ frame ∈ inner ++ around, ¬frame.label.JoinsText)
    (hclass : (inner.plug bare).label.kind.isClassOrObject = true)
    (hmember : membership (.within around (inner.plug bare)) style = true)
    (hmember' : membership' (.within around' (inner'.plug chain)) style = true)
    (hmatch : style.tryMatch (.within (inner ++ around) bare) = .ok test)
    (htest : test.kind = .test) (hchain : style.IsConfigChain bare chain) :
    (listTests style membership (.within around (inner.plug bare))).map RecognizedTest.entry =
      (listTests style membership' (.within around' (inner'.plug chain))).map
        RecognizedTest.entry := by
  obtain ⟨kind, name, hout, rfl⟩ := SpecStyle.tryMatch_eq_ok_iff_outcome.1 hmatch
  obtain rfl : kind = .test := htest
  have hany : ∀ above, style.outcome ⟨bare, above⟩ = .ok (.test, name) := by
    intro above
    rw [← hout]
    exact SpecStyle.outcome_eq_of_alike (.refl bare)
  have hreform : style.Reforms (inner.plug bare) (inner'.plug chain) :=
    SpecStyle.Reforms.plug hinner (fun f hf => htext f (List.mem_append_left _ hf))
      (.chain hchain hany)
  have hnames := SpecStyle.Reforms.containerNames_eq haround
    (fun f hf => htext f (List.mem_append_right _ hf)) hreform
  exact SpecStyle.Reforms.entries_listTests_eq (n := .within around (inner.plug bare)) hreform
    hclass hmember hmember' hnames

/-! ### A test inside a container, and a test inside a name -/

/-- Where all kinds are of nodes that neither declare anything nor are classes, nothing matches. -/
theorem SpecStyle.isIdle_of_forall (h : ∀ m ∈ t.nodes, m.kind.isClassOrObject = false ∧
    m.kind.mayDeclareTest = false) : style.IsIdle t := by
  intro m hm
  refine ⟨(h m hm).1, fun test htest => ?_⟩
  have hmay := kind_of_tryMatch htest
  rw [(h m hm).2] at hmay
  cases hmay

/-- A composite node at the origin. -/
def plainNode (kind : NodeKind) (ts : List SyntaxTree) : SyntaxTree :=
  .node ⟨⟨kind, none, .origin⟩, 0⟩ ts

/-- A leaf at the origin. -/
def plainLeaf (kind : NodeKind) (text : String) : SyntaxTree :=
  .node ⟨⟨kind, some text, .origin⟩, 0⟩ []

/-- A frame at the origin. -/
def plainFrame (kind : NodeKind) (left right : List SyntaxTree) : Frame Label :=
  ⟨⟨⟨kind, none, .origin⟩, 0⟩, left, right⟩

/-- A function name, as the callee of a call. -/
def plainReference (name : String) : SyntaxTree :=
  plainNode .nameReference [plainLeaf .identifier name]

/-- An argument list with one string. -/
def plainArguments (text : String) : SyntaxTree :=
  plainNode .valueArgumentList [plainNode .valueArgument [plainNode .stringTemplate
    [plainLeaf .openQuote "\"", plainLeaf .literalStringEntry text,
      plainLeaf .closingQuote "\""]]]

/-- A trailing lambda without statements. -/
def plainLambda : SyntaxTree := plainNode .lambdaArgument [plainNode .lambdaExpression []]

/-- A test named `b` in its bare form. -/
def bareTest : SyntaxTree :=
  plainNode .callExpression [plainReference "test", plainArguments "b", plainLambda]

/-- The test named `b` as a chain. -/
def chainedTest : SyntaxTree :=
  plainNode .dotQualifiedExpression
    [plainNode .callExpression [plainReference "test", plainArguments "b"], plainLeaf .dot ".",
      plainNode .callExpression [plainReference "config", plainLambda]]

/-- The chain of the test named `b` is one of its bare form to a Fun Spec. -/
theorem isConfigChain_chainedTest : SpecStyle.IsConfigChain .funSpec bareTest chainedTest := by
  have hselector : SpecStyle.IsSelector .funSpec plainLambda
      (plainNode .callExpression [plainReference "config", plainLambda]) := by
    refine ⟨rfl, by unfold SyntaxTree.HasPlainTokens; decide, plainReference "config", none,
      plainLambda, rfl, by decide, ?_, by simp, .refl _⟩
    exact SpecStyle.isIdle_of_forall (by decide)
  refine ⟨rfl, by unfold SyntaxTree.HasPlainTokens; decide, rfl,
    by unfold SyntaxTree.HasPlainTokens; decide, [plainReference "test", plainArguments "b"],
    plainLambda, _, _, rfl, rfl, ?_, hselector⟩
  exact ⟨rfl, by unfold SyntaxTree.HasPlainTokens; decide, .cons (.refl _) (.cons (.refl _) .nil)⟩

/-- The body of a container named `a` in a class. -/
def inContainer : Context Label :=
  [plainFrame .lambdaExpression [] [], plainFrame .lambdaArgument [] [],
    plainFrame .callExpression [plainReference "context", plainArguments "a"] [],
    plainFrame .classDeclaration [plainLeaf .identifier "S"] []]

/-- The chain is listed in the container as the bare test is. -/
theorem entries_chainedTest_inContainer :
    (listTests .funSpec .assumed
        (.within [plainFrame .file [] []] (inContainer.plug chainedTest))).map
        RecognizedTest.entry =
      [.declared .container "a" [], .declared .test "b" ["a"]] := by
  have hmatch : SpecStyle.tryMatch .funSpec
      (.within (inContainer ++ [plainFrame .file [] []]) bareTest) =
        .ok ⟨"b", "a -- b", ["a"], .test, 0, .origin⟩ := by rfl
  have hsame : (listTests .funSpec .assumed
        (.within [plainFrame .file [] []] (inContainer.plug bareTest))).map RecognizedTest.entry =
      (listTests .funSpec .assumed
        (.within [plainFrame .file [] []] (inContainer.plug chainedTest))).map
          RecognizedTest.entry :=
    entries_listTests_of_isConfigChain rfl rfl (by decide) rfl rfl rfl hmatch rfl
      isConfigChain_chainedTest
  rw [← hsame]
  decide

/-- The name of a test in a class. The name is a literal that is made up of the texts below it. -/
def inName : Context Label :=
  [plainFrame .literalStringEntry [] [],
    plainFrame .stringTemplate [plainLeaf .openQuote "\""] [plainLeaf .closingQuote "\""],
    plainFrame .valueArgument [] [], plainFrame .valueArgumentList [] [],
    plainFrame .callExpression [plainReference "test"] [plainLambda],
    plainFrame .classDeclaration [plainLeaf .identifier "S"] []]

/-- In such a name a test may not change its form: the name is the text of the test. -/
theorem not_entries_listTests_of_isConfigChain :
    (inName.plug bareTest).label.kind.isClassOrObject = true ∧
      (SpecStyle.tryMatch .funSpec (.within inName bareTest)).map (·.kind) = .ok .test ∧
      SpecStyle.IsConfigChain .funSpec bareTest chainedTest ∧
      (listTests .funSpec .assumed (.within [] (inName.plug bareTest))).map RecognizedTest.entry =
        [.declared .test "test\"b\"" [], .declared .test "b" []] ∧
      (listTests .funSpec .assumed (.within [] (inName.plug chainedTest))).map
          RecognizedTest.entry ≠
        (listTests .funSpec .assumed (.within [] (inName.plug bareTest))).map
          RecognizedTest.entry :=
  ⟨rfl, by rfl, isConfigChain_chainedTest, by decide, by decide⟩

end KotestOutline
