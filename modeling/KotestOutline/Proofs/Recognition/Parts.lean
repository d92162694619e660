import KotestOutline.Proofs.Recognition.Outcome

/-!
# The parts of a declaration

A declaration is complete when the source lacks none of the tokens that close its parts.

* `SpecStyle.Reads` are the nodes that a style reads of a call to see whether it is complete, and
  `SpecStyle.IsOwnPart` are those of a declaration.
* `SpecStyle.complete_of_match`: no part of a match lacks a token.
* `SpecStyle.Reads.unique`: a node is read of one call only, and `SpecStyle.IsOwnPart.owner` says
  whose part that node can be.
-/

namespace KotestOutline

variable {style : SpecStyle} {c c' m n p : Node} {tree : SyntaxTree}

/-! ### Parts -/

/-- The nodes that a style reads of a call to see whether it is complete: argument lists, the bodies
of lambdas, and the string, which a nested style finds in an argument list. -/
inductive SpecStyle.Reads (style : SpecStyle) (c : Node) : Node → Prop where
  | arguments {p : Node} (hmem : p ∈ c.elements) (hkind : p.kind = .valueArgumentList) :
      Reads style c p
  | body {lambda p : Node} (hmem : lambda ∈ c.elements) (hlambda : lambda.kind = .lambdaArgument)
      (hbody : lambda.firstChild? .lambdaExpression = some p) : Reads style c p
  | literal {arguments argument p : Node} (hnested : style.nested? ≠ none)
      (hmem : arguments ∈ c.elements) (harguments : arguments.kind = .valueArgumentList)
      (hargument : arguments.elements = [argument]) (hexpression : argument.elements = [p])
      (hkind : p.kind = .stringTemplate) : Reads style c p
  | string {p : Node} (hflat : style.nested? = none) (hmem : p ∈ c.elements)
      (hkind : p.kind = .stringTemplate) : Reads style c p

/-- Whether `p` is the string, an argument list or the body of the lambda of a declaration. Both
calls of a chain have an argument list; a string in that of `config` is no part. -/
def SpecStyle.IsOwnPart (style : SpecStyle) (n p : Node) : Prop :=
  (n.kind = .callExpression ∧ style.Reads n p) ∨
  (n.kind = .dotQualifiedExpression ∧ ∃ receiver selector, n.elements = [receiver, selector] ∧
    ((p = receiver ∧ p.kind = .stringTemplate) ∨
      (receiver.kind = .callExpression ∧ style.Reads receiver p) ∨
      (style.Reads selector p ∧ p.kind ≠ .stringTemplate)))

namespace SpecStyle

/-! ### A match lacks no token -/

/-- The body of a trailing lambda is complete. -/
theorem complete_of_isTrailingLambda {lambda : Node} (h : isTrailingLambda lambda = true)
    (hbody : lambda.firstChild? .lambdaExpression = some p) : p.hasMissingChild = false := by
  rw [isTrailingLambda, hbody, Option.any_some, Bool.and_eq_true, Bool.not_eq_true'] at h
  exact h.2

/-- A literal with a value is complete. -/
theorem complete_of_value {value : String} (h : stringLiteralValue n = .ok value) :
    n.hasMissingChild = false := by
  have hterminated := (stringLiteralValue_eq_ok_iff.1 h).2.1
  rw [isTerminated, Bool.and_eq_true, Bool.not_eq_true'] at hterminated
  exact hterminated.2

/-- A trailing lambda is a lambda argument. -/
theorem kind_of_isTrailingLambda {lambda : Node} (h : isTrailingLambda lambda = true) :
    lambda.kind = .lambdaArgument := by
  rw [isTrailingLambda, Bool.and_eq_true] at h
  exact beq_iff_eq.1 h.1

/-- What is read of a call is complete if the elements of the call are. -/
theorem Reads.complete (h : style.Reads c p)
    (harguments : ∀ e ∈ c.elements, e.kind = .valueArgumentList → e.hasMissingChild = false ∧
      (p.kind = .stringTemplate → ∃ value, singleStringArgument e = .ok value))
    (hlambda : ∀ e ∈ c.elements, e.kind = .lambdaArgument → isTrailingLambda e = true)
    (hstring : ∀ e ∈ c.elements, e.kind = .stringTemplate →
      ∃ value, stringLiteralValue e = .ok value) : p.hasMissingChild = false := by
  cases h with
  | arguments he hkind => exact (harguments p he hkind).1
  | body he hkind hbody => exact complete_of_isTrailingLambda (hlambda _ he hkind) hbody
  | literal _ he hkind hargument hexpression htemplate =>
    obtain ⟨value, hvalue⟩ := (harguments _ he hkind).2 htemplate
    obtain ⟨-, argument, expression, hargument', hexpression', hliteral⟩ :=
      singleStringArgument_eq_ok_iff.1 hvalue
    obtain rfl := List.singleton_inj.1 (hargument.symm.trans hargument')
    obtain rfl := List.singleton_inj.1 (hexpression.symm.trans hexpression')
    exact complete_of_value hliteral
  | string _ he htemplate =>
    obtain ⟨value, hvalue⟩ := hstring p he htemplate
    exact complete_of_value hvalue

/-- Every part that is read of a call in the named form is complete. -/
theorem Reads.complete_of_namedCall {function value : String} (h : style.Reads c p)
    (hcall : namedCall function c = .ok value) : p.hasMissingChild = false := by
  obtain ⟨-, callee, arguments, lambda, helements, hcallee, hlist, hlambda, hvalue⟩ :=
    namedCall_eq_ok_iff.1 hcall
  have hname := (isName_eq_true_iff.1 hcallee).1
  have hcomplete := (singleStringArgument_eq_ok_iff.1 hvalue).1
  have hkind := kind_of_isTrailingLambda hlambda
  apply h.complete <;> rw [helements] <;>
    simp [hname, hlist, hkind, hlambda, hcomplete, hvalue]

/-- Every part that is read of a call in front of `config` is complete. -/
theorem Reads.complete_of_plainCall {function value : String} (h : style.Reads c p)
    (hcall : plainCall function c = .ok value) : p.hasMissingChild = false := by
  obtain ⟨-, callee, arguments, helements, hcallee, hlist, hvalue⟩ := plainCall_eq_ok_iff.1 hcall
  have hname := (isName_eq_true_iff.1 hcallee).1
  have hcomplete := (singleStringArgument_eq_ok_iff.1 hvalue).1
  apply h.complete <;> rw [helements] <;> simp [hname, hlist, hcomplete, hvalue]

/-- Every part that is read of a call in the string form is complete. -/
theorem Reads.complete_of_stringCall {value : String} (h : style.Reads c p)
    (hcall : stringCall c = .ok value) : p.hasMissingChild = false := by
  obtain ⟨-, template, lambda, helements, hlambda, hvalue⟩ := stringCall_eq_ok_iff.1 hcall
  have htemplate := (stringLiteralValue_eq_ok_iff.1 hvalue).1
  have hkind := kind_of_isTrailingLambda hlambda
  apply h.complete <;> rw [helements] <;> simp [htemplate, hkind, hlambda, hvalue]

/-- What is read of a call of `config` is complete, but for a string in its arguments. -/
theorem Reads.complete_of_isConfigCall {config : String} (h : style.Reads c p)
    (hne : p.kind ≠ .stringTemplate) (hcall : isConfigCall c config = true) :
    p.hasMissingChild = false := by
  unfold isConfigCall at hcall
  rw [Bool.and_eq_true] at hcall
  obtain ⟨-, hcall⟩ := hcall
  split at hcall
  next callee lambda helements =>
    simp only [Bool.and_eq_true] at hcall
    have hname := (isName_eq_true_iff.1 hcall.1).1
    have hkind := kind_of_isTrailingLambda hcall.2
    apply h.complete <;> rw [helements] <;> simp [hname, hkind, hcall.2]
  next callee arguments lambda helements =>
    simp only [Bool.and_eq_true, Node.is, beq_iff_eq, Bool.not_eq_true'] at hcall
    obtain ⟨⟨⟨hcallee, hlist⟩, hcomplete⟩, hlambda⟩ := hcall
    have hname := (isName_eq_true_iff.1 hcallee).1
    have hkind := kind_of_isTrailingLambda hlambda
    apply h.complete <;> rw [helements] <;> simp [hname, hlist, hkind, hlambda, hcomplete, hne]
  · cases hcall

/-- A match lacks no token in its parts. -/
theorem complete_of_match {t : RecognizedTest} (h : style.tryMatch n = .ok t)
    (hpart : style.IsOwnPart n p) : p.hasMissingChild = false := by
  obtain ⟨kind, name, hout, rfl⟩ := tryMatch_eq_ok_iff_outcome.1 h
  rcases hpart with ⟨hkind, hread⟩ | ⟨hkind, receiver, selector, helements, hpart⟩
  · rcases call_of_outcome hkind hout with
      ⟨rules, -, ⟨-, hcall⟩ | ⟨-, hcall⟩⟩ | ⟨-, -, hcall⟩
    · exact hread.complete_of_namedCall hcall
    · exact hread.complete_of_namedCall hcall
    · exact hread.complete_of_stringCall hcall
  · obtain ⟨receiver', selector', helements', hconfig, hreceiver⟩ := chain_of_outcome hkind hout
    rw [helements, List.cons.injEq, List.singleton_inj] at helements'
    obtain ⟨rfl, rfl⟩ := helements'
    rcases hpart with ⟨rfl, htemplate⟩ | ⟨hcall, hread⟩ | ⟨hread, hne⟩
    · rcases hreceiver with ⟨rules, -, hplain⟩ | ⟨-, hvalue⟩
      · rw [(plainCall_eq_ok_iff.1 hplain).1] at htemplate
        cases htemplate
      · exact complete_of_value hvalue
    · rcases hreceiver with ⟨rules, -, hplain⟩ | ⟨-, hvalue⟩
      · exact hread.complete_of_plainCall hplain
      · rw [(stringLiteralValue_eq_ok_iff.1 hvalue).1] at hcall
        cases hcall
    · exact hread.complete_of_isConfigCall hne hconfig

/-! ### A node is read once -/

/-- A structural child has its node for a parent. -/
theorem parent?_of_mem_elements (h : p ∈ c.elements) : p.parent? = some c :=
  Node.parent?_of_mem_children (Node.mem_children_of_mem_elements h)

/-- A node is a structural child of one node only. -/
theorem eq_of_mem_elements (h : p ∈ c.elements) (h' : p ∈ c'.elements) : c = c' :=
  Option.some.inj ((parent?_of_mem_elements h).symm.trans (parent?_of_mem_elements h'))

/-- A node is the only structural child of one node only. -/
theorem eq_of_elements_eq (h : c.elements = [p]) (h' : c'.elements = [p]) : c = c' :=
  eq_of_mem_elements (h ▸ List.mem_singleton_self p) (h' ▸ List.mem_singleton_self p)

/-- A node is the first child of some kind of one node only. -/
theorem eq_of_firstChild? {kind : NodeKind} (h : c.firstChild? kind = some p)
    (h' : c'.firstChild? kind = some p) : c = c' :=
  Option.some.inj ((Node.parent?_of_mem_children (List.mem_of_find?_eq_some h)).symm.trans
    (Node.parent?_of_mem_children (List.mem_of_find?_eq_some h')))

/-- The first child of a kind is of that kind. -/
theorem kind_of_firstChild? {kind : NodeKind} (h : c.firstChild? kind = some p) :
    p.kind = kind := by
  rw [Node.firstChild?, List.find?_eq_some_iff_append] at h
  exact beq_iff_eq.1 h.1

/-- A node is read of one call only: its kind tells how many steps up that is. -/
theorem Reads.unique (h : style.Reads c p) (h' : style.Reads c' p) : c = c' := by
  cases h with
  | arguments hmem hkind =>
    cases h' with
    | arguments hmem' _ => exact eq_of_mem_elements hmem hmem'
    | body _ _ hbody =>
      rw [kind_of_firstChild? hbody] at hkind
      cases hkind
    | literal _ _ _ _ _ hkind' => cases hkind.symm.trans hkind'
    | string _ _ hkind' => cases hkind.symm.trans hkind'
  | body hmem _ hbody =>
    have hkind := kind_of_firstChild? hbody
    cases h' with
    | arguments _ hkind' => cases hkind.symm.trans hkind'
    | body hmem' _ hbody' =>
      obtain rfl := eq_of_firstChild? hbody hbody'
      exact eq_of_mem_elements hmem hmem'
    | literal _ _ _ _ _ hkind' => cases hkind.symm.trans hkind'
    | string _ _ hkind' => cases hkind.symm.trans hkind'
  | literal hnested hmem _ hargument hexpression hkind =>
    cases h' with
    | arguments _ hkind' => cases hkind.symm.trans hkind'
    | body _ _ hbody =>
      rw [kind_of_firstChild? hbody] at hkind
      cases hkind
    | literal _ hmem' _ hargument' hexpression' _ =>
      obtain rfl := eq_of_elements_eq hexpression hexpression'
      obtain rfl := eq_of_elements_eq hargument hargument'
      exact eq_of_mem_elements hmem hmem'
    | string hflat _ _ => exact absurd hflat hnested
  | string hflat hmem hkind =>
    cases h' with
    | arguments _ hkind' => cases hkind.symm.trans hkind'
    | body _ _ hbody =>
      rw [kind_of_firstChild? hbody] at hkind
      cases hkind
    | literal hnested _ _ _ _ _ => exact absurd hflat hnested
    | string _ hmem' _ => exact eq_of_mem_elements hmem hmem'

/-! ### Parts in a tree -/

/-- The structural children of a node of a tree are nodes of the tree. -/
theorem mem_nodes_of_mem_elements (hc : c ∈ tree.nodes) (h : p ∈ c.elements) : p ∈ tree.nodes :=
  SyntaxTree.mem_nodes_of_mem_descendants
    (Node.mem_descendants_of_mem_children (Node.mem_children_of_mem_elements h)) hc

/-- The parts that are read of a call in a tree are nodes of the tree. -/
theorem Reads.mem_nodes (h : style.Reads c p) (hc : c ∈ tree.nodes) : p ∈ tree.nodes := by
  have hone : ∀ {e f : Node}, e ∈ tree.nodes → e.elements = [f] → f ∈ tree.nodes :=
    fun he hf => mem_nodes_of_mem_elements he (hf ▸ List.mem_singleton_self _)
  cases h with
  | arguments hmem _ => exact mem_nodes_of_mem_elements hc hmem
  | body hmem _ hbody =>
    exact SyntaxTree.mem_nodes_of_mem_descendants
      (Node.mem_descendants_of_mem_children (List.mem_of_find?_eq_some hbody))
      (mem_nodes_of_mem_elements hc hmem)
  | literal _ hmem _ hargument hexpression _ =>
    exact hone (hone (mem_nodes_of_mem_elements hc hmem) hargument) hexpression
  | string _ hmem _ => exact mem_nodes_of_mem_elements hc hmem

/-- The own parts of a declaration in a tree are nodes of the tree. -/
theorem IsOwnPart.mem_nodes (h : style.IsOwnPart n p) (hn : n ∈ tree.nodes) : p ∈ tree.nodes := by
  rcases h with ⟨-, hread⟩ | ⟨-, receiver, selector, helements, hpart⟩
  · exact hread.mem_nodes hn
  · have hreceiver : receiver ∈ tree.nodes := mem_nodes_of_mem_elements hn (by simp [helements])
    have hselector : selector ∈ tree.nodes := mem_nodes_of_mem_elements hn (by simp [helements])
    rcases hpart with ⟨rfl, -⟩ | ⟨-, hread⟩ | ⟨hread, -⟩
    · exact hreceiver
    · exact hread.mem_nodes hreceiver
    · exact hread.mem_nodes hselector

/-- A part of a declaration that is read of a call is read of the declaration itself or of a call in
its chain. -/
theorem IsOwnPart.owner (hpart : style.IsOwnPart n p) (hread : style.Reads c p)
    (hcall : c.kind = .callExpression) :
    c = n ∨ (n.kind = .dotQualifiedExpression ∧ c ∈ n.elements) := by
  rcases hpart with ⟨-, hown⟩ | ⟨hkind, receiver, selector, helements, hpart⟩
  · exact Or.inl (hread.unique hown)
  · rcases hpart with ⟨rfl, htemplate⟩ | ⟨-, hown⟩ | ⟨hown, -⟩
    · have hmem : p ∈ n.elements := by simp [helements]
      exfalso
      cases hread with
      | arguments _ hkind' => cases htemplate.symm.trans hkind'
      | body _ _ hbody => cases htemplate.symm.trans (kind_of_firstChild? hbody)
      | literal _ _ _ _ hexpression _ =>
        -- the argument would be the dotted expression, which has two elements
        obtain rfl := eq_of_mem_elements hmem (hexpression ▸ List.mem_singleton_self p)
        cases helements.symm.trans hexpression
      | string _ hmem' _ =>
        obtain rfl := eq_of_mem_elements hmem hmem'
        cases hkind.symm.trans hcall
    · exact Or.inr ⟨hkind, by simp [helements, hread.unique hown]⟩
    · exact Or.inr ⟨hkind, by simp [helements, hread.unique hown]⟩

/-- In the flat style a string that is a part is an operand of no other dotted expression. -/
theorem IsOwnPart.eq_of_flat (hpart : style.IsOwnPart n p) (hflat : style.nested? = none)
    (htemplate : p.kind = .stringTemplate) (hmem : p ∈ m.elements)
    (hdotted : m.kind = .dotQualifiedExpression) : m = n := by
  have hread : ∀ {c : Node}, style.Reads c p → m = c := by
    intro c hread
    cases hread with
    | arguments _ hkind => cases htemplate.symm.trans hkind
    | body _ _ hbody => cases htemplate.symm.trans (kind_of_firstChild? hbody)
    | literal hnested _ _ _ _ _ => exact absurd hflat hnested
    | string _ hmem' _ => exact eq_of_mem_elements hmem hmem'
  rcases hpart with ⟨-, hown⟩ | ⟨-, receiver, selector, helements, hpart⟩
  · exact hread hown
  · rcases hpart with ⟨rfl, -⟩ | ⟨hcall, hown⟩ | ⟨-, hne⟩
    · exact eq_of_mem_elements hmem (by simp [helements])
    · rw [← hread hown, hdotted] at hcall
      cases hcall
    · exact absurd htemplate hne

end SpecStyle

end KotestOutline
