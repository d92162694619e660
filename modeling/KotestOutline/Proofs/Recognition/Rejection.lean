import KotestOutline.Proofs.Lowering.Row
import KotestOutline.Proofs.Recognition.ConfigForm
import KotestOutline.Proofs.Recognition.Form
import KotestOutline.Proofs.Syntax.Alike
import Mathlib.Data.List.Lookmap

/-!
# The two reasons for a rejection

What is rejected for its literal lacks nothing but a plain literal where its name is read: with one
in that place it matches under the name. And what is rejected for its shape is so whatever is
written in string literals, since forms are read off the outline of a node.
-/

namespace KotestOutline

open SyntaxTree (outline SameOutline)

variable {style : SpecStyle} {n n' c c' : Node} {form : CallForm} {kind : NodeKind}

/-! ### Nodes of one outline -/

namespace SyntaxTree.SameOutline

/-- Trees with one outline have roots of one kind. -/
theorem is_eq (h : n.tree.SameOutline n'.tree) : n.is kind = n'.is kind := by
  rw [Node.is, Node.is, Node.kind, Node.kind, h.kind_eq]

/-- Trees with one outline have children with one outline, unless they are strings, whose entries
may differ. -/
theorem children_nodes (h : n.tree.SameOutline n'.tree) (hkind : n.kind ≠ .stringTemplate) :
    List.Forall₂ (fun c c' : Node => c.tree.SameOutline c'.tree) n.children n'.children := by
  rw [Node.children, Node.children, List.forall₂_map_left_iff, List.forall₂_map_right_iff]
  exact h.children hkind

/-- Trees with one outline have structural children with one outline, unless they are strings. -/
theorem elements (h : n.tree.SameOutline n'.tree) (hkind : n.kind ≠ .stringTemplate) :
    List.Forall₂ (fun c c' : Node => c.tree.SameOutline c'.tree) n.elements n'.elements := by
  apply List.rel_filter _ (h.children_nodes hkind)
  intro c c' hc
  simp only [Node.kind, hc.kind_eq]

/-- Trees with one outline are both complete or both not, unless they are strings. -/
theorem hasMissingChild_eq (h : n.tree.SameOutline n'.tree) (hkind : n.kind ≠ .stringTemplate) :
    n.hasMissingChild = n'.hasMissingChild :=
  Node.hasMissingChild_congr (fun hc => hc.is_eq) (h.children_nodes hkind)

/-- Trees with one outline are the same names. -/
theorem isName_eq (h : n.tree.SameOutline n'.tree) (name : String) :
    isName n name = isName n' name := by
  unfold isName
  rw [← h.is_eq]
  cases hreference : n.is .nameReference with
  | false => rfl
  | true => rw [Node.text, Node.text, h.text_eq (beq_iff_eq.1 hreference)]

/-- Trees with one outline are both trailing lambdas or both not. -/
theorem isTrailingLambda_eq (h : n.tree.SameOutline n'.tree) :
    isTrailingLambda n = isTrailingLambda n' := by
  refine isTrailingLambda_congr h.is_eq fun hlambda => ?_
  refine Node.firstChild?_congr (fun hc => hc.is_eq) (fun hc hbody => ?_) (h.children_nodes ?_)
  · exact hc.hasMissingChild_eq (by rw [beq_iff_eq.1 hbody]; decide)
  · rw [beq_iff_eq.1 hlambda]
    decide

/-- Trees with one outline have one shape to a matcher. -/
theorem sameShape (h : n.tree.SameOutline n'.tree) : n.SameShape n' where
  isName := h.isName_eq
  isArguments := h.is_eq
  isTrailingLambda := h.isTrailingLambda_eq
  isComplete := by
    rw [← h.is_eq]
    cases hlist : n.is .valueArgumentList with
    | false => rfl
    | true => rw [h.hasMissingChild_eq (by rw [beq_iff_eq.1 hlist]; decide)]

/-- Trees with one outline are both calls of `config` or both not. -/
theorem isConfigCall_eq (h : n.tree.SameOutline n'.tree) (config : String) :
    isConfigCall n config = isConfigCall n' config := by
  cases hcall : n.is .callExpression with
  | false => rw [isConfigCall, isConfigCall, ← h.is_eq, hcall, Bool.false_and, Bool.false_and]
  | true =>
    refine isConfigCall_congr h.is_eq ?_
    exact (h.elements (by rw [beq_iff_eq.1 hcall]; decide)).imp fun _ _ hc => hc.sameShape

end SyntaxTree.SameOutline

/-! ### Forms in outlines -/

/-- The head of a call stays one when its outline does. -/
theorem IsHead.of_sameOutline {callee arguments callee' arguments' : Node} {function : String}
    (h : IsHead callee arguments function) (hcallee : callee.tree.SameOutline callee'.tree)
    (harguments : arguments.tree.SameOutline arguments'.tree) :
    IsHead callee' arguments' function where
  name := (hcallee.isName_eq function).symm.trans h.name
  kind := harguments.kind_eq.symm.trans h.kind
  complete :=
    (harguments.hasMissingChild_eq (by rw [h.kind]; decide)).symm.trans h.complete

/-- A form shows in the outline, and so does what styles make of it. -/
theorem Node.HasForm.of_sameOutline (hform : n.HasForm form) (h : n.tree.SameOutline n'.tree) :
    ∃ form', n'.HasForm form' ∧
      ∀ style : SpecStyle, style.declares? form' = style.declares? form := by
  cases hform with
  | named kind elements head block =>
    have hpieces := h.elements (by rw [kind]; decide)
    rw [elements] at hpieces
    generalize hpieces' : n'.elements = pieces' at hpieces
    obtain _ | ⟨hcallee, _ | ⟨harguments, _ | ⟨hlambda, _ | _⟩⟩⟩ := hpieces
    refine ⟨_, .named (h.kind_eq.symm.trans kind) hpieces'
      (head.of_sameOutline hcallee harguments) (hlambda.isTrailingLambda_eq.symm.trans block),
      fun style => ?_⟩
    cases hnested : style.nested? <;> simp only [SpecStyle.declares?, hnested]
  | string kind elements head block =>
    have hpieces := h.elements (by rw [kind]; decide)
    rw [elements] at hpieces
    generalize hpieces' : n'.elements = pieces' at hpieces
    obtain _ | ⟨htemplate, _ | ⟨hlambda, _ | _⟩⟩ := hpieces
    refine ⟨_, .string (h.kind_eq.symm.trans kind) hpieces' (htemplate.kind_eq.symm.trans head)
      (hlambda.isTrailingLambda_eq.symm.trans block), fun style => ?_⟩
    cases hnested : style.nested? <;> simp only [SpecStyle.declares?, hnested]
  | configuredNamed kind operands config isCall elements head =>
    have hoperands := h.elements (by rw [kind]; decide)
    rw [operands] at hoperands
    generalize hoperands' : n'.elements = operands' at hoperands
    obtain _ | ⟨hcall, _ | ⟨hselector, _ | _⟩⟩ := hoperands
    have hpieces := hcall.elements (by rw [isCall]; decide)
    rw [elements] at hpieces
    generalize hpieces' : Node.elements _ = pieces' at hpieces
    obtain _ | ⟨hcallee, _ | ⟨harguments, _ | _⟩⟩ := hpieces
    refine ⟨_, .configuredNamed (h.kind_eq.symm.trans kind) hoperands'
      ((hselector.isConfigCall_eq _).symm.trans config) (hcall.kind_eq.symm.trans isCall) hpieces'
      (head.of_sameOutline hcallee harguments), fun style => ?_⟩
    cases hnested : style.nested? <;> simp only [SpecStyle.declares?, hnested]
  | configuredString kind operands config head =>
    have hoperands := h.elements (by rw [kind]; decide)
    rw [operands] at hoperands
    generalize hoperands' : n'.elements = operands' at hoperands
    obtain _ | ⟨htemplate, _ | ⟨hselector, _ | _⟩⟩ := hoperands
    refine ⟨_, .configuredString (h.kind_eq.symm.trans kind) hoperands'
      ((hselector.isConfigCall_eq _).symm.trans config) (htemplate.kind_eq.symm.trans head),
      fun style => ?_⟩
    cases hnested : style.nested? <;> simp only [SpecStyle.declares?, hnested]

/-- What has the wrong shape has it in every tree of the outline. -/
theorem SpecStyle.tryMatch_eq_shape_congr (h : n.tree.SameOutline n'.tree) :
    style.tryMatch n = .error .shape ↔ style.tryMatch n' = .error .shape := by
  have himp : ∀ {n n' : Node}, n.tree.SameOutline n'.tree →
      style.tryMatch n = .error .shape → style.tryMatch n' = .error .shape := by
    intro n n' h hshape
    refine tryMatch_eq_shape_iff.2 fun form' hform' => ?_
    obtain ⟨form, hform, hdeclares⟩ := hform'.of_sameOutline h.symm
    rw [← hdeclares]
    exact tryMatch_eq_shape_iff.1 hshape form hform
  exact ⟨himp h, himp h.symm⟩

/-- A lowered name has its identifier below it and nothing else. -/
theorem Cst.namesApart_of_mem_lower {src : Source} {cst : Cst} {t : SyntaxTree}
    (ht : t ∈ (lower src cst).preorder) : NamesApart (outline t) := by
  intro o ho hlabel v hv
  obtain ⟨m, hm, rfl⟩ := SyntaxTree.exists_of_mem_preorder_outline ho
  have hkind : m.label.kind = .nameReference := by
    rw [← SyntaxTree.fst_label_outline, hlabel]
  have hnode : m ∈ (SyntaxTree.nodes (lower src cst)).map Node.tree := by
    rw [SyntaxTree.map_tree_nodes]
    exact RoseTree.mem_preorder_trans hm ht
  obtain ⟨n, hn, rfl⟩ := List.mem_map.1 hnode
  obtain ⟨-, label, hidentifier, hchildren⟩ := reference_of_mem_nodes hn hkind
  rw [SyntaxTree.outline_of_ne (by rw [hkind]; decide), hchildren] at hv
  obtain rfl | ⟨leaf, hleaf, hv⟩ := RoseTree.mem_preorder_iff.1 hv
  · exact fun h => NodeKind.noConfusion (hkind.symm.trans h)
  · obtain rfl := List.mem_singleton.1 hleaf
    have hne : (RoseTree.node label ([] : List SyntaxTree)).label.kind ≠ .stringTemplate := by
      show label.kind ≠ _
      rw [hidentifier]
      decide
    rw [SyntaxTree.outline_of_ne hne] at hv
    obtain rfl | ⟨_, hnone, -⟩ := RoseTree.mem_preorder_iff.1 hv
    · exact hne
    · cases hnone

/-! ### Names put in place -/

/-- The tree with some of its children replaced by others, the first ones that are. -/
def SyntaxTree.replaceFirst (f : SyntaxTree → Option SyntaxTree) (t : SyntaxTree) : SyntaxTree :=
  .node t.label (t.children.lookmap f)

/-- The tree with other content in its first child of a kind. -/
def SyntaxTree.refill (kind : NodeKind) (content : List SyntaxTree) (t : SyntaxTree) : SyntaxTree :=
  t.replaceFirst fun c => if c.label.kind = kind then some (.node c.label content) else none

/-- The tree with its first element changed. -/
def SyntaxTree.changeReceiver (f : SyntaxTree → SyntaxTree) (t : SyntaxTree) : SyntaxTree :=
  t.replaceFirst fun c => if c.label.kind.isToken then none else some (f c)

/-- The tree with other content where a style reads the name of a declaration: in the argument list
of the call, or in the string of the flat style. -/
def SpecStyle.refillName (style : SpecStyle) (content : List SyntaxTree) (t : SyntaxTree) :
    SyntaxTree :=
  if style.nested?.isNone then t.refill .stringTemplate content
  else if t.label.kind = .callExpression then t.refill .valueArgumentList content
  else t.changeReceiver (SyntaxTree.refill .valueArgumentList content)

/-- Whether an argument list with this content has a literal as its only argument. -/
structure IsArgumentOf (content : List SyntaxTree) (value : String) : Prop where
  complete : ∀ c ∈ content, c.label.kind ≠ .missing
  argument : ∃ argument template : SyntaxTree,
    content.filter (!·.label.kind.isToken) = [argument] ∧ argument.elements = [template] ∧
      (Node.ofTree template).IsLiteralOf IsEscapeOf value

/-- Whether a content, where the style reads a name, is one literal. -/
def SpecStyle.IsNameContent (style : SpecStyle) (content : List SyntaxTree) (value : String) :
    Prop :=
  if style.nested?.isNone then
    ∀ label : Label, label.kind = .stringTemplate →
      (Node.ofTree (.node label content)).IsLiteralOf IsEscapeOf value
  else IsArgumentOf content value

/-! ### Elements of changed trees -/

namespace SyntaxTree

variable {t u : SyntaxTree} {content : List SyntaxTree} {f : SyntaxTree → Option SyntaxTree}

/-- Replacing a child changes that one among the structural children, if no token is replaced or put
in. -/
theorem elements_replaceFirst (hf : ∀ c c', f c = some c' →
      c.label.kind.isToken = false ∧ c'.label.kind.isToken = false) (t : SyntaxTree) :
    (t.replaceFirst f).elements = t.elements.lookmap f := by
  unfold elements replaceFirst
  rw [RoseTree.children_node]
  induction t.children with
  | nil => rfl
  | cons c cs ih =>
    cases hc : f c with
    | some c' =>
      obtain ⟨helement, helement'⟩ := hf c c' hc
      rw [List.lookmap_cons_some _ _ hc, List.filter_cons_of_pos (by rw [helement']; rfl),
        List.filter_cons_of_pos (by rw [helement]; rfl), List.lookmap_cons_some _ _ hc]
    | none =>
      rw [List.lookmap_cons_none _ _ hc, List.filter_cons, List.filter_cons, ih]
      split
      · rw [List.lookmap_cons_none _ _ hc]
      · rfl

/-- The content of the first element of a kind is changed, and nothing else. -/
theorem elements_refill {front back : List SyntaxTree} (hkind : kind.isToken = false)
    (h : t.elements = front ++ u :: back) (hfront : ∀ c ∈ front, c.label.kind ≠ kind)
    (hu : u.label.kind = kind) :
    (t.refill kind content).elements = front ++ .node u.label content :: back := by
  rw [refill, elements_replaceFirst, h]
  · clear h
    induction front with
    | nil => exact List.lookmap_cons_some _ _ (if_pos hu)
    | cons c front ih =>
      obtain ⟨hc, hfront⟩ := List.forall_mem_cons.1 hfront
      have hnone : (if c.label.kind = kind then some (RoseTree.node c.label content) else none) =
          none := if_neg hc
      rw [List.cons_append, List.lookmap_cons_none _ _ hnone, ih hfront, List.cons_append]
  · intro c c' hc
    split at hc
    next h =>
      obtain rfl := Option.some.inj hc
      exact ⟨h ▸ hkind, h ▸ hkind⟩
    · cases hc

/-- The first element is changed, and no other. -/
theorem elements_changeReceiver {g : SyntaxTree → SyntaxTree} {rest : List SyntaxTree}
    (hg : ∀ c, (g c).label = c.label) (h : t.elements = u :: rest) :
    (t.changeReceiver g).elements = g u :: rest := by
  have hu : u.label.kind.isToken = false := by
    have hmem : u ∈ t.elements := by
      rw [h]
      exact List.mem_cons_self
    simpa using (List.mem_filter.1 hmem).2
  rw [changeReceiver, elements_replaceFirst, h]
  · exact List.lookmap_cons_some _ _ (by rw [hu]; rfl)
  · intro c c' hc
    split at hc
    · cases hc
    next helement =>
      obtain rfl := Option.some.inj hc
      rw [hg]
      exact ⟨Bool.eq_false_iff.2 helement, Bool.eq_false_iff.2 helement⟩

end SyntaxTree

/-- The trees of the structural children are the structural children of the tree. -/
theorem Node.map_tree_elements (n : Node) : n.elements.map Node.tree = n.tree.elements := by
  rw [elements_eq_map, List.map_map]
  exact List.map_id'' (fun _ => rfl) _

/-- What is read of the pieces of a call does not depend on where they stand. -/
theorem Node.samePiece_child (n c : Node) : (n.child c.tree).SamePiece c :=
  SpecStyle.Reforms.samePiece (.alike (.refl c.tree) : SpecStyle.Reforms .funSpec _ c.tree)

/-- A call is one of `config` in whatever place it stands. -/
theorem isConfigCall_child (n c : Node) :
    isConfigCall (n.child c.tree) configFunction = isConfigCall c configFunction := by
  have hsame : SpecStyle.SameOperand .funSpec (n.child c.tree) c :=
    SpecStyle.Reforms.sameOperand (.alike (.refl c.tree) : SpecStyle.Reforms .funSpec _ c.tree)
  exact hsame.isConfigCall

/-! ### Forms with a name put in place -/

section Refilled

variable {callee arguments : Node} {function value : String} {content : List SyntaxTree}

/-- An argument list with one literal in it is complete. -/
theorem hasMissingChild_of_content (h : IsArgumentOf content value) {list : SyntaxTree}
    (hlist : n.tree = .node list.label content) : n.hasMissingChild = false := by
  unfold Node.hasMissingChild
  rw [Node.children_eq_map, hlist, RoseTree.children_node, List.any_map, List.any_eq_false]
  intro c hc
  simpa [Node.is, Node.kind] using h.complete c hc

/-- A literal is one wherever it stands. -/
theorem stringLiteralValue_of_isLiteralOf {template : SyntaxTree}
    (h : (Node.ofTree template).IsLiteralOf IsEscapeOf value) (hn : n.tree = template) :
    stringLiteralValue n = .ok value := by
  have hvalue : stringLiteralValue (.ofTree template) = .ok value :=
    stringLiteralValue_eq_ok_iff_isLiteralOf.2 (h.imp fun _ _ _ _ hescape => .inl hescape)
  rw [← hvalue]
  exact SpecStyle.Reforms.value_eq (.alike (by rw [hn]; exact .refl template) :
    SpecStyle.Reforms .funSpec n.tree (Node.ofTree template).tree)

/-- The name in an argument list is its only literal. -/
theorem singleStringArgument_of_content (h : IsArgumentOf content value) {list : SyntaxTree}
    (hlist : n.tree = .node list.label content) : singleStringArgument n = .ok value := by
  obtain ⟨argument, template, hargument, htemplate, hliteral⟩ := h.argument
  have hargument' : n.elements = [n.child argument] := by
    rw [Node.elements_eq_map, hlist]
    exact congrArg _ hargument
  have htemplate' : (n.child argument).elements = [(n.child argument).child template] := by
    rw [Node.elements_eq_map, Node.tree_child, htemplate]
    rfl
  exact singleStringArgument_eq_ok_iff.2 ⟨hasMissingChild_of_content h hlist, _, _, hargument',
    htemplate', stringLiteralValue_of_isLiteralOf hliteral rfl⟩

/-- The head of a call stays one when its argument list holds one literal instead. -/
theorem IsHead.refill (head : IsHead callee arguments function) (h : IsArgumentOf content value)
    (n : Node) :
    IsHead (n.child callee.tree) (n.child (.node arguments.tree.label content)) function where
  name := ((n.samePiece_child callee).isName function).trans head.name
  kind := head.kind
  complete := hasMissingChild_of_content h rfl

/-- The callee of a call is no argument list. -/
theorem IsHead.callee_ne (head : IsHead callee arguments function) :
    ∀ c ∈ [callee], c.kind ≠ .valueArgumentList := by
  intro c hc
  rw [List.mem_singleton.1 hc, (isName_eq_true_iff.1 head.name).1]
  decide

end Refilled

/-- The elements of a node in which one has other content. -/
theorem Node.elements_refill {content : List SyntaxTree} {u : Node} {back : List Node}
    (front : List Node) (hkind : kind.isToken = false) (h : n.elements = front ++ u :: back)
    (hfront : ∀ c ∈ front, c.kind ≠ kind) (hu : u.kind = kind)
    (hn' : n'.tree = n.tree.refill kind content) :
    n'.elements = front.map (n'.child ·.tree) ++
      n'.child (.node u.tree.label content) :: back.map (n'.child ·.tree) := by
  have htrees : n.tree.elements = front.map Node.tree ++ u.tree :: back.map Node.tree := by
    rw [← map_tree_elements, h, List.map_append, List.map_cons]
  have hfront' : ∀ c ∈ front.map Node.tree, c.label.kind ≠ kind := List.forall_mem_map.2 hfront
  rw [elements_eq_map, hn', SyntaxTree.elements_refill hkind htrees hfront' hu, List.map_append,
    List.map_cons, List.map_map, List.map_map]
  rfl

/-- A call by name has its name changed in its own argument list. -/
theorem SpecStyle.refillName_of_call {rules : NestedStyle} {t : SyntaxTree}
    (hnested : style.nested? = some rules) (hkind : t.label.kind = .callExpression)
    (content : List SyntaxTree) :
    style.refillName content t = t.refill .valueArgumentList content := by
  rw [refillName, if_neg (by rw [hnested]; exact Bool.false_ne_true), if_pos hkind]

/-- A chain on a call by name has its name changed in the argument list of that call. -/
theorem SpecStyle.refillName_of_dotted {rules : NestedStyle} {t : SyntaxTree}
    (hnested : style.nested? = some rules) (hkind : t.label.kind = .dotQualifiedExpression)
    (content : List SyntaxTree) :
    style.refillName content t =
      t.changeReceiver (SyntaxTree.refill .valueArgumentList content) := by
  rw [refillName, if_neg (by rw [hnested]; exact Bool.false_ne_true),
    if_neg (by rw [hkind]; decide)]

/-- A call of a string has its name changed in the string. -/
theorem SpecStyle.refillName_of_flat (hflat : style.nested? = none) (content : List SyntaxTree)
    (t : SyntaxTree) : style.refillName content t = t.refill .stringTemplate content := by
  rw [refillName, hflat]
  rfl

/-- A declaration keeps its kind when its name is changed. -/
theorem Node.kind_eq_of_refillName {content : List SyntaxTree}
    (hn' : n'.tree = style.refillName content n.tree) : n'.kind = n.kind := by
  rw [Node.kind, hn', SpecStyle.refillName]
  split
  · rfl
  · split <;> rfl

/-- With a literal in the place of its string, a node keeps a form of the flat style. -/
theorem Node.HasForm.refillName_of_flat {content : List SyntaxTree} {value : String}
    {declared : TestKind} (hflat : style.nested? = none) (hform : n.HasForm form)
    (hdeclared : style.declares? form = some declared)
    (hcontent : style.IsNameContent content value)
    (hn' : n'.tree = style.refillName content n.tree) :
    ∃ form', n'.HasForm form' ∧ style.declares? form' = some declared ∧
      form'.value = .ok value := by
  have hkind := Node.kind_eq_of_refillName hn'
  rw [SpecStyle.refillName_of_flat hflat] at hn'
  rw [SpecStyle.IsNameContent, hflat] at hcontent
  have hvalue : ∀ {template c : Node}, template.kind = .stringTemplate →
      stringLiteralValue (c.child (.node template.tree.label content)) = .ok value :=
    fun htemplate => stringLiteralValue_of_isLiteralOf (hcontent _ htemplate) rfl
  cases hform with
  | string kind elements head block =>
    have helements := Node.elements_refill [] rfl elements (by simp) head hn'
    refine ⟨_, .string (hkind.trans kind) helements head ?_, ?_, hvalue head⟩
    · exact (n'.samePiece_child _).isTrailingLambda.trans block
    · simpa [SpecStyle.declares?, hflat] using hdeclared
  | configuredString kind operands config head =>
    have helements := Node.elements_refill [] rfl operands (by simp) head hn'
    refine ⟨_, .configuredString (hkind.trans kind) helements ?_ head, ?_, hvalue head⟩
    · exact (isConfigCall_child n' _).trans config
    · simpa [SpecStyle.declares?, hflat] using hdeclared
  | named | configuredNamed => simp [SpecStyle.declares?, hflat] at hdeclared

/-- With a literal as its only argument, a node keeps a form of a style with containers. -/
theorem Node.HasForm.refillName_of_nested {content : List SyntaxTree} {value : String}
    {declared : TestKind} {rules : NestedStyle} (hnested : style.nested? = some rules)
    (hform : n.HasForm form) (hdeclared : style.declares? form = some declared)
    (hcontent : style.IsNameContent content value)
    (hn' : n'.tree = style.refillName content n.tree) :
    ∃ form', n'.HasForm form' ∧ style.declares? form' = some declared ∧
      form'.value = .ok value := by
  have hkind := Node.kind_eq_of_refillName hn'
  rw [SpecStyle.IsNameContent, hnested] at hcontent
  cases hform with
  | named kind elements head block =>
    rw [SpecStyle.refillName_of_call hnested kind] at hn'
    have helements := Node.elements_refill [_] rfl elements head.callee_ne head.kind hn'
    refine ⟨_, .named (hkind.trans kind) helements (head.refill hcontent n') ?_, ?_,
      singleStringArgument_of_content hcontent rfl⟩
    · exact (n'.samePiece_child _).isTrailingLambda.trans block
    · simpa [SpecStyle.declares?, hnested] using hdeclared
  | @configuredNamed call selector callee arguments function kind operands config isCall elements
      head =>
    rw [SpecStyle.refillName_of_dotted hnested kind] at hn'
    have htrees : n.tree.elements = [call.tree, selector.tree] := by
      rw [← Node.map_tree_elements, operands, List.map_cons, List.map_singleton]
    let receiver := n'.child (call.tree.refill .valueArgumentList content)
    have hreceiver : receiver.tree = call.tree.refill .valueArgumentList content := rfl
    have hoperands : n'.elements = [receiver, n'.child selector.tree] := by
      rw [Node.elements_eq_map, hn', SyntaxTree.elements_changeReceiver
        (g := SyntaxTree.refill _ content) (fun _ => rfl) htrees]
      rfl
    have helements := Node.elements_refill [_] rfl elements head.callee_ne head.kind hreceiver
    refine ⟨_, .configuredNamed (hkind.trans kind) hoperands ?_ isCall helements
      (head.refill hcontent receiver), ?_, singleStringArgument_of_content hcontent rfl⟩
    · exact (isConfigCall_child n' _).trans config
    · simpa [SpecStyle.declares?, hnested] using hdeclared
  | string | configuredString => simp [SpecStyle.declares?, hnested] at hdeclared

/-- With a literal where its name is read, a node has a form that declares the same, under the
literal as its name. -/
theorem Node.HasForm.refillName {content : List SyntaxTree} {value : String} {declared : TestKind}
    (hform : n.HasForm form) (hdeclared : style.declares? form = some declared)
    (hcontent : style.IsNameContent content value)
    (hn' : n'.tree = style.refillName content n.tree) :
    ∃ form', n'.HasForm form' ∧ style.declares? form' = some declared ∧
      form'.value = .ok value := by
  cases hnested : style.nested? with
  | none => exact hform.refillName_of_flat hnested hdeclared hcontent hn'
  | some rules => exact hform.refillName_of_nested hnested hdeclared hcontent hn'

/-! ### Both reasons -/

/-- **The two reasons for a rejection are told apart.** A node that a style rejects for its literal
matches, and under that name, as soon as the argument list of its call, or in the flat style its
string, is one literal. A node that it rejects for its shape is rejected so in every tree that
differs only inside of string templates, if no name is made up of the texts below it and holds a
template; and no lowered tree has such a name. -/
theorem tryMatch_reasons (style : SpecStyle) (around : Context Label) (t : SyntaxTree) :
    (style.tryMatch (.within around t) = .error .literal →
      ∀ content value, style.IsNameContent content value →
        ∃ test, style.tryMatch (.within around (style.refillName content t)) = .ok test ∧
          test.name = value) ∧
    (∀ around' t', outline t = outline t' → NamesApart (outline t) →
      (style.tryMatch (.within around t) = .error .shape ↔
        style.tryMatch (.within around' t') = .error .shape)) ∧
    ∀ src cst, t ∈ (Cst.lower src cst).preorder → NamesApart (outline t) := by
  refine ⟨fun hliteral content value hcontent => ?_, fun around' t' houtline hapart => ?_,
    fun src cst ht => Cst.namesApart_of_mem_lower ht⟩
  · obtain ⟨form, kind, hform, hdeclared, -⟩ := SpecStyle.tryMatch_eq_literal_iff.1 hliteral
    have htree : (Node.within around (style.refillName content t)).tree =
        style.refillName content (Node.within around t).tree := rfl
    obtain ⟨form', hform', hdeclared', hvalue'⟩ := hform.refillName hdeclared hcontent htree
    have hout := SpecStyle.outcome_eq_ok_iff.2 ⟨form', hform', hdeclared', hvalue'⟩
    exact ⟨_, SpecStyle.tryMatch_eq_ok_iff_outcome.2 ⟨_, _, hout, rfl⟩, rfl⟩
  · exact SpecStyle.tryMatch_eq_shape_congr ⟨houtline, hapart⟩

/-- A call of a function with an argument list and a lambda. -/
def plainCallOf (function : String) (arguments : SyntaxTree) : SyntaxTree :=
  plainNode .callExpression [plainReference function, arguments, plainLambda]

/-- The content of an argument list with one string. -/
theorem isNameContent_plainArguments :
    SpecStyle.IsNameContent .funSpec (plainArguments "b").children "b" := by
  have hargument : IsArgumentOf (plainArguments "b").children "b" := by
    refine ⟨by decide, _, _, rfl, rfl, ⟨rfl, ?_, ?_, by decide, [[], ['b'], []], ?_, rfl⟩⟩
    · exact ⟨_, List.mem_cons_self, rfl⟩
    · exact ⟨_, List.mem_cons_of_mem _ (List.mem_cons_of_mem _ List.mem_cons_self), rfl⟩
    · exact .cons (.quote (.inl rfl)) (.cons (.literal rfl) (.cons (.quote (.inr rfl)) .nil))
  exact hargument

/-- A test without a name gets one, and a call of another function has the wrong shape with every
string. -/
theorem tryMatch_reasons_plainCallOf :
    (∃ test, SpecStyle.tryMatch .funSpec (.within [] (SpecStyle.refillName .funSpec
        (plainArguments "b").children (plainCallOf "test" (plainNode .valueArgumentList [])))) =
          .ok test ∧ test.name = "b") ∧
      SpecStyle.tryMatch .funSpec (.within [] (plainCallOf "scenario" (plainArguments "c"))) =
        .error .shape := by
  have hliteral : SpecStyle.tryMatch .funSpec (.within [] (plainCallOf "test"
      (plainNode .valueArgumentList []))) = .error .literal := by rfl
  have hshape : SpecStyle.tryMatch .funSpec (.within [] (plainCallOf "scenario"
      (plainArguments "b"))) = .error .shape := by rfl
  have hapart : NamesApart (outline (plainCallOf "scenario" (plainArguments "b"))) := by decide
  obtain ⟨hnamed, -, -⟩ := tryMatch_reasons .funSpec [] (plainCallOf "test"
    (plainNode .valueArgumentList []))
  obtain ⟨-, hsame, -⟩ := tryMatch_reasons .funSpec [] (plainCallOf "scenario" (plainArguments "b"))
  exact ⟨hnamed hliteral _ _ isNameContent_plainArguments,
    (hsame [] (plainCallOf "scenario" (plainArguments "c")) rfl hapart).1 hshape⟩

/-- A call in which the name of the function is a string. -/
def calledString (name : String) : SyntaxTree :=
  plainNode .callExpression
    [plainNode .nameReference [plainNode .stringTemplate [plainLeaf .literalStringEntry name]],
      plainArguments "b", plainLambda]

/-- A name that is made up of a string differs with what is written in it, so the condition on names
cannot be dropped. -/
theorem not_forall_tryMatch_eq_shape_congr :
    ¬ ∀ (style : SpecStyle) (around around' : Context Label) (t t' : SyntaxTree),
      outline t = outline t' →
        (style.tryMatch (.within around t) = .error .shape ↔
          style.tryMatch (.within around' t') = .error .shape) := by
  intro h
  have hother : SpecStyle.tryMatch .funSpec (.within [] (calledString "x")) = .error .shape := by
    rfl
  have htest := (h .funSpec [] [] (calledString "x") (calledString "test") rfl).1 hother
  cases htest

end KotestOutline
