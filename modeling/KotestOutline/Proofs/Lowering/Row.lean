import KotestOutline.Proofs.Lowering.Everywhere
import KotestOutline.Proofs.Lowering.Numbered
import KotestOutline.Proofs.Syntax.Order

/-!
# Rows and tokens

What single rows lower to, and the tokens of the lowered file.
-/

namespace KotestOutline

/-!
## Rows one by one

`Cst.sketches` is what a concrete tree lowers to. It is computed from the row at the root and from
what the trees below it lower to.

* `Role.mem_kinds_of_ofKind_eq` and `Role.eq_of_ofKind_eq`: the kinds of rows that have a role.

A supertype list never stands among the sketches of a row (`Cst.isSuperTypeList_of_mem_sketches`):
only the child list of a class or object has one.
-/

/-! ### Kinds of a role -/

namespace Role

/-- The kinds of rows that have a role of their own. -/
def kinds : Role → List String
  | .wrapper => KindNames.wrappers
  | .packageHeader => ["package_header"]
  | .importHeader => ["import", "import_header"]
  | .classDeclaration => ["class_declaration"]
  | .objectDeclaration => ["object_declaration"]
  | .classBody => ["class_body", "enum_class_body"]
  | .initializer => ["anonymous_initializer"]
  | .block => ["block"]
  | .call => ["call_expression"]
  | .navigation => ["navigation_expression"]
  | .arguments => ["value_arguments"]
  | .argument => ["value_argument"]
  | .lambdaArgument => ["annotated_lambda"]
  | .lambda => ["lambda_literal"]
  | .string => KindNames.strings
  | .identifier => KindNames.identifiers
  | .other => []

/-- A choice between two roles knows its kind if each of the roles does. -/
theorem mem_kinds_ite {c : Prop} [Decidable c] {kind : String} {a b : Role}
    (ha : c → kind ∈ a.kinds) (hb : b ≠ .other → kind ∈ b.kinds) :
    (if c then a else b) ≠ .other → kind ∈ (if c then a else b).kinds := by
  intro hother
  split_ifs at hother ⊢ with h
  · exact ha h
  · exact hb hother

/-- A row with a role of its own is of a kind that has the role. -/
theorem mem_kinds_of_ofKind_eq {kind : String} {role : Role} (h : ofKind kind = role)
    (hrole : role ≠ .other) : kind ∈ role.kinds := by
  subst h
  revert hrole
  unfold ofKind
  repeat refine mem_kinds_ite (fun h => by simpa [kinds] using h) ?_
  exact fun hother => absurd rfl hother

/-- A role that only one kind has tells the kind. -/
theorem eq_of_ofKind_eq {kind name : String} {role : Role} (h : ofKind kind = role)
    (hkinds : role.kinds = [name]) : kind = name := by
  have hother : role ≠ .other := by
    rintro rfl
    cases hkinds
  have hmem := mem_kinds_of_ofKind_eq h hother
  rw [hkinds] at hmem
  exact List.mem_singleton.1 hmem

end Role

namespace Cst

variable {src : Source} {row : Row} {ts : List Cst} {t : Cst}

/-- What a concrete tree lowers to. -/
def sketches (src : Source) (t : Cst) : List Sketch := (toPart src t).sketches

/-- A row lowers to what its rule makes of it and of the parts below it. -/
theorem sketches_node (src : Source) (row : Row) (ts : List Cst) :
    sketches src (.node row ts) = Part.rowNodes src row (ts.map (toPart src)) := by
  rw [sketches, toPart_node]
  rfl

/-- A named row that is neither missing nor an error nor a comment lowers by its role. -/
theorem sketches_of_construct (src : Source) (ts : List Cst) (hnamed : row.named = true)
    (hmissing : row.missing = false) (herror : row.error = false)
    (hcomment : row.isComment = false) :
    sketches src (.node row ts) = Part.constructNodes src row (ts.map (toPart src)) := by
  rw [sketches_node]
  unfold Part.rowNodes
  rw [hmissing, herror, hcomment, hnamed]
  rfl

/-- The parts of some trees lower to what the trees lower to. -/
theorem sketchAll_map_toPart (src : Source) (ts : List Cst) :
    Part.sketchAll (ts.map (toPart src)) = ts.flatMap (sketches src) := by
  unfold Part.sketchAll
  rw [List.flatMap_map]
  rfl

/-- The part of a tree is its row with what the tree lowers to. -/
theorem label_toPart (src : Source) (t : Cst) :
    (toPart src t).label = (t.label, sketches src t) := by
  obtain ⟨row, ts⟩ := t
  rw [sketches, toPart_node]
  rfl

/-- The part of a tree has the row of the tree. -/
theorem row_toPart (src : Source) (t : Cst) : Part.row (toPart src t) = t.label := by
  rw [Part.row, label_toPart]

/-- The part of a tree is named where its row is. -/
theorem isNamed_toPart (src : Source) (t : Cst) : Part.isNamed (toPart src t) = t.label.named := by
  rw [Part.isNamed, row_toPart]

/-- The part of a tree is of the kind that its row is of. -/
theorem isKind_toPart (src : Source) (t : Cst) (kind : String) :
    Part.isKind (toPart src t) kind = (t.label.kind == kind) := by
  rw [Part.isKind, row_toPart]

/-- The children of a part are the parts of the children. -/
theorem children_toPart (src : Source) (t : Cst) :
    (toPart src t).children = t.children.map (toPart src) := by
  obtain ⟨row, ts⟩ := t
  rw [toPart_node]
  rfl

/-- A part below a part comes from a tree below the tree. -/
theorem exists_of_mem_preorder_toPart {q : Part} (hq : q ∈ (toPart src t).preorder) :
    ∃ u ∈ t.preorder, toPart src u = q := by
  induction t using RoseTree.induction with
  | node row ts ih =>
    rcases RoseTree.mem_preorder_iff.1 hq with rfl | ⟨p, hp, hq⟩
    · exact ⟨_, RoseTree.self_mem_preorder _, rfl⟩
    · rw [children_toPart, List.mem_map] at hp
      obtain ⟨t, ht, rfl⟩ := hp
      obtain ⟨u, hu, hq⟩ := ih t ht hq
      exact ⟨u, RoseTree.mem_preorder_iff.2 (Or.inr ⟨t, ht, hu⟩), hq⟩

/-! ### Supertype lists -/

/-- A call is no supertype list. -/
theorem isSuperTypeList_callNode (src : Source) (row : Row) (ps : List Part) :
    (Part.callNode src row ps).isSuperTypeList = false := by
  simp only [Part.callNode]
  split
  · rfl
  · split
    · rfl
    · rfl

/-- A dotted access is no supertype list. -/
theorem isSuperTypeList_navigationNode (src : Source) (row : Row) (ps : List Part) :
    (Part.navigationNode src row ps).isSuperTypeList = false := by
  simp only [Part.navigationNode]
  split
  · rfl
  · rfl

/-- By induction on the tree: no row lowers to a supertype list, as wrappers only pass on what is
below them. -/
theorem isSuperTypeList_of_mem_sketches (src : Source) (t : Cst) :
    ∀ s ∈ sketches src t, s.isSuperTypeList = false := by
  induction t using RoseTree.induction with
  | node row ts ih =>
    have hall : ∀ s ∈ Part.sketchAll (ts.map (toPart src)), s.isSuperTypeList = false := by
      intro s hs
      rw [sketchAll_map_toPart] at hs
      obtain ⟨t, ht, hs⟩ := List.mem_flatMap.1 hs
      exact ih t ht s hs
    intro s hs
    rw [sketches_node] at hs
    rcases Part.mem_rowNodes hs with ⟨-, rfl⟩ | rfl | rfl | hs
    · rfl
    · rfl
    · unfold Part.tokenLeaf
      dsimp only
      split_ifs <;> rfl
    · simp only [Part.constructNodes] at hs
      cases hrole : Role.ofKind row.kind <;> simp only [hrole, List.mem_singleton] at hs
      case wrapper => exact hall s hs
      case call => exact hs ▸ isSuperTypeList_callNode src row _
      case navigation => exact hs ▸ isSuperTypeList_navigationNode src row _
      all_goals exact hs ▸ rfl

/-- Rows lower to no supertype lists of their own, which only the rule for a class makes. -/
theorem countP_flatMap_sketches (src : Source) (ts : List Cst) :
    (ts.flatMap (sketches src)).countP Sketch.isSuperTypeList = 0 := by
  apply Sketch.countP_isSuperTypeList_eq_zero
  intro s hs
  obtain ⟨t, -, hs⟩ := List.mem_flatMap.1 hs
  exact isSuperTypeList_of_mem_sketches src t s hs

end Cst

/-!
## Tokens of a lowered file

Lowering gives every reference the identifier it is made of, and every dotted expression its dot.
The recognizers may so be entered from a token.
-/

/-- Whether a reference has its identifier, and a dotted expression its dot. -/
def CarriesTokens (content : Content) (children : List Sketch) : Prop :=
  (content.kind = .nameReference →
    content.text = none ∧ ∃ text span, children = [.leaf .identifier text span]) ∧
  (content.kind = .dotQualifiedExpression → ∃ span, Sketch.leaf .dot ['.'] span ∈ children)

/-- Lowering makes references and dotted expressions with their tokens only. -/
theorem lowers_carriesTokens : Lowers (fun _ => True) CarriesTokens := by
  have hfree : ∀ kind : NodeKind, ∀ text span children, kind.isConstrained = false →
      CarriesTokens ⟨kind, text, span⟩ children := by
    intro kind text span children hkind
    constructor
    · rintro rfl
      cases hkind
    · rintro rfl
      cases hkind
  constructor
  case leaf =>
    intro kind text span hkind
    exact hfree kind _ span [] hkind
  case plain =>
    intro kind span children hkind
    exact hfree kind _ span children hkind
  case missing =>
    intro row span _ _
    exact ⟨by rintro ⟨⟩, by rintro ⟨⟩⟩
  case call =>
    intro row span children _ _
    exact ⟨by rintro ⟨⟩, by rintro ⟨⟩⟩
  case reference =>
    intro text span
    exact ⟨fun _ => ⟨rfl, text, span, rfl⟩, by rintro ⟨⟩⟩
  case dotted =>
    intro span dotSpan receiver selector
    exact ⟨by rintro ⟨⟩, fun _ => ⟨dotSpan, List.mem_append_right _ List.mem_cons_self⟩⟩

namespace Cst

variable {src : Source} {t : Cst} {n : Node}

/-- Every node but a supertype list is a numbered sketch of the file. -/
theorem exists_numbersTo (hn : n ∈ (lower src t).nodes) (hkind : n.kind ≠ .superTypeList) :
    ∃ v ∈ (toSketch src t).preorder, Sketch.NumbersTo v n.tree := by
  have htree : n.tree ∈ (lower src t).preorder := SyntaxTree.mem_preorder_of_mem_nodes hn
  exact (Sketch.numbersTo_number (toSketch src t)).exists_of_mem_preorder htree hkind

/-- A property of contents and child lists that lowering respects holds of the sketch of a node. -/
theorem exists_numbersTo_of_lowers {R : Row → Prop} {P : Content → List Sketch → Prop}
    (h : Lowers R P) (hr : ∀ q ∈ t.preorder, R q.label) (hn : n ∈ (lower src t).nodes)
    (hkind : n.kind ≠ .superTypeList) :
    ∃ v, Sketch.NumbersTo v n.tree ∧ P v.label v.children := by
  obtain ⟨v, hv, hvn⟩ := exists_numbersTo hn hkind
  exact ⟨v, hvn, everywhere_toSketch h t hr v hv⟩

/-- A lowered reference has no text of its own and one child, an identifier leaf. -/
theorem reference_of_mem_nodes (hn : n ∈ (lower src t).nodes) (hkind : n.kind = .nameReference) :
    n.tree.label.text = none ∧
      ∃ label, label.kind = .identifier ∧ n.tree.children = [.node label []] := by
  obtain ⟨v, hvn, hcarries⟩ :=
    exists_numbersTo_of_lowers lowers_carriesTokens (fun _ _ => trivial) hn (by rw [hkind]; decide)
  have hcontent := hvn.content_eq
  obtain ⟨hnone, text, span, hchildren⟩ := hcarries.1 (by rw [← hcontent]; exact hkind)
  have hall := hvn.children (by rw [hchildren]; exact Nat.zero_le 1)
  rw [hchildren] at hall
  obtain ⟨u, us, ⟨next, rfl⟩, hnil, hts⟩ := List.forall₂_cons_left_iff.1 hall
  obtain rfl := List.forall₂_nil_left_iff.1 hnil
  rw [← hcontent] at hnone
  exact ⟨hnone, _, rfl, hts⟩

/-- The text of a lowered reference is that of its identifier. -/
theorem exists_identifier (hn : n ∈ (lower src t).nodes) (hkind : n.kind = .nameReference) :
    ∃ l ∈ n.children, l.kind = .identifier ∧ l.text = n.text := by
  obtain ⟨htext, label, hlabel, hchildren⟩ := reference_of_mem_nodes hn hkind
  refine ⟨⟨.node label [], n.tree :: n.above⟩, ?_, hlabel, ?_⟩
  · rw [Node.children, hchildren]
    exact List.mem_singleton_self _
  · show label.text.getD (String.join []) = n.tree.label.text.getD (String.join
      (SyntaxTree.ownTextsAll n.tree.children))
    rw [htext, hchildren]
    cases hown : label.text <;>
      simp [SyntaxTree.ownTextsAll, SyntaxTree.ownTexts, hown, String.join]

/-- A lowered dotted expression has a dot. -/
theorem exists_dot (hn : n ∈ (lower src t).nodes) (hkind : n.kind = .dotQualifiedExpression) :
    ∃ l ∈ n.children, l.kind = .dot := by
  obtain ⟨v, hvn, hcarries⟩ :=
    exists_numbersTo_of_lowers lowers_carriesTokens (fun _ _ => trivial) hn (by rw [hkind]; decide)
  have hcontent := hvn.content_eq
  obtain ⟨span, hdot⟩ := hcarries.2 (by rw [← hcontent]; exact hkind)
  obtain ⟨u, hu, hdotu⟩ := hvn.exists_child hdot rfl
  refine ⟨_, List.mem_map.2 ⟨u, hu, rfl⟩, ?_⟩
  exact congrArg Content.kind hdotu.content_eq

end Cst

end KotestOutline
