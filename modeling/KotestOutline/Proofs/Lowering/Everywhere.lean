import KotestOutline.Lowering
import KotestOutline.Proofs.Lowering.Constructs

/-!
# Invariants of lowering

A property of contents and child lists holds all over a lowered file when it survives the few ways
in which lowering makes a node. Those are the fields of `Lowers`: leaves and plain composites of any
kind, and the kinds that lowering only makes in a certain form or from certain rows.

* `Sketch.Everywhere` is the property at every subtree of a sketch.
* `Part.everywhere_rowNodes` is one step: from the parts below a row to the row.
* `Cst.everywhere_toSketch` is the whole file.
-/

namespace KotestOutline

variable {R : Row → Prop} {P : Content → List Sketch → Prop} {src : Source}

/-! ### Sketches -/

namespace Sketch

/-- Whether a property of the content of a node and the sketches below it holds at every subtree. -/
def Everywhere (P : Content → List Sketch → Prop) (s : Sketch) : Prop :=
  ∀ u ∈ s.preorder, P u.label u.children

/-- What holds of a node and everywhere below it holds everywhere in the node. -/
theorem everywhere_node {content : Content} {children : List Sketch} (h : P content children)
    (hc : ∀ s ∈ children, s.Everywhere P) : Everywhere P (.node content children) := by
  intro u hu
  rcases RoseTree.mem_preorder_iff.1 hu with rfl | ⟨s, hs, hu⟩
  · exact h
  · exact hc s hs u hu

/-- What holds of a leaf holds everywhere in it. -/
theorem everywhere_leaf {kind : NodeKind} {text : List Char} {span : Span}
    (h : P ⟨kind, some (String.ofList text), span⟩ []) : Everywhere P (leaf kind text span) :=
  everywhere_node h (by simp)

end Sketch

/-- The kinds of node that lowering makes only from certain rows or in a certain form. -/
def NodeKind.isConstrained : NodeKind → Bool
  | .callExpression | .dotQualifiedExpression | .nameReference | .missing => true
  | _ => false

/-- What makes a property hold at every node that lowering makes from rows with `R`. -/
structure Lowers (R : Row → Prop) (P : Content → List Sketch → Prop) : Prop where
  leaf : ∀ kind text span, kind.isConstrained = false → P ⟨kind, some text, span⟩ []
  plain : ∀ kind span children, kind.isConstrained = false → P ⟨kind, none, span⟩ children
  missing : ∀ row span, R row → row.missing = true → P ⟨.missing, some "", span⟩ []
  call : ∀ row span children, R row → Role.ofKind row.kind = .call →
    P ⟨.callExpression, none, span⟩ children
  reference : ∀ text span,
    P ⟨.nameReference, none, span⟩ [.leaf .identifier text span]
  dotted : ∀ span dotSpan receiver selector,
    P ⟨.dotQualifiedExpression, none, span⟩
      (receiver ++ .leaf .dot ['.'] dotSpan :: selector)

namespace Lowers

/-- A leaf that lowering makes for any row has the property. -/
theorem everywhere_leaf (h : Lowers R P) {kind : NodeKind} (text : List Char) (span : Span)
    (hkind : kind.isConstrained = false) : (Sketch.leaf kind text span).Everywhere P :=
  Sketch.everywhere_leaf (h.leaf kind _ span hkind)

/-- A node that lowering makes for any row has the property where the nodes below it have it. -/
theorem everywhere_plain (h : Lowers R P) {kind : NodeKind} {children : List Sketch} (span : Span)
    (hkind : kind.isConstrained = false) (hc : ∀ s ∈ children, s.Everywhere P) :
    (Sketch.composite kind span children).Everywhere P :=
  Sketch.everywhere_node (h.plain kind span children hkind) hc

/-- The token for what is missing has the property. -/
theorem everywhere_missing (h : Lowers R P) {row : Row} (span : Span) (hr : R row)
    (hmissing : row.missing = true) : (Sketch.leaf .missing [] span).Everywhere P :=
  Sketch.everywhere_leaf (h.missing row span hr hmissing)

/-- A reference has the property, and so has the identifier in it. -/
theorem everywhere_nameReference (h : Lowers R P) (row : Row) :
    (Part.nameReference src row).Everywhere P := by
  apply Sketch.everywhere_node (h.reference _ _)
  intro s hs
  rw [List.mem_singleton.1 hs]
  exact h.everywhere_leaf _ _ rfl

end Lowers

/-! ### Parts -/

namespace Part

/-- A part whose rows all have `R`, and all of whose sketches have `P` everywhere. -/
def Sound (R : Row → Prop) (P : Content → List Sketch → Prop) (p : Part) : Prop :=
  ∀ q : Part, q ∈ p.preorder → R q.row ∧ ∀ s ∈ q.sketches, s.Everywhere P

namespace Sound

variable {p q : Part}

/-- The row of a sound part has the property of rows. -/
theorem row (h : Sound R P p) : R p.row := (h p (RoseTree.self_mem_preorder p)).1

/-- What a sound part lowers to has the property everywhere. -/
theorem sketches (h : Sound R P p) : ∀ s ∈ p.sketches, s.Everywhere P :=
  (h p (RoseTree.self_mem_preorder p)).2

/-- Every part inside a sound part is sound. -/
theorem of_mem_preorder (h : Sound R P p) (hq : q ∈ p.preorder) : Sound R P q :=
  fun r hr => h r (RoseTree.mem_preorder_trans hr hq)

/-- The children of a sound part are sound. -/
theorem of_mem_children (h : Sound R P p) (hq : q ∈ p.children) : Sound R P q :=
  h.of_mem_preorder (RoseTree.mem_preorder_of_mem_children hq)

end Sound

variable {row : Row} {ps : List Part} {p : Part}

/-- What sound parts lower to has the property everywhere. -/
theorem everywhere_sketchAll (hs : ∀ p ∈ ps, Sound R P p) : ∀ s ∈ sketchAll ps, s.Everywhere P := by
  intro s h
  obtain ⟨p, hp, hmem⟩ := mem_sketchAll.1 h
  exact (hs p hp).sketches s hmem

/-! ### One construct -/

/-- The leaf of a token has the property. -/
theorem everywhere_tokenLeaf (h : Lowers R P) (row : Row) : (tokenLeaf src row).Everywhere P :=
  h.everywhere_leaf _ _ (by split_ifs <;> rfl)

/-- The entry of a supertype has the property everywhere. -/
theorem everywhere_superTypeEntry (h : Lowers R P) (hp : Sound R P p) :
    ∀ s ∈ superTypeEntry src p, s.Everywhere P := by
  intro s hs
  rcases superTypeEntry_cases src p with ⟨-, heq⟩ | ⟨type, rest, -, heq, hrest⟩
  · rw [heq] at hs
    cases hs
  · rw [heq, List.mem_singleton] at hs
    rw [hs]
    apply h.everywhere_plain _ (by split_ifs <;> rfl)
    intro u hu
    rcases List.mem_cons.1 hu with rfl | hu
    · exact h.everywhere_leaf _ _ rfl
    · obtain ⟨q, hq, hu⟩ := hrest u hu
      exact (hp.of_mem_preorder hq).sketches u hu

/-- A supertype list has the property everywhere. -/
theorem everywhere_superTypeList (h : Lowers R P) (hs : ∀ p ∈ ps, Sound R P p) :
    ∀ s ∈ superTypeList src row ps, s.Everywhere P := by
  intro s hmem
  unfold superTypeList at hmem
  split_ifs at hmem
  · cases hmem
  · rw [List.mem_singleton.1 hmem]
    apply h.everywhere_plain _ rfl
    intro u hu
    obtain ⟨p, hp, hu⟩ := List.mem_flatMap.1 hu
    exact everywhere_superTypeEntry h (hs p hp) u hu

/-- The nodes of a child of a class have the property everywhere. -/
theorem everywhere_classMember (h : Lowers R P) (hp : Sound R P p) :
    ∀ s ∈ classMember src p, s.Everywhere P := by
  intro s hs
  unfold classMember at hs
  split_ifs at hs
  · rw [List.mem_singleton.1 hs]
    exact h.everywhere_leaf _ _ rfl
  · apply everywhere_superTypeList h _ s hs
    intro q hq
    exact hp.of_mem_children (mem_children_of_mem_namedChildren (List.mem_of_mem_filter hq))
  · apply everywhere_superTypeList h _ s hs
    intro q hq
    rw [List.mem_singleton.1 hq]
    exact hp
  · exact hp.sketches s hs

/-- The body of an initializer has the property everywhere, also where a block is put around it. -/
theorem everywhere_initializerBody (h : Lowers R P) (span : Span) (hs : ∀ p ∈ ps, Sound R P p) :
    ∀ s ∈ initializerBody span ps, s.Everywhere P := by
  intro s hmem
  unfold initializerBody at hmem
  split_ifs at hmem
  · exact everywhere_sketchAll hs s hmem
  · rw [List.mem_singleton.1 hmem]
    exact h.everywhere_plain _ rfl (everywhere_sketchAll hs)

/-- A dotted expression has the dot of its token. -/
theorem everywhere_dotted (h : Lowers R P) {span : Span} {selector : List Sketch}
    (hdot : (dotToken? src ps).isSome = true) (hs : ∀ p ∈ ps, Sound R P p)
    (hselector : ∀ s ∈ selector, s.Everywhere P) :
    (Sketch.composite .dotQualifiedExpression span
      (receiverAndDot src ps ++ selector)).Everywhere P := by
  obtain ⟨dot, hdot⟩ := Option.isSome_iff_exists.1 hdot
  unfold receiverAndDot
  rw [hdot, Option.map_some, Option.toList_some, List.append_assoc, List.singleton_append]
  apply Sketch.everywhere_node (h.dotted _ _ _ _)
  intro s hmem
  rcases List.mem_append.1 hmem with hmem | hmem
  · cases hreceiver : (ps.filter isNamed).head? with
    | none => simp [hreceiver] at hmem
    | some receiver =>
      rw [hreceiver, Option.map_some, Option.getD_some] at hmem
      have hin : receiver ∈ ps := List.mem_of_mem_filter (List.mem_of_mem_head? hreceiver)
      exact (hs receiver hin).sketches s hmem
  · rcases List.mem_cons.1 hmem with rfl | hmem
    · exact h.everywhere_leaf _ _ rfl
    · exact hselector s hmem

/-- A call has the property everywhere, whatever parts it took in. -/
theorem everywhere_callNode (h : Lowers R P) (hr : R row) (hcall : Role.ofKind row.kind = .call)
    (hs : ∀ p ∈ ps, Sound R P p) : (callNode src row ps).Everywhere P := by
  have hbelow : ∀ parts : List Part, (∀ p ∈ parts, ∃ r ∈ ps, p ∈ r.preorder) →
      ∀ p ∈ parts, Sound R P p := by
    intro parts hparts p hp
    obtain ⟨r, hr, hmem⟩ := hparts p hp
    exact (hs r hr).of_mem_preorder hmem
  have hplain : ∀ span children, (∀ s ∈ children, Sketch.Everywhere P s) →
      (Sketch.composite .callExpression span children).Everywhere P := by
    intro span children hchildren
    exact Sketch.everywhere_node (h.call row span children hr hcall) hchildren
  rcases callNode_cases src row ps with ⟨parts, hparts, heq⟩ |
    ⟨callee, rest, start, hparts, -, hdot, heq⟩
  · rw [heq]
    exact hplain _ _ (everywhere_sketchAll (hbelow parts hparts))
  -- the callee is a dotted access: the call begins at its selector
  · rw [heq]
    obtain ⟨hcallee, hrest⟩ := List.forall_mem_cons.1 (hbelow _ hparts)
    apply everywhere_dotted h hdot fun p hp => hcallee.of_mem_children hp
    intro s hs
    rw [List.mem_singleton.1 hs]
    apply hplain
    intro u hu
    rcases List.mem_append.1 hu with hu | hu
    · obtain ⟨selector, -, rfl⟩ := Option.map_eq_some_iff.1 (Option.mem_toList.1 hu)
      exact h.everywhere_nameReference selector.row
    · exact everywhere_sketchAll hrest u hu

/-- A dotted access has the property everywhere. -/
theorem everywhere_navigationNode (h : Lowers R P) (hs : ∀ p ∈ ps, Sound R P p) :
    (navigationNode src row ps).Everywhere P := by
  simp only [navigationNode]
  split
  next hdot =>
    apply everywhere_dotted h hdot hs
    intro s hmem
    obtain ⟨selector, -, rfl⟩ := Option.map_eq_some_iff.1 (Option.mem_toList.1 hmem)
    exact h.everywhere_nameReference selector.row
  · exact h.everywhere_plain _ rfl (everywhere_sketchAll hs)

/-! ### String content -/

/-- The leaves of string content have the property. -/
theorem everywhere_contentLeaves (h : Lowers R P) {span : Span} {stop position : Nat}
    {escapes : List Part} :
    ∀ s ∈ contentLeaves src span stop position escapes, s.Everywhere P := by
  intro s hs
  rcases exists_of_mem_contentLeaves hs with ⟨kind, text, hkind, rfl⟩ | ⟨escape, -, rfl⟩
  · exact h.everywhere_leaf _ _ (by rcases hkind with rfl | rfl <;> rfl)
  · exact h.everywhere_leaf _ _ rfl

/-- The entries of one child of a string have the property everywhere. -/
theorem everywhere_stringEntries (h : Lowers R P) (isFirst isLast : Bool) (hp : Sound R P p) :
    ∀ s ∈ stringEntries src isFirst isLast p, s.Everywhere P := by
  intro s hs
  unfold stringEntries at hs
  dsimp only at hs
  split_ifs at hs with hmissing
  · rw [List.mem_singleton.1 hs]
    exact h.everywhere_missing _ hp.row hmissing
  -- a token: a quote at either end, else part of an interpolation
  · rw [List.mem_singleton.1 hs]
    exact h.everywhere_leaf _ _ rfl
  · rw [List.mem_singleton.1 hs]
    exact h.everywhere_leaf _ _ rfl
  · rw [List.mem_singleton.1 hs]
    exact h.everywhere_leaf _ _ rfl
  -- a named row: an escape sequence, plain content or an interpolated expression
  · rw [List.mem_singleton.1 hs]
    exact h.everywhere_leaf _ _ rfl
  · exact everywhere_contentLeaves h s hs
  · rw [List.mem_singleton.1 hs]
    apply h.everywhere_plain _ rfl
    apply everywhere_sketchAll
    intro q hq
    exact hp.of_mem_children hq

/-- The entries of a string have the property everywhere. -/
theorem everywhere_stringEntriesAll (h : Lowers R P) :
    ∀ (ps : List Part) (isFirst : Bool), (∀ p ∈ ps, Sound R P p) →
      ∀ s ∈ stringEntriesAll src isFirst ps, s.Everywhere P
  | [], _, _, s, hs => by cases hs
  | p :: ps, isFirst, hps, s, hs => by
    rw [stringEntriesAll, List.mem_append] at hs
    rcases hs with hs | hs
    · exact everywhere_stringEntries h isFirst ps.isEmpty (hps p List.mem_cons_self) s hs
    · exact everywhere_stringEntriesAll h ps false
        (fun q hq => hps q (List.mem_cons_of_mem p hq)) s hs

/-! ### Rows and files -/

/-- The nodes of a construct have the property everywhere, one rule of the lowering at a time. -/
theorem everywhere_constructNodes (h : Lowers R P) (hr : R row) (hs : ∀ p ∈ ps, Sound R P p) :
    ∀ s ∈ constructNodes src row ps, s.Everywhere P := by
  have hall := everywhere_sketchAll hs
  have hmembers : ∀ s ∈ ps.flatMap (classMember src), s.Everywhere P := by
    intro s hmem
    obtain ⟨p, hp, hmem⟩ := List.mem_flatMap.1 hmem
    exact everywhere_classMember h (hs p hp) s hmem
  intro s hmem
  simp only [constructNodes] at hmem
  cases hrole : Role.ofKind row.kind <;> simp only [hrole, List.mem_singleton] at hmem
  case wrapper => exact hall s hmem
  case packageHeader => exact hmem ▸ h.everywhere_leaf _ _ rfl
  case importHeader => exact hmem ▸ h.everywhere_leaf _ _ rfl
  case classDeclaration => exact hmem ▸ h.everywhere_plain _ rfl hmembers
  case objectDeclaration => exact hmem ▸ h.everywhere_plain _ rfl hmembers
  case initializer => exact hmem ▸ h.everywhere_plain _ rfl (everywhere_initializerBody h _ hs)
  case call => exact hmem ▸ everywhere_callNode h hr hrole hs
  case navigation => exact hmem ▸ everywhere_navigationNode h hs
  case string => exact hmem ▸ h.everywhere_plain _ rfl (everywhere_stringEntriesAll h ps true hs)
  case identifier => exact hmem ▸ h.everywhere_nameReference row
  all_goals exact hmem ▸ h.everywhere_plain _ rfl hall

/-- What a row lowers to: a missing token, an error over what is below it, a token, or what the
construct makes. -/
theorem mem_rowNodes {s : Sketch} (h : s ∈ rowNodes src row ps) :
    (row.missing = true ∧ s = .leaf .missing [] (src.rowSpan row)) ∨
      s = .composite .error (src.rowSpan row) (sketchAll ps) ∨ s = tokenLeaf src row ∨
      s ∈ constructNodes src row ps := by
  unfold rowNodes at h
  split_ifs at h with hmissing
  · exact Or.inl ⟨hmissing, List.mem_singleton.1 h⟩
  · exact Or.inr (Or.inl (List.mem_singleton.1 h))
  · cases h
  · exact Or.inr (Or.inr (Or.inl (List.mem_singleton.1 h)))
  · exact Or.inr (Or.inr (Or.inr h))

/-- One step: where everything below a row is sound, so is what the row lowers to. -/
theorem everywhere_rowNodes (h : Lowers R P) (hr : R row) (hs : ∀ p ∈ ps, Sound R P p) :
    ∀ s ∈ rowNodes src row ps, s.Everywhere P := by
  intro s hmem
  rcases mem_rowNodes hmem with ⟨hmissing, rfl⟩ | rfl | rfl | hmem
  · exact h.everywhere_missing _ hr hmissing
  · exact h.everywhere_plain _ rfl (everywhere_sketchAll hs)
  · exact everywhere_tokenLeaf h row
  · exact everywhere_constructNodes h hr hs s hmem

end Part

namespace Cst

/-- The part of a row is the row with what it lowers to, over the parts of its children. -/
theorem toPart_node (src : Source) (row : Row) (ts : List Cst) :
    toPart src (.node row ts) =
      .node (row, Part.rowNodes src row (ts.map (toPart src))) (ts.map (toPart src)) :=
  RoseTree.annotate_node _ row ts

/-- By induction on the concrete tree: where every row has `R`, every part is sound. -/
theorem sound_toPart (h : Lowers R P) (t : Cst) (hr : ∀ q ∈ t.preorder, R q.label) :
    (toPart src t).Sound R P := by
  induction t using RoseTree.induction with
  | node row ts ih =>
    have hbelow : ∀ p ∈ ts.map (toPart src), p.Sound R P := by
      intro p hp
      obtain ⟨t, ht, rfl⟩ := List.mem_map.1 hp
      exact ih t ht fun q hq => hr q (RoseTree.mem_preorder_iff.2 (Or.inr ⟨t, ht, hq⟩))
    have hrow : R row := hr _ (RoseTree.self_mem_preorder _)
    intro q hq
    rw [toPart_node] at hq
    rcases RoseTree.mem_preorder_iff.1 hq with rfl | ⟨p, hp, hq⟩
    · exact ⟨hrow, Part.everywhere_rowNodes h hrow hbelow⟩
    · exact hbelow p hp q hq

/-- What survives every way to make a node holds all over a lowered file. -/
theorem everywhere_toSketch (h : Lowers R P) (t : Cst) (hr : ∀ q ∈ t.preorder, R q.label) :
    (toSketch src t).Everywhere P := by
  have hparts : ∀ p ∈ (toPart src t).children, Part.Sound R P p := by
    intro p hp
    exact (sound_toPart h t hr).of_mem_children hp
  exact h.everywhere_plain _ rfl (Part.everywhere_sketchAll hparts)

end Cst

end KotestOutline
