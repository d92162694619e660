import KotestOutline.Proofs.Lowering.Order
import KotestOutline.Proofs.Lowering.Row
import KotestOutline.Proofs.Syntax.Order

/-!
# Spans nest

In a lowered file the span of a node lies inside that of its parent, if the rows of the file are
nested and ordered. Lowering moves rows to new parents and computes the span of a selector call from
two rows, so this is shown construct by construct.

* `Sketch.LiesIn` is a sketch whose spans nest and lie in a span; `Part.Placed` is a part all of
  whose sketches lie in the span of their row.
* `Part.liesIn_rowNodes` is one step: from the parts below a row to the row.
* `Cst.isNested_toSketch` is the whole file, and `Cst.span_within_of_mem_descendants` what it says
  about the nodes. Numbering merges supertype lists, so those are left out there.
-/

namespace KotestOutline

variable {src : Source}

/-! ### Sketches -/

namespace Sketch

variable {s u : Sketch} {span outer : Span}

/-- Whether every span in a sketch lies inside the one of its parent. -/
def IsNested (s : Sketch) : Prop :=
  s.Everywhere fun content children => ∀ c ∈ children, c.label.span.Within content.span

/-- Whether a sketch is nested and its own span lies in another one. -/
structure LiesIn (s : Sketch) (span : Span) : Prop where
  within : s.label.span.Within span
  nested : s.IsNested

/-- What lies in a span lies in any wider one. -/
theorem LiesIn.of_within (h : s.LiesIn span) (hspan : span.Within outer) : s.LiesIn outer :=
  ⟨h.within.trans hspan, h.nested⟩

/-- A leaf lies where its span does. -/
theorem liesIn_leaf (kind : NodeKind) (text : List Char) (h : span.Within outer) :
    (leaf kind text span).LiesIn outer :=
  ⟨h, everywhere_leaf (by simp)⟩

/-- A node lies where its span does, if the nodes below it lie in that span. -/
theorem liesIn_composite (kind : NodeKind) {children : List Sketch} (h : span.Within outer)
    (hc : ∀ c ∈ children, c.LiesIn span) : (composite kind span children).LiesIn outer :=
  ⟨h, everywhere_node (fun c hmem => (hc c hmem).within) fun c hmem => (hc c hmem).nested⟩

/-- Every part of a nested sketch is nested. -/
theorem IsNested.of_mem_preorder (h : s.IsNested) (hu : u ∈ s.preorder) : u.IsNested :=
  fun v hv => h v (RoseTree.mem_preorder_trans hv hu)

/-- Every span of a nested sketch lies inside the outermost one. -/
theorem IsNested.within_of_mem_preorder (h : s.IsNested) (hu : u ∈ s.preorder) :
    u.label.span.Within s.label.span := by
  induction s using RoseTree.induction with
  | node content children ih =>
    rcases RoseTree.mem_preorder_iff.1 hu with rfl | ⟨c, hc, hu⟩
    · exact Span.Within.refl _
    · have hchild := h.of_mem_preorder (RoseTree.mem_preorder_of_mem_children hc)
      exact (ih c hc hchild hu).trans (h _ (RoseTree.self_mem_preorder _) c hc)

end Sketch

/-! ### Parts -/

namespace Part

/-- Whether all sketches of a part and of the parts below it lie in the spans of their rows. -/
def Placed (src : Source) (p : Part) : Prop :=
  ∀ q : Part, q ∈ p.preorder → ∀ s ∈ q.sketches, s.LiesIn (src.rowSpan q.row)

variable {row outer : Row} {ps : List Part} {p q : Part}

/-- Every part below a placed one is placed. -/
theorem Placed.of_mem_preorder (h : Placed src p) (hq : q ∈ p.preorder) : Placed src q :=
  fun r hr => h r (RoseTree.mem_preorder_trans hr hq)

/-- What a placed part lowers to lies in every row around it. -/
theorem Placed.liesIn (h : Placed src p) (hrow : p.row.Within row) :
    ∀ s ∈ p.sketches, s.LiesIn (src.rowSpan row) := fun s hs =>
  (h p (RoseTree.self_mem_preorder p) s hs).of_within (hrow.rowSpan src)

/-- What parts inside a row lower to lies in the span of the row. -/
theorem liesIn_sketchAll (h : Follow row ps) (hplaced : ∀ p ∈ ps, Placed src p) :
    ∀ s ∈ sketchAll ps, s.LiesIn (src.rowSpan row) := by
  intro s hs
  obtain ⟨p, hp, hs⟩ := mem_sketchAll.1 hs
  exact (hplaced p hp).liesIn (h.inside p hp) s hs

/-- A reference lies where the row of its identifier does. -/
theorem liesIn_nameReference (h : row.Within outer) :
    (nameReference src row).LiesIn (src.rowSpan outer) := by
  apply Sketch.liesIn_composite _ (h.rowSpan src)
  intro c hc
  rw [List.mem_singleton.1 hc]
  exact Sketch.liesIn_leaf _ _ (Span.Within.refl _)

/-! ### Classes -/

/-- The entry of a supertype lies in the span of any row around it. -/
theorem liesIn_superTypeEntry (h : IsOrdered p) (hplaced : Placed src p)
    (hrow : p.row.Within row) : ∀ s ∈ superTypeEntry src p, s.LiesIn (src.rowSpan row) := by
  intro s hs
  rcases superTypeEntry_cases src p with ⟨-, heq⟩ | ⟨type, rest, htype, heq, hrest⟩
  · rw [heq] at hs
    cases hs
  · rw [heq, List.mem_singleton] at hs
    rw [hs]
    apply Sketch.liesIn_composite _ (hrow.rowSpan src)
    intro c hc
    rcases List.mem_cons.1 hc with rfl | hc
    · have hmem := mem_preorder_of_superType? htype
      exact Sketch.liesIn_leaf _ _ ((h.within_of_mem_preorder hmem).rowSpan src)
    · obtain ⟨q, hq, hc⟩ := hrest c hc
      exact (hplaced.of_mem_preorder hq).liesIn (h.within_of_mem_preorder hq) c hc

/-- A supertype list lies in the span of any row around it. -/
theorem liesIn_superTypeList (h : Follow row ps) (hplaced : ∀ p ∈ ps, Placed src p)
    (hrow : row.Within outer) :
    ∀ s ∈ superTypeList src row ps, s.LiesIn (src.rowSpan outer) := by
  intro s hs
  unfold superTypeList at hs
  split_ifs at hs
  · cases hs
  · rw [List.mem_singleton.1 hs]
    apply Sketch.liesIn_composite _ (hrow.rowSpan src)
    intro c hc
    obtain ⟨p, hp, hc⟩ := List.mem_flatMap.1 hc
    exact liesIn_superTypeEntry (h.parts p hp) (hplaced p hp) (h.inside p hp) c hc

/-- The nodes of a child of a class lie in the span of the class. -/
theorem liesIn_classMember (h : IsOrdered p) (hplaced : Placed src p) (hrow : p.row.Within row) :
    ∀ s ∈ classMember src p, s.LiesIn (src.rowSpan row) := by
  intro s hs
  unfold classMember at hs
  split_ifs at hs
  · rw [List.mem_singleton.1 hs]
    exact Sketch.liesIn_leaf _ _ (hrow.rowSpan src)
  · have hsub : (p.namedChildren.filter (·.isKind "delegation_specifier")).Sublist p.children :=
      List.filter_sublist.trans List.filter_sublist
    refine liesIn_superTypeList (h.children.of_sublist hsub) ?_ hrow s hs
    intro q hq
    exact hplaced.of_mem_preorder (RoseTree.mem_preorder_of_mem_children (hsub.subset hq))
  · refine liesIn_superTypeList (Follow.singleton h) ?_ hrow s hs
    intro q hq
    rwa [List.mem_singleton.1 hq]
  · exact hplaced.liesIn hrow s hs

/-- The body of an initializer lies in its span, the block around it included. -/
theorem liesIn_initializerBody (h : Follow row ps) (hplaced : ∀ p ∈ ps, Placed src p) :
    ∀ s ∈ initializerBody (src.rowSpan row) ps, s.LiesIn (src.rowSpan row) := by
  intro s hs
  unfold initializerBody at hs
  split_ifs at hs
  · exact liesIn_sketchAll h hplaced s hs
  · rw [List.mem_singleton.1 hs]
    exact Sketch.liesIn_composite _ (Span.Within.refl _) (liesIn_sketchAll h hplaced)

/-! ### Calls -/

/-- Whatever is below the parts in a row has its range in that of the row. -/
theorem Follow.within_of_mem_preorder (h : Follow row ps) (hp : p ∈ ps) (hq : q ∈ p.preorder) :
    q.row.Within row :=
  ((h.parts p hp).within_of_mem_preorder hq).trans (h.inside p hp)

/-- Receiver and dot lie in the span of the dotted access. -/
theorem liesIn_receiverAndDot (h : Follow row ps) (hplaced : ∀ p ∈ ps, Placed src p) :
    ∀ s ∈ receiverAndDot src ps, s.LiesIn (src.rowSpan row) := by
  intro s hs
  rcases mem_receiverAndDot hs with ⟨p, hp, hs⟩ | ⟨dot, hdot, rfl⟩
  · exact (hplaced p hp).liesIn (h.inside p hp) s hs
  · obtain ⟨p, hp, hin⟩ := exists_mem_preorder_of_dotToken? hdot
    exact Sketch.liesIn_leaf _ _ ((h.within_of_mem_preorder hp hin).rowSpan src)

/-- A dotted access lies in the span of its row. -/
theorem liesIn_navigationNode (h : Follow row ps) (hplaced : ∀ p ∈ ps, Placed src p) :
    (navigationNode src row ps).LiesIn (src.rowSpan row) := by
  rcases navigationNode_cases src row ps with ⟨-, heq⟩ | ⟨-, heq⟩
  · rw [heq]
    exact Sketch.liesIn_composite _ (Span.Within.refl _) (liesIn_sketchAll h hplaced)
  · rw [heq]
    apply Sketch.liesIn_composite _ (Span.Within.refl _)
    intro s hs
    rcases List.mem_append.1 hs with hs | hs
    · exact liesIn_receiverAndDot h hplaced s hs
    · rw [Option.mem_toList, Option.map_eq_some_iff] at hs
      obtain ⟨selector, hselector, rfl⟩ := hs
      obtain ⟨p, hp, hin⟩ := exists_mem_preorder_of_selector? hselector
      exact liesIn_nameReference (h.within_of_mem_preorder hp hin)

/-- The call of a selector begins at the selector, which comes before everything that follows the
callee. -/
theorem liesIn_selectorCall {callee : Part} {rest : List Part} (h : Follow row (callee :: rest))
    (hplaced : ∀ p ∈ callee :: rest, Placed src p) :
    (Sketch.composite .callExpression
        ⟨(((selector? callee.children).map Part.row).map (src.rowSpan · |>.start)).getD
          (src.rowSpan row).start, (src.rowSpan row).stop⟩
        ((((selector? callee.children).map Part.row).map (nameReference src)).toList ++
          sketchAll rest)).LiesIn (src.rowSpan row) := by
  have hrest : Follow row rest := h.of_sublist (List.sublist_cons_self callee rest)
  have hplaced' : ∀ p ∈ rest, Placed src p := fun p hp => hplaced p (List.mem_cons_of_mem callee hp)
  cases hselector : selector? callee.children with
  | none =>
    simp only [Option.map_none, Option.getD_none, Option.toList_none, List.nil_append]
    exact Sketch.liesIn_composite _ (Span.Within.refl _) (liesIn_sketchAll hrest hplaced')
  | some selector =>
    simp only [Option.map_some, Option.getD_some, Option.toList_some, List.singleton_append]
    obtain ⟨c, hc, hin⟩ := exists_mem_preorder_of_selector? hselector
    have hsub : selector ∈ callee.preorder := RoseTree.mem_preorder_iff.2 (Or.inr ⟨c, hc, hin⟩)
    have hordered := h.parts callee List.mem_cons_self
    have hcallee : selector.row.Within callee.row := hordered.within_of_mem_preorder hsub
    have hrow : selector.row.Within row := hcallee.trans (h.inside callee List.mem_cons_self)
    have hrange := (hordered.of_mem_preorder hsub).range
    refine Sketch.liesIn_composite _ ⟨(hrow.rowSpan src).start, Position.le_refl _⟩ ?_
    -- what is in the call must not begin before the selector does
    intro s hs
    rcases List.mem_cons.1 hs with rfl | hs
    · have hreference : (nameReference src selector.row).LiesIn (src.rowSpan selector.row) :=
        liesIn_nameReference (Row.Within.refl _)
      exact hreference.of_within ⟨Position.le_refl _, (hrow.rowSpan src).stop⟩
    · obtain ⟨p, hp, hs⟩ := mem_sketchAll.1 hs
      have hafter : selector.row.start ≤ p.row.start :=
        UInt32.le_trans hrange
          (UInt32.le_trans hcallee.stop ((List.pairwise_cons.1 h.apart).1 p hp))
      have hp' := (hplaced' p hp).liesIn (Row.Within.refl _) s hs
      exact hp'.of_within ⟨src.position_le_of_le hafter, ((hrest.inside p hp).rowSpan src).stop⟩

/-- A call lies in the span of its row, and the call of a selector too, which begins where the name
does. -/
theorem liesIn_callNode (h : Follow row ps) (hrange : row.start ≤ row.stop)
    (hplaced : ∀ p ∈ ps, Placed src p) : (callNode src row ps).LiesIn (src.rowSpan row) := by
  have hcall : IsOrdered (.node (row, []) ps) := by
    intro q hq
    rcases RoseTree.mem_preorder_iff.1 hq with rfl | ⟨p, hp, hq⟩
    · exact ⟨hrange, h.inside, h.apart⟩
    · exact h.parts p hp q hq
  -- the parts that a call took in stand in its row as its own do, one after the other
  have hparts : Follow row (callParts (.node (row, []) ps)) := follow_callParts hcall
  have hplaced' : ∀ p ∈ callParts (.node (row, []) ps), Placed src p := by
    intro p hp
    obtain ⟨q, hq, hpq⟩ := mem_preorder_of_mem_callParts _ p hp
    exact (hplaced q hq).of_mem_preorder hpq
  simp only [callNode]
  split
  · exact Sketch.liesIn_composite _ (Span.Within.refl _) (liesIn_sketchAll h hplaced)
  next callee rest hcallee =>
    have hsub : (callee :: rest).Sublist (callParts (.node (row, []) ps)) := by
      rw [← hcallee]
      exact List.dropWhile_sublist _
    have hfollow := hparts.of_sublist hsub
    have hplaced'' : ∀ p ∈ callee :: rest, Placed src p := fun p hp => hplaced' p (hsub.subset hp)
    split
    · apply Sketch.liesIn_composite _ (Span.Within.refl _)
      intro s hs
      rcases List.mem_append.1 hs with hs | hs
      · have hchildren := (hfollow.parts callee List.mem_cons_self).children.of_within
          (hfollow.inside callee List.mem_cons_self)
        refine liesIn_receiverAndDot hchildren ?_ s hs
        intro p hp
        exact (hplaced'' callee List.mem_cons_self).of_mem_preorder
          (RoseTree.mem_preorder_of_mem_children hp)
      · rw [List.mem_singleton.1 hs]
        exact liesIn_selectorCall hfollow hplaced''
    · exact Sketch.liesIn_composite _ (Span.Within.refl _) (liesIn_sketchAll hparts hplaced')

/-! ### String content -/

/-- The leaves of string content lie in the span of any row around it. -/
theorem liesIn_contentLeaves (hrow : row.Within outer) {escapes : List Part}
    (h : ∀ p ∈ escapes, p.row.Within outer) (stop position : Nat) :
    ∀ s ∈ contentLeaves src (src.rowSpan row) stop position escapes,
      s.LiesIn (src.rowSpan outer) := by
  intro s hs
  rcases exists_of_mem_contentLeaves hs with ⟨kind, text, -, rfl⟩ | ⟨escape, hescape, rfl⟩
  · exact Sketch.liesIn_leaf _ _ (hrow.rowSpan src)
  · exact Sketch.liesIn_leaf _ _ ((h escape hescape).rowSpan src)

/-- The entries of a child of a string lie in the span of the string. -/
theorem liesIn_stringEntries (isFirst isLast : Bool) (h : IsOrdered p) (hplaced : Placed src p)
    (hrow : p.row.Within row) :
    ∀ s ∈ stringEntries src isFirst isLast p, s.LiesIn (src.rowSpan row) := by
  intro s hs
  have hspan := hrow.rowSpan src
  unfold stringEntries at hs
  dsimp only at hs
  split_ifs at hs
  -- a leaf with the span of the row: a missing token, a token or an escape sequence
  iterate 5
    · rw [List.mem_singleton.1 hs]
      exact Sketch.liesIn_leaf _ _ hspan
  · refine liesIn_contentLeaves hrow ?_ _ _ s hs
    intro q hq
    have hchild := mem_children_of_mem_namedChildren (List.mem_of_mem_filter hq)
    exact (h.children.inside q hchild).trans hrow
  · rw [List.mem_singleton.1 hs]
    apply Sketch.liesIn_composite _ hspan
    apply liesIn_sketchAll h.children
    intro q hq
    exact hplaced.of_mem_preorder (RoseTree.mem_preorder_of_mem_children hq)

/-- The entries of a string lie in its span. -/
theorem liesIn_stringEntriesAll (h : Follow row ps) (hplaced : ∀ p ∈ ps, Placed src p)
    (isFirst : Bool) :
    ∀ s ∈ stringEntriesAll src isFirst ps, s.LiesIn (src.rowSpan row) := by
  induction ps generalizing isFirst with
  | nil =>
    intro s hs
    cases hs
  | cons p ps ih =>
    intro s hs
    rw [stringEntriesAll, List.mem_append] at hs
    rcases hs with hs | hs
    · exact liesIn_stringEntries isFirst ps.isEmpty (h.parts p List.mem_cons_self)
        (hplaced p List.mem_cons_self) (h.inside p List.mem_cons_self) s hs
    · exact ih (h.of_sublist (List.sublist_cons_self p ps))
        (fun q hq => hplaced q (List.mem_cons_of_mem p hq)) false s hs

/-! ### Rows and files -/

/-- The nodes of a construct lie in the span of its row, one rule of the lowering at a time. -/
theorem liesIn_constructNodes (h : Follow row ps) (hrange : row.start ≤ row.stop)
    (hplaced : ∀ p ∈ ps, Placed src p) :
    ∀ s ∈ constructNodes src row ps, s.LiesIn (src.rowSpan row) := by
  have hall := liesIn_sketchAll h hplaced
  have hmembers : ∀ s ∈ ps.flatMap (classMember src), s.LiesIn (src.rowSpan row) := by
    intro s hs
    obtain ⟨p, hp, hs⟩ := List.mem_flatMap.1 hs
    exact liesIn_classMember (h.parts p hp) (hplaced p hp) (h.inside p hp) s hs
  have hspan := Span.Within.refl (src.rowSpan row)
  intro s hs
  simp only [constructNodes] at hs
  cases hrole : Role.ofKind row.kind <;> simp only [hrole, List.mem_singleton] at hs
  case wrapper => exact hall s hs
  case packageHeader => exact hs ▸ Sketch.liesIn_leaf _ _ hspan
  case importHeader => exact hs ▸ Sketch.liesIn_leaf _ _ hspan
  case classDeclaration => exact hs ▸ Sketch.liesIn_composite _ hspan hmembers
  case objectDeclaration => exact hs ▸ Sketch.liesIn_composite _ hspan hmembers
  case initializer =>
    exact hs ▸ Sketch.liesIn_composite _ hspan (liesIn_initializerBody h hplaced)
  case call => exact hs ▸ liesIn_callNode h hrange hplaced
  case navigation => exact hs ▸ liesIn_navigationNode h hplaced
  case string =>
    exact hs ▸ Sketch.liesIn_composite _ hspan (liesIn_stringEntriesAll h hplaced true)
  case identifier => exact hs ▸ liesIn_nameReference (Row.Within.refl row)
  all_goals exact hs ▸ Sketch.liesIn_composite _ hspan hall

/-- One step: where everything below a row is placed, so is what the row lowers to. -/
theorem liesIn_rowNodes (h : Follow row ps) (hrange : row.start ≤ row.stop)
    (hplaced : ∀ p ∈ ps, Placed src p) :
    ∀ s ∈ rowNodes src row ps, s.LiesIn (src.rowSpan row) := by
  have hspan := Span.Within.refl (src.rowSpan row)
  intro s hs
  rcases mem_rowNodes hs with ⟨-, rfl⟩ | rfl | rfl | hs
  · exact Sketch.liesIn_leaf _ _ hspan
  · exact Sketch.liesIn_composite _ hspan (liesIn_sketchAll h hplaced)
  · exact Sketch.liesIn_leaf _ _ hspan
  · exact liesIn_constructNodes h hrange hplaced s hs

end Part

namespace Cst

variable {t : Cst}

/-- Every tree inside one in order is in order. -/
theorem IsOrdered.of_mem_preorder {u : Cst} (h : t.IsOrdered) (hu : u ∈ t.preorder) :
    u.IsOrdered :=
  fun v hv => h v (RoseTree.mem_preorder_trans hv hu)

/-- By induction on the concrete tree: the parts are ordered as the rows are, and placed. -/
theorem placed_toPart (src : Source) (h : t.IsOrdered) :
    Part.IsOrdered (toPart src t) ∧ Part.Placed src (toPart src t) := by
  induction t using RoseTree.induction with
  | node row ts ih =>
    obtain ⟨hrange, hinside, hapart⟩ := h _ (RoseTree.self_mem_preorder _)
    have hbelow : ∀ t ∈ ts, Part.IsOrdered (toPart src t) ∧ Part.Placed src (toPart src t) :=
      fun t ht => ih t ht (h.of_mem_preorder (RoseTree.mem_preorder_of_mem_children ht))
    have hfollow : Part.Follow row (ts.map (toPart src)) := by
      constructor
      case parts =>
        intro p hp
        obtain ⟨t, ht, rfl⟩ := List.mem_map.1 hp
        exact (hbelow t ht).1
      case inside =>
        intro p hp
        obtain ⟨t, ht, rfl⟩ := List.mem_map.1 hp
        rw [row_toPart]
        exact ⟨(hinside t ht).1, (hinside t ht).2⟩
      case apart =>
        simp only [List.pairwise_map, row_toPart]
        exact hapart
    have hplaced : ∀ p ∈ ts.map (toPart src), Part.Placed src p := by
      intro p hp
      obtain ⟨t, ht, rfl⟩ := List.mem_map.1 hp
      exact (hbelow t ht).2
    rw [toPart_node]
    constructor
    · intro q hq
      rcases RoseTree.mem_preorder_iff.1 hq with rfl | ⟨p, hp, hq⟩
      · exact ⟨hrange, hfollow.inside, hfollow.apart⟩
      · exact hfollow.parts p hp q hq
    · intro q hq
      rcases RoseTree.mem_preorder_iff.1 hq with rfl | ⟨p, hp, hq⟩
      · exact Part.liesIn_rowNodes hfollow hrange hplaced
      · exact hplaced p hp q hq

/-- The spans of a lowered file nest. -/
theorem isNested_toSketch (src : Source) (h : t.IsOrdered) : (toSketch src t).IsNested := by
  obtain ⟨hordered, hplaced⟩ := placed_toPart src h
  have hrow : (toPart src t).row = t.label := by
    obtain ⟨row, ts⟩ := t
    rw [toPart_node]
    rfl
  have hchildren := Part.liesIn_sketchAll hordered.children fun p hp =>
    hplaced.of_mem_preorder (RoseTree.mem_preorder_of_mem_children hp)
  rw [hrow] at hchildren
  exact (Sketch.liesIn_composite .file (Span.Within.refl _) hchildren).nested

/-- The span of a node lies inside that of every node above it. -/
theorem span_within_of_mem_descendants {m n : Node} (src : Source) (h : t.IsOrdered)
    (hn : n ∈ (lower src t).nodes) (hm : m ∈ n.descendants) (hkind : n.kind ≠ .superTypeList)
    (hkind' : m.kind ≠ .superTypeList) : m.span.Within n.span := by
  have hpre : n.tree ∈ (lower src t).preorder := by
    rcases List.mem_cons.1 hn with rfl | hn
    · exact RoseTree.self_mem_preorder _
    · exact Node.tree_mem_preorder hn
  obtain ⟨v, hv, hvn⟩ :=
    (Sketch.numbersTo_number (toSketch src t)).exists_of_mem_preorder hpre hkind
  obtain ⟨w, hw, hwm⟩ := hvn.exists_of_mem_preorder (Node.tree_mem_preorder hm) hkind'
  have hspan : n.span = v.label.span := congrArg Content.span hvn.content_eq
  have hspan' : m.span = w.label.span := congrArg Content.span hwm.content_eq
  rw [hspan, hspan']
  exact ((isNested_toSketch src h).of_mem_preorder hv).within_of_mem_preorder hw

end Cst

end KotestOutline
