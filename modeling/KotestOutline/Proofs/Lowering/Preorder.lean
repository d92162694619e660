import KotestOutline.Proofs.Recognition.Listing
import KotestOutline.Proofs.Suite.RoundTrip
import KotestOutline.Proofs.Suite.SpecClass
import KotestOutline.Proofs.Syntax.Order

/-!
# Numbers in pre-order

Where every class has its supertypes in one row, a file is numbered in pre-order.
-/

namespace KotestOutline

/-!
## One supertype list

Numbering merges a second supertype list of a child list into the first one, which moves its entries
away from where they stand. Where every class has its supertypes in one row there is nothing to
merge: no child list of the lowered file has two supertype lists, and every node shows a sketch of
the file with all its children in their places.

* `Cst.HasOneDelegation` is the condition on the rows.
* `Sketch.IsLone` is a sketch that is no supertype list and holds no child list with two of them.
  Every construct passes it on but a class, which has the lists of its own children.
* `Cst.hasLoneLists_toSketch` is the whole file, and `Cst.exists_shows_of_hasOneDelegation` what it
  says about the nodes.
-/

section

variable {src : Source}

/-! ### Sketches -/

namespace Sketch

variable {s : Sketch} {children : List Sketch}

/-- Whether no child list in a sketch has two supertype lists. -/
def HasLoneLists (s : Sketch) : Prop :=
  s.Everywhere fun _ children => children.countP isSuperTypeList ≤ 1

/-- Whether a sketch is no supertype list, and no child list in it has two of them. -/
structure IsLone (s : Sketch) : Prop where
  other : s.isSuperTypeList = false
  lists : s.HasLoneLists

/-- A node of another kind is no supertype list. -/
theorem isSuperTypeList_eq_false {content : Content} (h : content.kind ≠ .superTypeList) :
    isSuperTypeList (.node content children) = false :=
  beq_eq_false_iff_ne.2 h

/-- A leaf is lone, unless it is of the kind of supertype lists. -/
theorem isLone_leaf {kind : NodeKind} (h : kind ≠ .superTypeList) (text : List Char)
    (span : Span) : (leaf kind text span).IsLone :=
  ⟨isSuperTypeList_eq_false h, everywhere_leaf (Nat.zero_le 1)⟩

/-- A node over lone sketches has no child list with two supertype lists, whatever it is itself. -/
theorem hasLoneLists_composite (kind : NodeKind) (span : Span) (h : ∀ c ∈ children, c.IsLone) :
    (composite kind span children).HasLoneLists := by
  apply everywhere_node
  · rw [countP_isSuperTypeList_eq_zero fun c hc => (h c hc).other]
    exact Nat.zero_le 1
  · exact fun c hc => (h c hc).lists

/-- A node over lone sketches is lone, unless it is a supertype list. -/
theorem isLone_composite {kind : NodeKind} (h : kind ≠ .superTypeList) (span : Span)
    (hc : ∀ c ∈ children, c.IsLone) : (composite kind span children).IsLone :=
  ⟨isSuperTypeList_eq_false h, hasLoneLists_composite kind span hc⟩

/-- The sketches below one without two supertype lists in a row have none either. -/
theorem HasLoneLists.of_mem_children {c : Sketch} (h : s.HasLoneLists) (hc : c ∈ s.children) :
    c.HasLoneLists :=
  fun u hu => h u (RoseTree.mem_preorder_iff.2 (Or.inr ⟨c, hc, hu⟩))

end Sketch

/-- Where no child list has two supertype lists, every node below one that shows a sketch shows a
sketch in it. By induction on the node, along the children. -/
theorem Node.Shows.exists_of_mem_descendants {n m : Node} {s : Sketch} (h : n.Shows s)
    (hlone : s.HasLoneLists) (hm : m ∈ n.descendants) : ∃ v ∈ s.preorder, m.Shows v := by
  induction n using Node.induction generalizing s with
  | step n ih =>
    obtain ⟨c, hc, -, hm⟩ := Node.mem_below_iff.1 hm
    have hchildren := h.children (hlone s (RoseTree.self_mem_preorder s))
    obtain ⟨u, hu, hcu⟩ := exists_mem_of_forall₂ hchildren hc
    rcases hm with rfl | hm
    · exact ⟨u, RoseTree.mem_preorder_of_mem_children hu, hcu⟩
    · obtain ⟨v, hv, hmv⟩ := ih c hc hcu (hlone.of_mem_children hu) hm
      exact ⟨v, RoseTree.mem_preorder_iff.2 (Or.inr ⟨u, hu, hv⟩), hmv⟩

/-! ### Parts -/

namespace Part

open Sketch

/-- Whether all sketches of a part and of the parts below it are lone. -/
def Lone (p : Part) : Prop :=
  ∀ q : Part, q ∈ p.preorder → ∀ s ∈ q.sketches, s.IsLone

variable {row : Row} {ps : List Part} {p q : Part}

/-- What a lone part lowers to is lone. -/
theorem Lone.sketches (h : Lone p) : ∀ s ∈ p.sketches, s.IsLone :=
  h p (RoseTree.self_mem_preorder p)

/-- Every part below a lone one is lone. -/
theorem Lone.of_mem_preorder (h : Lone p) (hq : q ∈ p.preorder) : Lone q :=
  fun r hr => h r (RoseTree.mem_preorder_trans hr hq)

/-- The children of a lone part are lone. -/
theorem Lone.of_mem_children (h : Lone p) (hq : q ∈ p.children) : Lone q :=
  h.of_mem_preorder (RoseTree.mem_preorder_of_mem_children hq)

/-- What lone parts lower to is lone. -/
theorem isLone_sketchAll (h : ∀ p ∈ ps, Lone p) : ∀ s ∈ sketchAll ps, s.IsLone := by
  intro s hs
  obtain ⟨p, hp, hs⟩ := mem_sketchAll.1 hs
  exact (h p hp).sketches s hs

/-- A reference is lone. -/
theorem isLone_nameReference (src : Source) (row : Row) : (nameReference src row).IsLone := by
  apply isLone_composite (by decide)
  intro c hc
  rw [List.mem_singleton.1 hc]
  exact isLone_leaf (by decide) _ _

/-- The leaf of a token is lone. -/
theorem isLone_tokenLeaf (src : Source) (row : Row) : (tokenLeaf src row).IsLone :=
  isLone_leaf (by split_ifs <;> decide) _ _

/-! ### Classes -/

/-- An entry is a leaf and the sketches of the constructor arguments. -/
theorem isLone_superTypeEntry (h : Lone p) : ∀ s ∈ superTypeEntry src p, s.IsLone := by
  intro s hs
  rcases superTypeEntry_cases src p with ⟨-, heq⟩ | ⟨type, rest, -, heq, hrest⟩
  · rw [heq] at hs
    cases hs
  · rw [heq, List.mem_singleton] at hs
    rw [hs]
    apply isLone_composite (by split_ifs <;> decide)
    intro c hc
    rcases List.mem_cons.1 hc with rfl | hc
    · exact isLone_leaf (by decide) _ _
    · obtain ⟨q, hq, hc⟩ := hrest c hc
      exact (h.of_mem_preorder hq).sketches c hc

/-- No child list in a supertype list has two of them. -/
theorem hasLoneLists_superTypeList (h : ∀ p ∈ ps, Lone p) :
    ∀ s ∈ superTypeList src row ps, s.HasLoneLists := by
  intro s hs
  unfold superTypeList at hs
  split_ifs at hs
  · cases hs
  · rw [List.mem_singleton.1 hs]
    apply hasLoneLists_composite
    intro c hc
    obtain ⟨p, hp, hc⟩ := List.mem_flatMap.1 hc
    exact isLone_superTypeEntry (h p hp) c hc

/-- No child list in the nodes of a child of a class has two supertype lists. -/
theorem hasLoneLists_classMember (h : Lone p) : ∀ s ∈ classMember src p, s.HasLoneLists := by
  intro s hs
  unfold classMember at hs
  split_ifs at hs
  · rw [List.mem_singleton.1 hs]
    exact (isLone_leaf (by decide) _ _).lists
  · refine hasLoneLists_superTypeList ?_ s hs
    intro q hq
    exact h.of_mem_children (mem_children_of_mem_namedChildren (List.mem_of_mem_filter hq))
  · refine hasLoneLists_superTypeList ?_ s hs
    intro q hq
    rwa [List.mem_singleton.1 hq]
  · exact (h.sketches s hs).lists

/-- The body of an initializer is lone. -/
theorem isLone_initializerBody (span : Span) (h : ∀ p ∈ ps, Lone p) :
    ∀ s ∈ initializerBody span ps, s.IsLone := by
  intro s hs
  unfold initializerBody at hs
  split_ifs at hs
  · exact isLone_sketchAll h s hs
  · rw [List.mem_singleton.1 hs]
    exact isLone_composite (by decide) _ (isLone_sketchAll h)

/-! ### Calls -/

/-- A dotted expression is the sketches of its receiver, a dot and the selector. -/
theorem isLone_dotted (h : ∀ p ∈ ps, Lone p) (span : Span) {selector : List Sketch}
    (hselector : ∀ s ∈ selector, s.IsLone) :
    (composite .dotQualifiedExpression span (receiverAndDot src ps ++ selector)).IsLone := by
  apply isLone_composite (by decide)
  intro s hs
  rcases List.mem_append.1 hs with hs | hs
  · rcases mem_receiverAndDot hs with ⟨p, hp, hs⟩ | ⟨dot, -, rfl⟩
    · exact (h p hp).sketches s hs
    · exact isLone_leaf (by decide) _ _
  · exact hselector s hs

/-- The reference of a selector is lone, if there is one. -/
theorem isLone_reference? (src : Source) (found : Option Part) :
    ∀ s ∈ (found.map (nameReference src ·.row)).toList, s.IsLone := by
  intro s hs
  rw [Option.mem_toList, Option.map_eq_some_iff] at hs
  obtain ⟨p, -, rfl⟩ := hs
  exact isLone_nameReference src p.row

/-- A dotted access is lone. -/
theorem isLone_navigationNode (h : ∀ p ∈ ps, Lone p) : (navigationNode src row ps).IsLone := by
  rcases navigationNode_cases src row ps with ⟨-, heq⟩ | ⟨-, heq⟩
  · rw [heq]
    exact isLone_composite (by decide) _ (isLone_sketchAll h)
  · rw [heq]
    exact isLone_dotted h _ (isLone_reference? src _)

/-- A call is lone. -/
theorem isLone_callNode (h : ∀ p ∈ ps, Lone p) : (callNode src row ps).IsLone := by
  have hbelow : ∀ parts : List Part, (∀ p ∈ parts, ∃ r ∈ ps, p ∈ r.preorder) →
      ∀ p ∈ parts, Lone p := by
    intro parts hparts p hp
    obtain ⟨r, hr, hmem⟩ := hparts p hp
    exact (h r hr).of_mem_preorder hmem
  rcases callNode_cases src row ps with ⟨parts, hparts, heq⟩ |
    ⟨callee, rest, start, hparts, -, -, heq⟩
  · rw [heq]
    exact isLone_composite (by decide) _ (isLone_sketchAll (hbelow parts hparts))
  · rw [heq]
    obtain ⟨hcallee, hrest⟩ := List.forall_mem_cons.1 (hbelow _ hparts)
    apply isLone_dotted fun p hp => hcallee.of_mem_children hp
    intro s hs
    rw [List.mem_singleton.1 hs]
    apply isLone_composite (by decide)
    intro u hu
    rcases List.mem_append.1 hu with hu | hu
    · exact isLone_reference? src _ u hu
    · exact isLone_sketchAll hrest u hu

/-! ### String content -/

/-- The leaves of string content are lone. -/
theorem isLone_contentLeaves {span : Span} {stop position : Nat} {escapes : List Part} :
    ∀ s ∈ contentLeaves src span stop position escapes, s.IsLone := by
  intro s hs
  rcases exists_of_mem_contentLeaves hs with ⟨kind, text, hkind, rfl⟩ | ⟨escape, -, rfl⟩
  · exact isLone_leaf (by rcases hkind with rfl | rfl <;> decide) _ _
  · exact isLone_leaf (by decide) _ _

/-- The entries of a child of a string are lone. -/
theorem isLone_stringEntries (isFirst isLast : Bool) (h : Lone p) :
    ∀ s ∈ stringEntries src isFirst isLast p, s.IsLone := by
  intro s hs
  unfold stringEntries at hs
  dsimp only at hs
  split_ifs at hs
  -- a leaf: a missing token, a token or an escape sequence
  iterate 5
    · rw [List.mem_singleton.1 hs]
      exact isLone_leaf (by decide) _ _
  · exact isLone_contentLeaves s hs
  · rw [List.mem_singleton.1 hs]
    exact isLone_composite (by decide) _ (isLone_sketchAll fun q hq => h.of_mem_children hq)

/-- The entries of a string are lone. -/
theorem isLone_stringEntriesAll (h : ∀ p ∈ ps, Lone p) (isFirst : Bool) :
    ∀ s ∈ stringEntriesAll src isFirst ps, s.IsLone := by
  induction ps generalizing isFirst with
  | nil =>
    intro s hs
    cases hs
  | cons p ps ih =>
    intro s hs
    rw [stringEntriesAll, List.mem_append] at hs
    rcases hs with hs | hs
    · exact isLone_stringEntries isFirst ps.isEmpty (h p List.mem_cons_self) s hs
    · exact ih (fun q hq => h q (List.mem_cons_of_mem p hq)) false s hs

/-! ### Rows -/

/-- A class or an object is the only construct that has supertype lists among its children, as many
as its own members make. -/
theorem isLone_constructNodes (h : ∀ p ∈ ps, Lone p)
    (hclass : Role.ofKind row.kind = .classDeclaration ∨ Role.ofKind row.kind = .objectDeclaration →
      (ps.flatMap (classMember src)).countP isSuperTypeList ≤ 1) :
    ∀ s ∈ constructNodes src row ps, s.IsLone := by
  have hall := isLone_sketchAll h
  have hmembers : ∀ kind : NodeKind, kind ≠ .superTypeList →
      (ps.flatMap (classMember src)).countP isSuperTypeList ≤ 1 →
        (composite kind (src.rowSpan row) (ps.flatMap (classMember src))).IsLone := by
    intro kind hkind hone
    refine ⟨isSuperTypeList_eq_false hkind, everywhere_node hone ?_⟩
    intro s hs
    obtain ⟨p, hp, hs⟩ := List.mem_flatMap.1 hs
    exact hasLoneLists_classMember (h p hp) s hs
  intro s hs
  simp only [constructNodes] at hs
  cases hrole : Role.ofKind row.kind <;> simp only [hrole, List.mem_singleton] at hs
  case wrapper => exact hall s hs
  case packageHeader => exact hs ▸ isLone_leaf (by decide) _ _
  case importHeader => exact hs ▸ isLone_leaf (by decide) _ _
  case classDeclaration => exact hs ▸ hmembers _ (by decide) (hclass (Or.inl hrole))
  case objectDeclaration => exact hs ▸ hmembers _ (by decide) (hclass (Or.inr hrole))
  case initializer =>
    exact hs ▸ isLone_composite (by decide) _ (isLone_initializerBody _ h)
  case call => exact hs ▸ isLone_callNode h
  case navigation => exact hs ▸ isLone_navigationNode h
  case string => exact hs ▸ isLone_composite (by decide) _ (isLone_stringEntriesAll h true)
  case identifier => exact hs ▸ isLone_nameReference src row
  all_goals exact hs ▸ isLone_composite (by decide) _ hall

/-- One step: where everything below a row is lone, so is what the row lowers to. -/
theorem isLone_rowNodes (h : ∀ p ∈ ps, Lone p)
    (hclass : Role.ofKind row.kind = .classDeclaration ∨ Role.ofKind row.kind = .objectDeclaration →
      (ps.flatMap (classMember src)).countP isSuperTypeList ≤ 1) :
    ∀ s ∈ rowNodes src row ps, s.IsLone := by
  intro s hs
  rcases mem_rowNodes hs with ⟨-, rfl⟩ | rfl | rfl | hs
  · exact isLone_leaf (by decide) _ _
  · exact isLone_composite (by decide) _ (isLone_sketchAll h)
  · exact isLone_tokenLeaf src row
  · exact isLone_constructNodes h hclass s hs

end Part

/-! ### Files -/

namespace Cst

variable {t : Cst}

/-- Whether each class and object of a file has at most one child that holds supertypes. -/
def HasOneDelegation (t : Cst) : Prop :=
  ∀ q ∈ t.preorder, q.label.kind = "class_declaration" ∨ q.label.kind = "object_declaration" →
    q.children.countP isDelegation ≤ 1

instance (t : Cst) : Decidable t.HasOneDelegation :=
  inferInstanceAs (Decidable (∀ q ∈ t.preorder,
    q.label.kind = "class_declaration" ∨ q.label.kind = "object_declaration" →
      q.children.countP isDelegation ≤ 1))

/-- By induction on the concrete tree: every part is lone. -/
theorem lone_toPart (src : Source) (h : t.HasOneDelegation) : Part.Lone (toPart src t) := by
  induction t using RoseTree.induction with
  | node row ts ih =>
    have hbelow : ∀ p ∈ ts.map (toPart src), Part.Lone p := by
      intro p hp
      obtain ⟨t, ht, rfl⟩ := List.mem_map.1 hp
      exact ih t ht fun q hq => h q (RoseTree.mem_preorder_iff.2 (Or.inr ⟨t, ht, hq⟩))
    have hclass : Role.ofKind row.kind = .classDeclaration ∨
        Role.ofKind row.kind = .objectDeclaration →
          ((ts.map (toPart src)).flatMap (Part.classMember src)).countP
            Sketch.isSuperTypeList ≤ 1 := by
      intro hrole
      rw [List.flatMap_map]
      apply Nat.le_trans (countP_flatMap_memberSketches_le src ts)
      apply h _ (RoseTree.self_mem_preorder _)
      exact hrole.imp (Role.eq_of_ofKind_eq · rfl) (Role.eq_of_ofKind_eq · rfl)
    intro q hq
    rw [toPart_node] at hq
    rcases RoseTree.mem_preorder_iff.1 hq with rfl | ⟨p, hp, hq⟩
    · exact Part.isLone_rowNodes hbelow hclass
    · exact hbelow p hp q hq

/-- Where each class has its supertypes in one row, no child list of the file has two supertype
lists. -/
theorem hasLoneLists_toSketch (src : Source) (h : t.HasOneDelegation) :
    (toSketch src t).HasLoneLists := by
  apply Sketch.hasLoneLists_composite
  apply Part.isLone_sketchAll
  intro p hp
  exact (lone_toPart src h).of_mem_children hp

/-- So every node shows a sketch of the file, with all its children in their places. -/
theorem exists_shows_of_hasOneDelegation (h : t.HasOneDelegation) {n : Node}
    (hn : n ∈ (lower src t).nodes) :
    ∃ v ∈ (toSketch src t).preorder, n.Shows v ∧ List.Forall₂ Node.Shows n.children v.children := by
  have hlone := hasLoneLists_toSketch src h
  have hroot : (Node.ofTree (lower src t)).Shows (toSketch src t) := Sketch.numbersTo_number _
  have hshow : ∃ v ∈ (toSketch src t).preorder, n.Shows v := by
    rcases List.mem_cons.1 hn with rfl | hn
    · exact ⟨_, RoseTree.self_mem_preorder _, hroot⟩
    · exact hroot.exists_of_mem_descendants hlone hn
  obtain ⟨v, hv, hnv⟩ := hshow
  exact ⟨v, hv, hnv, hnv.children (hlone v hv)⟩

end Cst

end

/-!
## Numbers in pre-order

Numbering departs from pre-order in one case only: a second supertype list in a child list gives
its entries, with the numbers of its own place, to the first one. Where no child list has two of
them the numbers of a tree are those of its pre-order, and whatever is listed in source order is
listed by increasing numbers.

* `Sketch.ids_numberFrom_of_lone` is one sketch, and `Sketch.isNumberedInOrder_number` a whole tree.
* `SyntaxTree.IsNumberedInOrder.pairwise_specs` and `SyntaxTree.IsNumberedInOrder.pairwise_tests`
  are the listings.
* `Cst.ids_preorder` is a file: its numbers, what is listed of it, and the order of its tree.
-/

/-! ### Sketches -/

namespace Sketch

mutual

/-- A sketch without two supertype lists in one child list has the numbers of an interval, in
pre-order. -/
theorem ids_numberFrom_of_lone : (s : RoseTree Content) → HasLoneLists s → ∀ next,
    ∃ count, (numberFrom next s).2 = next + count ∧
      (numberFrom next s).1.labels.map Label.id = List.range' next count
  | .node content children, hlone, next => by
    have hone : children.countP isSuperTypeList + Bool.toNat false ≤ 1 :=
      hlone _ (RoseTree.self_mem_preorder _)
    obtain ⟨count, hnext, hids⟩ :=
      ids_numberAll_of_lone children (fun s hs => hlone.of_mem_children hs) (next + 1) false hone
    refine ⟨count + 1, by rw [numberFrom, hnext]; omega, ?_⟩
    rw [numberFrom, RoseTree.labels_node, List.map_cons, hids, List.range'_succ]

/-- So has a child list of such sketches, one after the other. -/
theorem ids_numberAll_of_lone : (ss : List (RoseTree Content)) → (∀ s ∈ ss, HasLoneLists s) →
    ∀ next listed, ss.countP isSuperTypeList + Bool.toNat listed ≤ 1 →
      ∃ count, (numberAll next listed ss).next = next + count ∧
        ((numberAll next listed ss).children.flatMap RoseTree.labels).map Label.id =
          List.range' next count
  | [], _, next, listed, _ => ⟨0, rfl, rfl⟩
  | s :: ss, hlone, next, listed, hone => by
    obtain ⟨here, hhere, hids⟩ := ids_numberFrom_of_lone s (hlone s List.mem_cons_self) next
    obtain ⟨later, hlater, hrest⟩ :=
      ids_numberAll_of_lone ss (fun s hs => hlone s (List.mem_cons_of_mem _ hs)) (next + here)
        (listed || isSuperTypeList s) (countP_tail_le hone)
    rw [numberAll_cons_of_lone hone, hhere]
    refine ⟨here + later, by rw [hlater]; omega, ?_⟩
    rw [List.flatMap_cons, List.map_append, hids, hrest, List.range'_append_1]

end

/-- Numbers are in the order of the text where no child list has two supertype lists. -/
theorem isNumberedInOrder_number {s : Sketch} (hlone : s.HasLoneLists) :
    s.number.IsNumberedInOrder := by
  obtain ⟨count, -, hids⟩ := ids_numberFrom_of_lone s hlone 0
  have hall : (SyntaxTree.nodes s.number).map Node.id = List.range' 0 count := by
    rw [SyntaxTree.map_id_nodes]
    exact hids
  have hcount : (SyntaxTree.nodes s.number).length = count := by
    simpa using congrArg List.length hall
  rw [SyntaxTree.IsNumberedInOrder, hcount, List.range_eq_range', hall]

end Sketch

/-! ### Listings -/

namespace SyntaxTree.IsNumberedInOrder

variable {t : SyntaxTree} {n : Node}

/-- In a tree numbered in order the specs are listed by ascending number. -/
theorem pairwise_specs (h : t.IsNumberedInOrder) (c : Classifier) :
    ((listSpecifications c (.ofTree t)).map (·.1.id)).Pairwise (· < ·) := by
  have hsub := ((listSpecifications_map_fst_sublist c (.ofTree t)).trans
    (descendants_sublist_nodes List.mem_cons_self)).map Node.id
  rw [List.map_map] at hsub
  exact h.pairwise_id_lt.sublist hsub

/-- In a tree numbered in order the tests of a spec are listed by ascending number. -/
theorem pairwise_tests (h : t.IsNumberedInOrder) (hn : n ∈ nodes t) (style : SpecStyle)
    (membership : Membership) :
    ((listTests style membership n).map (·.anchor)).Pairwise (· < ·) := by
  have hbelow : (n.below NodeKind.isClassOrObject).Sublist (nodes t) :=
    (Node.below_sublist_descendants n _).trans (descendants_sublist_nodes hn)
  exact h.pairwise_id_lt.sublist
    ((listTests_map_anchor_sublist style membership n).trans (hbelow.map Node.id))

end SyntaxTree.IsNumberedInOrder

/-! ### Files -/

/-- **Numbers are pre-order positions.** In a file where every class and object has its supertypes
in one row, the walk from the root meets the numbers from 1 on, one after the other. So specs are
listed by increasing numbers, and the tests of each by increasing anchors; and a smaller number
means that a node comes first in the order of the tree. -/
theorem Cst.ids_preorder (src : Source) {cst : Cst} (hone : cst.HasOneDelegation) :
    let tree := lower src cst
    (Node.ofTree tree).descendants.map Node.id = List.range' 1 (tree.nodes.length - 1) ∧
    (∀ c : Classifier, ((listSpecifications c (.ofTree tree)).map (·.1.id)).Pairwise (· < ·) ∧
      ∀ spec ∈ listSpecifications c (.ofTree tree), ∀ style membership,
        ((listTests style membership spec.1).map (·.anchor)).Pairwise (· < ·)) ∧
    ∀ m ∈ tree.nodes, ∀ n ∈ tree.nodes, m.id < n.id ↔ m.Precedes n := by
  intro tree
  have horder : tree.IsNumberedInOrder :=
    Sketch.isNumberedInOrder_number (hasLoneLists_toSketch src hone)
  refine ⟨horder.map_id_descendants, fun c => ⟨horder.pairwise_specs c, ?_⟩,
    fun m hm n hn => horder.id_lt_iff hm hn⟩
  intro spec hspec style membership
  have hspecNode : spec.1 ∈ tree.nodes := List.mem_cons_of_mem _ (mem_listSpecifications.1 hspec).1
  exact horder.pairwise_tests hspecNode style membership

open FunSpecSample in
/-- A file with one spec, whose second test has a configuration before its body. -/
theorem ids_preorder_funSpecSample :
    (construct "source_file" 0 80 [spec]).HasOneDelegation ∧
      (Node.ofTree (Cst.lower source (construct "source_file" 0 80 [spec]))).descendants.map
        Node.id =
          List.range' 1
            ((Cst.lower source (construct "source_file" 0 80 [spec])).nodes.length - 1) := by
  have hone : (construct "source_file" 0 80 [spec]).HasOneDelegation := by decide
  exact ⟨hone, (Cst.ids_preorder source hone).1⟩

open FunSpecSample in
/-- A second row of supertypes, behind the body of the class, is numbered there and walked before
the body. -/
example :
    let cst := construct "source_file" 0 80 [construct "class_declaration" 0 80
      [construct "delegation_specifier" 10 17 [construct "user_type" 10 17 []],
        construct "class_body" 17 20 [],
        construct "delegation_specifier" 20 27 [construct "user_type" 20 27 []]]]
    ¬ cst.HasOneDelegation ∧
      (Node.ofTree (Cst.lower source cst)).descendants.map Node.id = [1, 2, 3, 4, 6, 7, 5] := by
  decide

end KotestOutline
