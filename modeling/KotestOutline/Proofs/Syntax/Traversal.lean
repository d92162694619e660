import KotestOutline.Proofs.Syntax.Arena
import KotestOutline.Proofs.Syntax.Order
import Mathlib.Data.List.Count
import Mathlib.Data.List.Pairwise
import Mathlib.Logic.Function.Basic

/-!
# Records and walks of an arena

What each call writes into an arena, and that the ways up and down in its tree agree.
-/

namespace KotestOutline

/-!
## The records of an arena

A node of a tree names its parent and its children by their numbers. For the tree of an arena this
record is what the arena was told: adding a node writes a record of its own and one number at the
end of its parent's child list, and nothing else. So however the nodes were attached, child lists
and parents tell the same, and child lists grow upwards.

* `SyntaxTree.record?`: the record behind a number.
* `Arena.IsBuilt.record?_toTree`: it is read off the table of the arena.
* `Arena.record?_new`, `Arena.IsBuilt.record?_addNode` and `Arena.IsBuilt.record?_addLeaf`: what the
  calls write.
* `SyntaxTree.IsLinked`: parents and child lists of a tree agree; `Arena.IsBuilt.isLinked`.
-/

/-- What a node holds, with the numbers of its parent and of its children in order. -/
structure NodeRecord extends Content where
  parent : Option Nat
  children : List Nat

/-- The record with one more child at the end. -/
def NodeRecord.addChild (r : NodeRecord) (id : Nat) : NodeRecord :=
  { r with children := r.children ++ [id] }

/-- The record of a node. -/
def Node.record (n : Node) : NodeRecord :=
  ⟨n.tree.label.toContent, n.parent?.map Node.id, n.children.map Node.id⟩

/-- The record of the node with a number. -/
def SyntaxTree.record? (t : SyntaxTree) (id : Nat) : Option NodeRecord :=
  (t.node? id).map Node.record

/-- Records after a new one is written under `id`, as the last child of `parent`. -/
def writeRecord (records : Nat → Option NodeRecord) (id parent : Nat) (content : Content) :
    Nat → Option NodeRecord :=
  Function.update
    (Function.update records parent ((records parent).map (·.addChild id)))
    id (some ⟨content, some parent, []⟩)

namespace Arena

variable {a : Arena} {i j parent : Nat} {content : Content} {n : Node}

/-! ### Records of the table -/

/-- The number of the parent of a node. -/
def parentId? (a : Arena) : Nat → Option Nat
  | 0 => none
  | i + 1 => a.added[i]?.map (·.1)

/-- The record that the table of an arena has under a number. -/
def record? (a : Arena) (i : Nat) : Option NodeRecord :=
  (a.content? i).map fun content => ⟨content, a.parentId? i, a.childIds i⟩

/-- A node is among the children of another just if that is its parent. -/
theorem mem_childIds_iff : j ∈ a.childIds i ↔ a.parentId? j = some i := by
  constructor
  · intro h
    obtain ⟨⟨row, k⟩, hmem, rfl⟩ := List.mem_map.1 h
    obtain ⟨hmem, hparent⟩ := List.mem_filter.1 hmem
    obtain ⟨hk, hrow⟩ := List.mem_zipIdx_iff_le_and_getElem?_sub.1 hmem
    obtain ⟨k, rfl⟩ := Nat.exists_eq_add_of_le' hk
    rw [Array.getElem?_toList, Nat.add_sub_cancel] at hrow
    rw [parentId?, hrow, Option.map_some, beq_iff_eq.1 hparent]
  · intro h
    cases j with
    | zero => cases h
    | succ k =>
      obtain ⟨row, hrow, rfl⟩ := Option.map_eq_some_iff.1 h
      exact mem_childIds_of_getElem? hrow

/-- The children of a node stand in the order in which they were added. -/
theorem pairwise_lt_childIds (a : Arena) (i : Nat) : (a.childIds i).Pairwise (· < ·) := by
  have hnumbers : ((a.added.toList.zipIdx 1).map (·.2)).Pairwise (· < ·) := by
    rw [List.zipIdx_map_snd]
    exact List.pairwise_lt_range'
  exact hnumbers.sublist (List.filter_sublist.map _)

/-- A parent was added before its children. -/
theorem IsBuilt.parentId?_lt (h : a.IsBuilt) (hparent : a.parentId? j = some i) : i < j := by
  cases j with
  | zero => cases hparent
  | succ k =>
    obtain ⟨row, hrow, rfl⟩ := Option.map_eq_some_iff.1 hparent
    exact h.parent_lt_of_getElem? hrow

/-- The number of the next node is in no row yet. -/
theorem IsBuilt.childIds_size (h : a.IsBuilt) : a.childIds a.size = [] := by
  rw [List.eq_nil_iff_forall_not_mem]
  intro j hj
  have hparent := mem_childIds_iff.1 hj
  have hlt := h.parentId?_lt hparent
  cases j with
  | zero => cases hparent
  | succ k =>
    obtain ⟨row, hrow, -⟩ := Option.map_eq_some_iff.1 hparent
    obtain ⟨hk, -⟩ := Array.getElem?_eq_some_iff.1 hrow
    rw [size] at hlt
    omega

/-! ### One more row -/

/-- A row that is added holds its content, and every other node what it held. -/
theorem content?_push (i : Nat) :
    content? ⟨a.root, a.added.push (parent, content)⟩ i =
      if i = a.size then some content else a.content? i := by
  cases i with
  | zero => rfl
  | succ i =>
    rw [content?, Array.getElem?_push]
    by_cases hi : i = a.added.size <;> simp [hi, size, content?]

/-- A row that is added has its parent, and every other node the one it had. -/
theorem parentId?_push (i : Nat) :
    parentId? ⟨a.root, a.added.push (parent, content)⟩ i =
      if i = a.size then some parent else a.parentId? i := by
  cases i with
  | zero => rfl
  | succ i =>
    rw [parentId?, Array.getElem?_push]
    by_cases hi : i = a.added.size <;> simp [hi, size, parentId?]

/-- A row that is added is the last child of its parent, and every other node has the children it
had. -/
theorem childIds_push (i : Nat) :
    childIds ⟨a.root, a.added.push (parent, content)⟩ i =
      if i = parent then a.childIds i ++ [a.size] else a.childIds i := by
  rw [childIds_eq_rows, childIds_eq_rows, rows_push, List.filter_append]
  by_cases hi : i = parent
  · subst hi
    simp [size]
  · simp [hi, Ne.symm hi]

/-- Adding a node writes one record. -/
theorem IsBuilt.record?_push (h : a.IsBuilt) (hparent : parent < a.size) :
    record? ⟨a.root, a.added.push (parent, content)⟩ =
      writeRecord a.record? a.size parent content := by
  funext i
  rw [record?, content?_push, parentId?_push, childIds_push, writeRecord]
  by_cases hnew : i = a.size
  · subst hnew
    rw [if_pos rfl, if_pos rfl, if_neg (Nat.ne_of_gt hparent), h.childIds_size,
      Function.update_self]
    rfl
  · rw [if_neg hnew, if_neg hnew, Function.update_of_ne hnew]
    by_cases hi : i = parent
    · subst hi
      rw [if_pos rfl, Function.update_self, record?, Option.map_map]
      rfl
    · rw [if_neg hi, Function.update_of_ne hi]
      rfl

/-! ### Records of the tree -/

/-- The table of an arena tells the content of each node of its tree and the numbers of its
children. -/
theorem IsBuilt.content?_id (h : a.IsBuilt) (hn : n ∈ a.toTree.nodes) :
    a.content? n.id = some n.tree.label.toContent ∧ n.children.map Node.id = a.childIds n.id := by
  obtain ⟨hcontent, hchildren⟩ :=
    h.describes_toTree n.tree (SyntaxTree.mem_preorder_of_mem_nodes hn)
  refine ⟨hcontent, ?_⟩
  rw [Node.children, List.map_map]
  exact hchildren

/-- The node above a node has the number of its parent. -/
theorem IsBuilt.map_id_parent? (h : a.IsBuilt) (hn : n ∈ a.toTree.nodes) :
    n.parent?.map Node.id = a.parentId? n.id := by
  rcases List.mem_cons.1 hn with rfl | hbelow
  · rfl
  · obtain ⟨p, hparent, hchild, -⟩ := Node.exists_parent?_of_mem_descendants hbelow
    obtain ⟨hp, -⟩ := SyntaxTree.mem_nodes_of_parent? hparent hn
    have hmem : n.id ∈ a.childIds p.id := by
      rw [← (h.content?_id hp).2]
      exact List.mem_map_of_mem hchild
    rw [hparent, Option.map_some, mem_childIds_iff.1 hmem]

/-- A number has no node just if it is not less than the size. -/
theorem content?_eq_none_iff : a.content? i = none ↔ a.size ≤ i := by
  cases i with
  | zero => simp [content?, size]
  | succ i => simp [content?, size]

/-- **The tree of an arena keeps the records of its table.** -/
theorem IsBuilt.record?_toTree (h : a.IsBuilt) : a.toTree.record? = a.record? := by
  funext i
  by_cases hi : i < a.size
  · obtain ⟨n, hn⟩ := h.exists_node? hi
    obtain ⟨hmem, rfl⟩ := a.hasDistinctIds_toTree.node?_eq_some_iff.1 hn
    obtain ⟨hcontent, hchildren⟩ := h.content?_id hmem
    rw [SyntaxTree.record?, hn, record?, hcontent, Option.map_some, Option.map_some, Node.record,
      h.map_id_parent? hmem, hchildren]
  · have hnone : a.toTree.node? i = none := by
      rw [Option.eq_none_iff_forall_ne_some]
      intro n hn
      obtain ⟨hmem, rfl⟩ := a.hasDistinctIds_toTree.node?_eq_some_iff.1 hn
      exact hi (h.id_lt_size hmem)
    rw [SyntaxTree.record?, hnone, record?, content?_eq_none_iff.2 (Nat.le_of_not_lt hi)]
    rfl

/-- A new arena has the record of its root. -/
theorem record?_new (kind : NodeKind) (span : Span) :
    (new kind span).toTree.record? =
      Function.update (fun _ => none) 0 (some ⟨⟨kind, none, span⟩, none, []⟩) := by
  rw [(IsBuilt.new kind span).record?_toTree]
  funext i
  cases i with
  | zero => rfl
  | succ i => simp [record?, content?, new]

/-- Adding a node below another one changes the child list of that one, and nothing else that is
there already. -/
theorem IsBuilt.record?_addNode (h : a.IsBuilt) (hparent : parent < a.size) (kind : NodeKind)
    (span : Span) :
    (a.addNode parent kind span).toTree.record? =
      writeRecord a.toTree.record? a.size parent ⟨kind, none, span⟩ := by
  rw [(h.addNode hparent kind span).record?_toTree, h.record?_toTree]
  exact h.record?_push hparent

/-- A leaf that is added is written under the next number, and to the end of the child list of its
parent. -/
theorem IsBuilt.record?_addLeaf (h : a.IsBuilt) (hparent : parent < a.size) (kind : NodeKind)
    (text : String) (span : Span) :
    (a.addLeaf parent kind text span).toTree.record? =
      writeRecord a.toTree.record? a.size parent ⟨kind, some text, span⟩ := by
  rw [(h.addLeaf hparent kind text span).record?_toTree, h.record?_toTree]
  exact h.record?_push hparent

end Arena

/-! ### Parents and child lists -/

/-- Parents and child lists of a tree agree, and both follow the numbers. -/
structure SyntaxTree.IsLinked (t : SyntaxTree) : Prop where
  /-- Only the root, which has the number 0, is without a parent. -/
  parent?_eq_none_iff : ∀ n ∈ t.nodes, n.parent? = none ↔ n.id = 0
  id_parent_lt : ∀ n ∈ t.nodes, ∀ p, n.parent? = some p → p ∈ t.nodes ∧ p.id < n.id
  /-- A number is once in the child list of its node's parent, and in no other child list. -/
  count_children : ∀ n ∈ t.nodes, ∀ p ∈ t.nodes,
    (p.children.map Node.id).count n.id = if n.parent?.map Node.id = some p.id then 1 else 0
  children_mem : ∀ p ∈ t.nodes, ∀ c ∈ p.children, c ∈ t.nodes ∧ c.parent? = some p
  children_increasing : ∀ p ∈ t.nodes, (p.children.map Node.id).Pairwise (· < ·)

namespace Arena

variable {a : Arena} {i j : Nat}

/-- A node is once among the children of its parent, and among no others. -/
theorem count_childIds (a : Arena) (i j : Nat) :
    (a.childIds i).count j = if a.parentId? j = some i then 1 else 0 := by
  have hnodup : (a.childIds i).Nodup := (a.pairwise_lt_childIds i).imp Nat.ne_of_lt
  rw [hnodup.count]
  simp only [mem_childIds_iff]

/-- **Parents and child lists of an arena agree**, whatever the order in which its nodes came. -/
theorem IsBuilt.isLinked (h : a.IsBuilt) : a.toTree.IsLinked where
  parent?_eq_none_iff n hn := by
    rw [← Option.map_eq_none_iff (f := Node.id), h.map_id_parent? hn]
    have hlt := h.id_lt_size hn
    cases hid : n.id with
    | zero => simp [parentId?]
    | succ i =>
      rw [hid, size] at hlt
      simpa [parentId?] using Nat.lt_of_succ_lt_succ hlt
  id_parent_lt n hn p hparent := by
    refine ⟨(SyntaxTree.mem_nodes_of_parent? hparent hn).1, ?_⟩
    have hid := h.map_id_parent? hn
    rw [hparent, Option.map_some] at hid
    exact h.parentId?_lt hid.symm
  count_children n hn p hp := by
    rw [(h.content?_id hp).2, count_childIds, h.map_id_parent? hn]
  children_mem p hp c hc := by
    have hbelow := Node.mem_descendants_of_mem_children hc
    exact ⟨SyntaxTree.mem_nodes_of_mem_descendants hbelow hp, Node.parent?_of_mem_children hc⟩
  children_increasing p hp := by
    rw [(h.content?_id hp).2]
    exact a.pairwise_lt_childIds p.id

end Arena

/-!
## Walks through the tree of an arena

Nodes may be attached anywhere and in any order. The two ways through the tree agree all the same:
up from a node by its parents, and down from it with a stack.

* `SyntaxTree.IsLinked.pairwise_ancestors`: numbers fall on the way up, which ends at the root by
  `SyntaxTree.getLast?_ancestors`.
* `SyntaxTree.WalksAgree`: what is below a node are the nodes that it is above, each of them once.
* `Arena.IsBuilt.isLinked_and_walksAgree` has this for every arena, and what each call writes.
-/

/-! ### Up -/

/-- The nodes around a node are its parent and those around the parent. -/
theorem Node.ancestors_eq (n : Node) :
    n.ancestors = n.parent?.elim [] fun p => p :: p.ancestors := by
  cases hparent : n.parent? with
  | none => exact List.head?_eq_none_iff.1 hparent
  | some p => exact ancestors_of_parent? hparent

namespace SyntaxTree

variable {t : SyntaxTree} {d n : Node}

/-- The last of the nodes around a node is the root. -/
theorem getLast?_ancestors (hn : n ∈ t.nodes) :
    (n :: n.ancestors).getLast? = some (.ofTree t) := by
  rcases List.mem_cons.1 hn with rfl | hn
  · rfl
  · obtain ⟨-, path, hpath, -⟩ := Node.exists_ancestors_of_mem_below hn
    have htop : (Node.ofTree t).ancestors = [] := rfl
    rw [hpath, htop, ← List.cons_append, List.getLast?_concat]

/-- The numbers fall on the way up. By induction on the number, since that of the parent is
smaller. -/
theorem IsLinked.pairwise_ancestors (h : t.IsLinked) (hn : n ∈ t.nodes) :
    ((n :: n.ancestors).map Node.id).Pairwise (· > ·) := by
  induction hid : n.id using Nat.strongRecOn generalizing n with
  | ind i ih =>
    rw [Node.ancestors_eq]
    cases hparent : n.parent? with
    | none => exact List.pairwise_singleton _ _
    | some p =>
      obtain ⟨hp, hlt⟩ := h.id_parent_lt n hn p hparent
      have hchain := ih p.id (hid ▸ hlt) hp rfl
      refine List.pairwise_cons.2 ⟨fun j hj => ?_, hchain⟩
      rcases List.mem_cons.1 hj with rfl | hj
      · exact hlt
      · exact Nat.lt_trans (List.rel_of_pairwise_cons hchain hj) hlt

/-- A node is below another just if that one is around it. -/
theorem mem_descendants_iff (hn : n ∈ t.nodes) :
    d ∈ n.descendants ↔ d ∈ t.nodes ∧ n ∈ d.ancestors := by
  constructor
  · intro hd
    exact ⟨mem_nodes_of_mem_descendants hd hn, Node.mem_ancestors_of_mem_descendants hd⟩
  · rintro ⟨hd, habove⟩
    exact Node.mem_descendants_of_mem_ancestors hd habove

/-! ### Both ways -/

/-- The ways up and down in a tree agree. -/
structure WalksAgree (t : SyntaxTree) : Prop where
  /-- The way up goes on from parent to parent. -/
  ancestors_eq : ∀ n ∈ t.nodes, n.ancestors = n.parent?.elim [] fun p => p :: p.ancestors
  ancestors_end : ∀ n ∈ t.nodes, (n :: n.ancestors).getLast? = some (.ofTree t)
  ancestors_decreasing : ∀ n ∈ t.nodes, ((n :: n.ancestors).map Node.id).Pairwise (· > ·)
  mem_descendants_iff : ∀ n ∈ t.nodes, ∀ d, d ∈ n.descendants ↔ d ∈ t.nodes ∧ n ∈ d.ancestors
  descendants_distinct : ∀ n ∈ t.nodes, (n.descendants.map Node.id).Nodup
  /-- Parents come before their children, and the subtrees of children in turn. -/
  descendants_eq : ∀ n ∈ t.nodes, n.descendants = n.children.flatMap fun c => c :: c.descendants
  /-- The walk with a stack comes to the same nodes in the same order. -/
  toList_descent : ∀ n ∈ t.nodes, n.descent.toList = n.descendants

/-- Where parents and child lists agree, so do the ways up and down. -/
theorem IsLinked.walksAgree (h : t.IsLinked) (hids : t.HasDistinctIds) : t.WalksAgree where
  ancestors_eq n _ := n.ancestors_eq
  ancestors_end _ hn := getLast?_ancestors hn
  ancestors_decreasing _ hn := h.pairwise_ancestors hn
  mem_descendants_iff _ hn _ := SyntaxTree.mem_descendants_iff hn
  descendants_distinct _ hn := hids.sublist ((descendants_sublist_nodes hn).map Node.id)
  descendants_eq n _ := n.descendants_eq
  toList_descent n _ := n.toList_descent

end SyntaxTree

namespace Arena

variable {a : Arena}

/-- The nodes of an arena have the numbers from 0 on. -/
theorem IsBuilt.map_id_nodes_perm (h : a.IsBuilt) :
    (a.toTree.nodes.map Node.id).Perm (List.range a.size) := by
  refine (List.perm_ext_iff_of_nodup a.hasDistinctIds_toTree List.nodup_range).2 fun i => ?_
  rw [List.mem_range, List.mem_map]
  constructor
  · rintro ⟨n, hn, rfl⟩
    exact h.id_lt_size hn
  · intro hi
    obtain ⟨n, hn⟩ := h.exists_node? hi
    exact ⟨n, a.hasDistinctIds_toTree.node?_eq_some_iff.1 hn⟩

/-- **However an arena is built, its nodes are linked and its walks agree.** The first call writes
the record of the root; a further one writes a new record and one number at the end of the parent's
child list, nothing else. Nodes are numbered from 0 on, which 32 bits suffice for up to that many
nodes. -/
theorem IsBuilt.isLinked_and_walksAgree (h : a.IsBuilt) :
    (a.toTree.nodes.map Node.id).Perm (List.range a.size) ∧
      (a.added.size < UInt32.size → ∀ n ∈ a.toTree.nodes, n.id < UInt32.size) ∧
      a.toTree.IsLinked ∧
      a.toTree.WalksAgree ∧
      (∀ kind span, (Arena.new kind span).toTree.record? =
        Function.update (fun _ => none) 0 (some ⟨⟨kind, none, span⟩, none, []⟩)) ∧
      ∀ parent < a.size, ∀ kind span,
        (a.addNode parent kind span).toTree.record? =
          writeRecord a.toTree.record? a.size parent ⟨kind, none, span⟩ ∧
        ∀ text, (a.addLeaf parent kind text span).toTree.record? =
          writeRecord a.toTree.record? a.size parent ⟨kind, some text, span⟩ := by
  refine ⟨h.map_id_nodes_perm, ?_, h.isLinked, h.isLinked.walksAgree a.hasDistinctIds_toTree,
    record?_new, ?_⟩
  · intro hcalls n hn
    have hid := h.id_lt_size hn
    rw [size] at hid
    omega
  · intro parent hparent kind span
    exact ⟨h.record?_addNode hparent kind span,
      fun text => h.record?_addLeaf hparent kind text span⟩

/-- Two classes whose nodes were attached in turn. -/
def interleavedArena : Arena :=
  .ofRows
    [(0, .classDeclaration, none), (0, .classDeclaration, none), (1, .identifier, some "A"),
      (2, .identifier, some "B"), (1, .classBody, none), (2, .classBody, none)]

/-- The walk of the two classes is in tree order, which is not the order of the calls. -/
theorem toList_descent_interleavedArena :
    interleavedArena.IsBuilt ∧
      (Node.ofTree interleavedArena.toTree).descent.toList.map Node.id = [1, 3, 5, 2, 4, 6] := by
  have hbuilt : interleavedArena.IsBuilt := isBuilt_of_parent_lt rfl (by decide)
  obtain ⟨-, -, -, hwalks, -⟩ := hbuilt.isLinked_and_walksAgree
  refine ⟨hbuilt, ?_⟩
  rw [hwalks.toList_descent _ List.mem_cons_self]
  decide

end Arena

end KotestOutline
