import KotestOutline.RoseTree
import KotestOutline.Syntax
import Mathlib.Data.List.Basic
import Mathlib.Data.List.Nodup

/-!
# Walking a syntax tree

The ways through a tree: its subtrees in pre-order, the walk down from a node, and the chain up to
the root.
-/

namespace KotestOutline

/-!
## Subtrees of rose trees

* `RoseTree.preorder_node` lists the subtrees one level at a time, and `RoseTree.mem_preorder_trans`
  makes being a subtree transitive.
* `RoseTree.labels` are the labels of the subtrees.
-/

namespace RoseTree

variable {α : Type} {s t u : RoseTree α}

/-- The subtrees of a node are itself and those of its children, in order. -/
theorem preorder_node (a : α) (ts : List (RoseTree α)) :
    (node a ts).preorder = node a ts :: ts.flatMap preorder := by
  rw [preorder, preorderAll_eq_flatMap]

/-- A subtree of a tree is the tree itself, or a subtree of one of its children. -/
theorem mem_preorder_iff : u ∈ t.preorder ↔ u = t ∨ ∃ s ∈ t.children, u ∈ s.preorder := by
  obtain ⟨a, ts⟩ := t
  rw [preorder_node, List.mem_cons, List.mem_flatMap, children_node]

/-- A tree is a subtree of itself. -/
theorem self_mem_preorder (t : RoseTree α) : t ∈ t.preorder :=
  mem_preorder_iff.2 (Or.inl rfl)

/-- The children of a tree are subtrees of it. -/
theorem mem_preorder_of_mem_children (h : s ∈ t.children) : s ∈ t.preorder :=
  mem_preorder_iff.2 (Or.inr ⟨s, h, self_mem_preorder s⟩)

/-- A subtree of a subtree is a subtree. -/
theorem mem_preorder_trans (hu : u ∈ s.preorder) (hs : s ∈ t.preorder) : u ∈ t.preorder := by
  induction t using induction with
  | node a ts ih =>
    rcases mem_preorder_iff.1 hs with rfl | ⟨t, ht, hs⟩
    · exact hu
    · exact mem_preorder_iff.2 (Or.inr ⟨t, ht, ih t ht hs⟩)

/-- The labels of a tree, in pre-order. -/
def labels (t : RoseTree α) : List α := t.preorder.map label

/-- The labels of a node are its own and those of its children, in order. -/
@[simp] theorem labels_node (a : α) (ts : List (RoseTree α)) :
    (node a ts).labels = a :: ts.flatMap labels := by
  rw [labels, preorder_node, List.map_cons, List.map_flatMap]
  rfl

end RoseTree

/-!
## Walking a syntax tree

The walk down from a node and the chain of its ancestors are two views of one order.

* `Node.below_eq` is the walk one level at a time, and `Node.induction` the induction that goes
  with it.
* `Descent.walk_eq`: what a walk with a stack still comes to are the subtrees of the nodes that
  wait, in turn, without those that it drops. So `Node.walk_descent` and `Node.toList_descent`: these
  walks are the recursive ones.
* `Node.exists_ancestors_of_mem_below`: between a node and one that a walk finds under it, the
  chain of ancestors holds only nodes that the walk enters.
* `Node.enclosingClass?_of_mem_below`: a walk under a class that enters no other class finds nodes
  whose nearest class is that one.
* `Node.mem_below_class_or`: conversely every node is found under its nearest class, or from the
  top where there is none.
-/

namespace Node

variable {m n c : Node} {skip : NodeKind → Bool}

/-! ### One level -/

/-- The walk below a list meets its trees in order, and leaves out the trees it skips. -/
theorem belowAll_eq_flatMap (skip : NodeKind → Bool) (above ts : List SyntaxTree) :
    belowAll skip above ts =
      ts.flatMap fun t => if skip t.label.kind then [] else ⟨t, above⟩ :: belowIn skip above t := by
  induction ts with
  | nil => rfl
  | cons t ts ih =>
    rw [belowAll, ih, List.flatMap_cons]
    by_cases h : skip t.label.kind <;> simp [h]

/-- The walk under a node, child by child. -/
theorem below_eq (n : Node) (skip : NodeKind → Bool) :
    n.below skip =
      n.children.flatMap fun c => if skip c.kind then [] else c :: c.below skip := by
  obtain ⟨⟨label, ts⟩, above⟩ := n
  rw [below, belowIn, belowAll_eq_flatMap, children, List.flatMap_map]
  rfl

/-- The nodes below a node are its children, each with the nodes below it. -/
theorem descendants_eq (n : Node) :
    n.descendants = n.children.flatMap fun c => c :: c.descendants :=
  below_eq n _

/-- A walk meets the children that it does not skip, and what it meets below these. -/
theorem mem_below_iff :
    m ∈ n.below skip ↔ ∃ c ∈ n.children, skip c.kind = false ∧ (m = c ∨ m ∈ c.below skip) := by
  rw [below_eq, List.mem_flatMap]
  apply exists_congr
  intro c
  cases h : skip c.kind <;> simp

/-- A property of every node follows from its inheritance from the children to the parent. -/
theorem induction {motive : Node → Prop}
    (step : ∀ n : Node, (∀ c ∈ n.children, motive c) → motive n) (n : Node) : motive n := by
  obtain ⟨t, above⟩ := n
  induction t using RoseTree.induction generalizing above with
  | node a ts ih =>
    apply step
    intro c hc
    obtain ⟨t, ht, rfl⟩ := List.mem_map.1 hc
    exact ih t ht _

/-- The nodes around a child are its parent and those around the parent. -/
theorem ancestors_of_mem_children (h : c ∈ n.children) : c.ancestors = n :: n.ancestors := by
  obtain ⟨t, -, rfl⟩ := List.mem_map.1 h
  rfl

/-- A child of a node has that node for a parent. -/
theorem parent?_of_mem_children (h : c ∈ n.children) : c.parent? = some n := by
  rw [parent?, ancestors_of_mem_children h, List.head?_cons]

/-- The children of a node are below it. -/
theorem mem_descendants_of_mem_children (h : c ∈ n.children) : c ∈ n.descendants :=
  mem_below_iff.2 ⟨c, h, rfl, Or.inl rfl⟩

/-- A structural child is a child. -/
theorem mem_children_of_mem_elements (h : c ∈ n.elements) : c ∈ n.children :=
  List.mem_of_mem_filter h

/-- The first structural child is a child. -/
theorem mem_children_of_elements_eq {rest : List Node} (h : n.elements = c :: rest) :
    c ∈ n.children := by
  apply mem_children_of_mem_elements
  rw [h]
  exact List.mem_cons_self

/-! ### One step up -/

/-- The nodes around a node with a parent are that parent and those around it. -/
theorem ancestors_of_parent? (h : m.parent? = some n) : m.ancestors = n :: n.ancestors := by
  obtain ⟨t, above⟩ := m
  cases above with
  | nil => cases h
  | cons u above =>
    obtain rfl := Option.some.inj h
    rfl

/-- A node and its parent sit in the same class, if the parent is none. -/
theorem enclosingClass?_of_parent? (h : m.parent? = some n)
    (hn : n.kind.isClassOrObject = false) : m.enclosingClass? = n.enclosingClass? := by
  rw [enclosingClass?, ancestors_of_parent? h,
    List.find?_cons_of_neg (by rw [hn]; exact Bool.false_ne_true)]
  rfl

/-- The parent of a descendant lies between it and the node above. -/
theorem exists_parent?_of_mem_descendants (h : m ∈ n.descendants) :
    ∃ p, m.parent? = some p ∧ m ∈ p.children ∧ (p = n ∨ p ∈ n.descendants) := by
  induction n using Node.induction with
  | step n ih =>
    obtain ⟨c, hc, -, hm⟩ := mem_below_iff.1 h
    rcases hm with rfl | hm
    · exact ⟨n, parent?_of_mem_children hc, hc, Or.inl rfl⟩
    · obtain ⟨p, hparent, hchild, hp⟩ := ih c hc hm
      exact ⟨p, hparent, hchild, Or.inr (mem_below_iff.2 ⟨c, hc, rfl, hp⟩)⟩

/-! ### Walks inside walks -/

/-- A walk that skips more finds fewer nodes, in the same order. -/
theorem below_sublist_descendants (n : Node) (skip : NodeKind → Bool) :
    (n.below skip).Sublist n.descendants := by
  induction n using Node.induction with
  | step n ih =>
    rw [descendants_eq, below_eq]
    have hstep : ∀ cs ⊆ n.children,
        (cs.flatMap fun c => if skip c.kind then [] else c :: c.below skip).Sublist
          (cs.flatMap fun c => c :: c.descendants) := by
      intro cs hcs
      induction cs with
      | nil => exact List.Sublist.refl _
      | cons c cs ihcs =>
        rw [List.cons_subset] at hcs
        rw [List.flatMap_cons, List.flatMap_cons]
        refine List.Sublist.append ?_ (ihcs hcs.2)
        cases hk : skip c.kind with
        | true => exact List.nil_sublist _
        | false => exact (ih c hcs.1).cons_cons c
    apply hstep
    exact List.Subset.refl _

/-- Whatever a walk leaves out, it meets only nodes below. -/
theorem mem_descendants_of_mem_below (h : m ∈ n.below skip) : m ∈ n.descendants :=
  (below_sublist_descendants n skip).subset h

/-- A descendant and its own descendants stand together in the pre-order of the outer node. -/
theorem cons_descendants_sublist (h : m ∈ n.descendants) :
    (m :: m.descendants).Sublist n.descendants := by
  induction n using Node.induction with
  | step n ih =>
    obtain ⟨c, hc, -, hm⟩ := mem_below_iff.1 h
    have hchild : (c :: c.descendants).Sublist n.descendants := by
      rw [descendants_eq n, List.flatMap_def]
      exact List.sublist_flatten_of_mem (List.mem_map.2 ⟨c, hc, rfl⟩)
    rcases hm with rfl | hm
    · exact hchild
    · exact ((ih c hc hm).trans (List.sublist_cons_self c _)).trans hchild

/-- The nodes below a node below another are below that one, in the same order. -/
theorem descendants_sublist (h : m ∈ n.descendants) : m.descendants.Sublist n.descendants :=
  (List.sublist_cons_self m _).trans (cons_descendants_sublist h)

/-! ### The chain of ancestors -/

/-- The ancestors of a node under `n` are those up to `n`, which the walk enters, then `n` and its
own. -/
theorem exists_ancestors_of_mem_below (h : m ∈ n.below skip) :
    skip m.kind = false ∧
      ∃ path, m.ancestors = path ++ n :: n.ancestors ∧ ∀ a ∈ path, skip a.kind = false := by
  induction n using Node.induction with
  | step n ih =>
    obtain ⟨c, hc, hskip, hm⟩ := mem_below_iff.1 h
    have hup := ancestors_of_mem_children hc
    rcases hm with rfl | hm
    · exact ⟨hskip, [], hup, by simp⟩
    · obtain ⟨hmskip, path, hpath, hfree⟩ := ih c hc hm
      refine ⟨hmskip, path ++ [c], by rw [hpath, hup, List.append_assoc, List.singleton_append], ?_⟩
      intro a ha
      rcases List.mem_append.1 ha with ha | ha
      · exact hfree a ha
      · rw [List.mem_singleton.1 ha]
        exact hskip

/-! ### The nearest class -/

/-- Under a class, a walk that enters no other class finds nodes whose nearest class it is. -/
theorem enclosingClass?_of_mem_below (hn : n.kind.isClassOrObject = true)
    (h : m ∈ n.below NodeKind.isClassOrObject) : m.enclosingClass? = some n := by
  obtain ⟨-, path, hpath, hfree⟩ := exists_ancestors_of_mem_below h
  have hnone : path.find? (·.kind.isClassOrObject) = none := by
    apply List.find?_eq_none.2
    intro a ha
    rw [hfree a ha]
    exact Bool.false_ne_true
  rw [enclosingClass?, hpath, List.find?_append, hnone, Option.none_or]
  exact List.find?_cons_of_pos hn

/-- Every node that is no class is found from its nearest class, or from the top if no class is in
between. -/
theorem mem_below_class_or (h : m ∈ n.descendants) (hm : m.kind.isClassOrObject = false) :
    m ∈ n.below NodeKind.isClassOrObject ∨
      ∃ k ∈ n.descendants, k.kind.isClassOrObject = true ∧
        m ∈ k.below NodeKind.isClassOrObject := by
  induction n using Node.induction with
  | step n ih =>
    obtain ⟨c, hc, -, hcm⟩ := mem_below_iff.1 h
    rcases hcm with rfl | hcm
    · exact Or.inl (mem_below_iff.2 ⟨m, hc, hm, Or.inl rfl⟩)
    · rcases ih c hc hcm with hbelow | ⟨k, hk, hclass, hbelow⟩
      · cases hkind : c.kind.isClassOrObject with
        | true => exact Or.inr ⟨c, mem_descendants_of_mem_children hc, hkind, hbelow⟩
        | false => exact Or.inl (mem_below_iff.2 ⟨c, hc, hkind, Or.inr hbelow⟩)
      · exact Or.inr ⟨k, mem_below_iff.2 ⟨c, hc, rfl, Or.inr hk⟩, hclass, hbelow⟩

/-- Where no class is between a node and the root, the node sits in no class. -/
theorem enclosingClass?_eq_none_of_mem_below {t : SyntaxTree}
    (ht : t.label.kind.isClassOrObject = false)
    (h : m ∈ (ofTree t).below NodeKind.isClassOrObject) : m.enclosingClass? = none := by
  obtain ⟨-, path, hpath, hfree⟩ := exists_ancestors_of_mem_below h
  rw [enclosingClass?, hpath, List.find?_eq_none]
  intro a ha
  rcases List.mem_append.1 ha with ha | ha
  · rw [hfree a ha]
    exact Bool.false_ne_true
  · rw [List.mem_singleton.1 ha]
    exact ne_true_of_eq_false ht

end Node

/-! ### The walk with a stack -/

/-- A walk comes to the nodes that wait and are not skipped, each with what is below it. By
induction along the walk: a step trades a node for its children, or drops it. -/
theorem Descent.walk_eq (skip : NodeKind → Bool) (d : Descent) :
    d.walk skip = d.pending.flatMap fun n => if skip n.kind then [] else n :: n.below skip := by
  fun_induction Descent.walk skip d with
  | case1 d h => rw [pending_of_next?_eq_none h, List.flatMap_nil]
  | case2 d n d' h hskip ih =>
    obtain ⟨rest, hpending, -⟩ := pending_of_next? h
    rw [ih, pending_skipNext, hpending, List.tail_cons, List.flatMap_cons, if_pos hskip,
      List.nil_append]
  | case3 d n d' h hskip ih =>
    obtain ⟨rest, hpending, hpending'⟩ := pending_of_next? h
    rw [ih, hpending, hpending', List.flatMap_append, List.flatMap_cons, if_neg hskip,
      Node.below_eq n, List.cons_append]

/-- The walk that drops nothing. -/
theorem Descent.toList_eq_walk (d : Descent) : d.toList = d.walk fun _ => false := by
  fun_induction Descent.toList d with
  | case1 d h => rw [walk, h]
  | case2 d n d' h ih =>
    rw [walk, h, ih]
    rfl

/-- A walk comes to the nodes that wait, each with what is below it. -/
theorem Descent.toList_eq (d : Descent) :
    d.toList = d.pending.flatMap fun n => n :: n.descendants := by
  rw [toList_eq_walk, walk_eq]
  rfl

/-- A walk begins with the children of its node. -/
theorem Node.pending_descent (n : Node) : n.descent.pending = n.children := by
  simp [descent, Descent.pending]

/-- The walk with a stack that drops the nodes of some kinds is the recursive one. -/
theorem Node.walk_descent (n : Node) (skip : NodeKind → Bool) :
    n.descent.walk skip = n.below skip := by
  rw [Descent.walk_eq, pending_descent, below_eq n]

/-- The walk with a stack is the recursive one. -/
theorem Node.toList_descent (n : Node) : n.descent.toList = n.descendants := by
  rw [Descent.toList_eq, pending_descent, descendants_eq]

/-! ### The nodes of a tree -/

namespace SyntaxTree

variable {t : SyntaxTree} {m n : Node}

/-- The parent of a node of a tree is a node of the tree, and has the node for a child. -/
theorem mem_nodes_of_parent? (h : m.parent? = some n) (hm : m ∈ nodes t) :
    n ∈ nodes t ∧ m ∈ n.children := by
  rcases List.mem_cons.1 hm with rfl | hm
  · cases h
  · obtain ⟨p, hparent, hchild, hp⟩ := Node.exists_parent?_of_mem_descendants hm
    obtain rfl : p = n := Option.some.inj (hparent.symm.trans h)
    exact ⟨List.mem_cons.2 hp, hchild⟩

/-- A node and its descendants stand together in the pre-order of the tree. -/
theorem cons_descendants_sublist_nodes (hn : n ∈ nodes t) :
    (n :: n.descendants).Sublist (nodes t) := by
  rcases List.mem_cons.1 hn with rfl | hn
  · exact List.Sublist.refl _
  · exact (Node.cons_descendants_sublist hn).trans (List.sublist_cons_self _ _)

/-- The nodes below a node of a tree are nodes of the tree, in the same order. -/
theorem descendants_sublist_nodes (hn : n ∈ nodes t) : n.descendants.Sublist (nodes t) :=
  (List.sublist_cons_self n _).trans (cons_descendants_sublist_nodes hn)

/-- A node below a node of a tree is a node of the tree. -/
theorem mem_nodes_of_mem_descendants (hm : m ∈ n.descendants) (hn : n ∈ nodes t) :
    m ∈ nodes t :=
  (descendants_sublist_nodes hn).subset hm

end SyntaxTree

end KotestOutline
