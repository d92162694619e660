import KotestOutline.Proofs.Syntax.Walk
import KotestOutline.Proofs.Table
import KotestOutline.Syntax
import Mathlib.Data.List.Flatten
import Mathlib.Data.List.Perm.Basic

/-!
# The order of a tree

Numbers that differ, the nodes above a node, and which of two nodes comes first.
-/

namespace KotestOutline

/-!
## Distinct node numbers

A node is found again by its number, so the numbers of one tree must differ. They do in the tree of
an arena.

* `SyntaxTree.HasDistinctIds`, and `SyntaxTree.node?_eq_some_iff`: then a number names its node.
* `Arena.hasDistinctIds_toTree`: the tree of an arena, whatever parents its rows name.
-/

/-! ### Rows -/

namespace RoseTree

variable {α : Type}

/-- Waiting trees hold every row once. -/
theorem labels_waiting_perm (next : Nat) (rows : List (Nat × α)) :
    ((waiting next rows).flatMap (·.2.labels)).Perm (rows.map (·.2)) := by
  induction rows generalizing next with
  | nil => exact List.Perm.refl _
  | cons row rows ih =>
    obtain ⟨parent, a⟩ := row
    have hsplit := (List.filter_append_perm (·.1 == next) (waiting (next + 1) rows)).flatMap_right
      (·.2.labels)
    simp only [waiting, List.flatMap_cons, labels_node, List.flatMap_map, List.map_cons,
      List.cons_append]
    refine List.Perm.cons a (List.Perm.trans ?_ (hsplit.trans (ih (next + 1))))
    rw [List.flatMap_append]
    rfl

/-- The tree of some rows holds each of them at most once. -/
theorem labels_ofRows_subperm (root : α) (rows : List (Nat × α)) :
    (ofRows root rows).labels.Subperm (root :: rows.map (·.2)) := by
  rw [ofRows, labels_node, List.flatMap_map, List.subperm_cons]
  refine List.Subperm.trans (List.Sublist.subperm ?_) (labels_waiting_perm 1 rows).subperm
  exact List.Sublist.flatMap List.filter_sublist _

end RoseTree

/-! ### Trees whose numbers differ -/

namespace SyntaxTree

variable {t : SyntaxTree} {m n : Node}

/-- The trees of the nodes are the subtrees, in pre-order. -/
theorem map_tree_nodes (t : SyntaxTree) : (nodes t).map Node.tree = t.preorder := by
  have hwalk : ∀ n : Node, n.tree :: n.descendants.map Node.tree = n.tree.preorder := by
    intro n
    induction n using Node.induction with
    | step n ih =>
      obtain ⟨⟨label, ts⟩, above⟩ := n
      rw [Node.descendants_eq, List.map_flatMap, RoseTree.preorder_node]
      apply congrArg
      rw [Node.children, List.flatMap_map]
      apply List.flatMap_congr
      intro t ht
      exact ih _ (List.mem_map_of_mem ht)
  exact hwalk (Node.ofTree t)

/-- The tree at a node of a tree is one of its subtrees. -/
theorem mem_preorder_of_mem_nodes (hn : n ∈ nodes t) : n.tree ∈ t.preorder := by
  rw [← map_tree_nodes]
  exact List.mem_map_of_mem hn

/-- No two nodes have one number. -/
def HasDistinctIds (t : SyntaxTree) : Prop := ((nodes t).map Node.id).Nodup

/-- The numbers of the nodes are those of the labels, in pre-order. -/
theorem map_id_nodes (t : SyntaxTree) : (nodes t).map Node.id = t.labels.map Label.id := by
  rw [RoseTree.labels, ← map_tree_nodes, List.map_map, List.map_map]
  rfl

/-- Where no two nodes have one number, a number names one node. -/
theorem HasDistinctIds.eq_of_id_eq (h : HasDistinctIds t) (hm : m ∈ nodes t) (hn : n ∈ nodes t)
    (hid : m.id = n.id) : m = n :=
  List.inj_on_of_nodup_map h hm hn hid

/-- A number finds the node that has it. -/
theorem HasDistinctIds.node?_eq_some_iff (h : HasDistinctIds t) {id : Nat} :
    t.node? id = some n ↔ n ∈ nodes t ∧ n.id = id :=
  find?_key_eq_some_iff fun _ hm _ hn hid => h.eq_of_id_eq hm hn hid

end SyntaxTree

/-! ### Arenas -/

/-- The tree of an arena numbers each of its nodes differently. -/
theorem Arena.hasDistinctIds_toTree (a : Arena) : a.toTree.HasDistinctIds := by
  let rows : List (Nat × Label) :=
    (a.added.toList.zipIdx 1).map fun row => (row.1.1, ⟨row.1.2, row.2⟩)
  have hids : (rows.map (·.2)).map Label.id = List.range' 1 a.added.toList.length := by
    rw [List.map_map, List.map_map, ← List.zipIdx_map_snd 1]
    rfl
  obtain ⟨held, hperm, hsub⟩ := RoseTree.labels_ofRows_subperm (⟨a.root, 0⟩ : Label) rows
  rw [SyntaxTree.HasDistinctIds, SyntaxTree.map_id_nodes]
  refine (hperm.map Label.id).nodup_iff.1 (List.Nodup.sublist (hsub.map Label.id) ?_)
  rw [List.map_cons, hids]
  show (List.range' 0 (a.added.toList.length + 1)).Nodup
  exact List.nodup_range'

/-!
## What is above a node

* `SyntaxTree.isAbove` tells from two numbers whether the one names a strict ancestor of the other.
* `Node.mem_descendants_of_mem_ancestors`: a node is below each of its ancestors.
* `Node.exists_path_of_mem_below`: the nodes between a node and one that a walk finds under it stand
  in the walk in that order.
* `SyntaxTree.HasDistinctIds.exists_filter_isAbove_below`: they are the only nodes of the walk above
  the one found.
-/

/-- Whether the node with the number `a` is a strict ancestor of the one with the number `b`. -/
def SyntaxTree.isAbove (t : SyntaxTree) (a b : Nat) : Bool :=
  (t.node? b).any fun n => n.ancestors.any (·.id == a)

/-- What a duplicate-free list has in common with a part of itself is that part, in order. -/
theorem filter_eq_of_sublist {α : Type} {p : α → Bool} {part l : List α} (hsub : part.Sublist l)
    (hl : l.Nodup) (hp : ∀ x ∈ l, p x = true ↔ x ∈ part) : l.filter p = part := by
  have hkept : part.filter p = part :=
    List.filter_eq_self.2 fun x hx => (hp x (hsub.subset hx)).2 hx
  have hle : part.Sublist (l.filter p) := hkept ▸ hsub.filter p
  have hmem : l.filter p ⊆ part := by
    intro x hx
    obtain ⟨hxl, hxp⟩ := List.mem_filter.1 hx
    exact (hp x hxl).1 hxp
  exact (hle.eq_of_length_le (List.subperm_of_subset (hl.filter p) hmem).length_le).symm

namespace Node

variable {a m n : Node} {skip : NodeKind → Bool}

/-! ### Chains -/

/-- The chain of a node, cut at one of its ancestors, goes on with the chain of that ancestor. -/
theorem ancestors_of_append {path rest : List Node} (h : n.ancestors = path ++ a :: rest) :
    a.ancestors = rest := by
  obtain ⟨t, above⟩ := n
  induction above generalizing t path with
  | nil => simp [ancestors, chain] at h
  | cons u above ih =>
    rw [ancestors, chain] at h
    cases path with
    | nil =>
      obtain ⟨rfl, rfl⟩ := List.cons.inj h
      rfl
    | cons b path => exact ih u (List.cons.inj h).2

/-- The nodes around an ancestor end the list of the nodes around a node. -/
theorem exists_append_of_mem_ancestors (h : a ∈ n.ancestors) :
    ∃ path, n.ancestors = path ++ a :: a.ancestors := by
  obtain ⟨path, rest, hsplit⟩ := List.append_of_mem h
  exact ⟨path, by rw [hsplit, ancestors_of_append hsplit]⟩

/-- What a walk finds is neither its start nor above it. -/
theorem not_mem_of_mem_below (h : m ∈ n.below skip) : m ∉ n :: n.ancestors := by
  obtain ⟨-, path, hpath, -⟩ := exists_ancestors_of_mem_below h
  have hlonger : n.ancestors.length < m.ancestors.length := by
    rw [hpath, List.length_append, List.length_cons]
    omega
  intro hm
  rcases List.mem_cons.1 hm with rfl | hm
  · omega
  · obtain ⟨path', hpath'⟩ := exists_append_of_mem_ancestors hm
    rw [hpath', List.length_append, List.length_cons] at hlonger
    omega

/-! ### Between a node and one under it -/

/-- The walk meets the nodes between its start and one that it finds on the way down to it. -/
theorem exists_path_of_mem_below (h : m ∈ n.below skip) :
    ∃ path, m.ancestors = path ++ n :: n.ancestors ∧
      (path.reverse ++ [m]).Sublist (n.below skip) := by
  induction n using Node.induction with
  | step n ih =>
    obtain ⟨c, hc, hskip, hm⟩ := mem_below_iff.1 h
    have hup := ancestors_of_mem_children hc
    have hchild : (c :: c.below skip).Sublist (n.below skip) := by
      rw [below_eq n, List.flatMap_def]
      apply List.sublist_flatten_of_mem
      exact List.mem_map.2 ⟨c, hc, by rw [hskip, if_neg Bool.false_ne_true]⟩
    rcases hm with rfl | hm
    · refine ⟨[], hup, List.Sublist.trans ?_ hchild⟩
      exact (List.nil_sublist _).cons_cons m
    · obtain ⟨path, hpath, hsub⟩ := ih c hc hm
      refine ⟨path ++ [c], by rw [hpath, hup, List.append_assoc, List.singleton_append], ?_⟩
      rw [List.reverse_append, List.reverse_singleton, List.singleton_append, List.cons_append]
      exact (hsub.cons_cons c).trans hchild

/-- The nodes around a node of a tree are nodes of the tree. -/
theorem mem_nodes_of_mem_ancestors {t : SyntaxTree} (hn : n ∈ SyntaxTree.nodes t)
    (ha : a ∈ n.ancestors) : a ∈ SyntaxTree.nodes t := by
  rcases List.mem_cons.1 hn with rfl | hn
  · cases ha
  · obtain ⟨path, hpath, hsub⟩ := exists_path_of_mem_below hn
    rw [hpath] at ha
    rcases List.mem_append.1 ha with ha | ha
    · apply List.mem_cons_of_mem
      exact hsub.subset (List.mem_append_left _ (List.mem_reverse.2 ha))
    · rw [List.mem_singleton.1 ha]
      exact List.mem_cons_self

/-- A node under `n` is under each node of its chain but those above `n`. -/
theorem mem_ancestors_or_mem_descendants (hm : m ∈ n.descendants) (ha : a ∈ m.ancestors) :
    a ∈ n.ancestors ∨ m ∈ a.descendants := by
  induction n using Node.induction with
  | step n ih =>
    obtain ⟨c, hc, -, hcm⟩ := mem_below_iff.1 hm
    have hup := ancestors_of_mem_children hc
    have hchain : a ∈ c.ancestors ∨ m ∈ a.descendants := by
      rcases hcm with rfl | hcm
      · exact Or.inl ha
      · exact ih c hc hcm
    rcases hchain with hchain | hbelow
    · rw [hup] at hchain
      rcases List.mem_cons.1 hchain with rfl | hchain
      · exact Or.inr hm
      · exact Or.inl hchain
    · exact Or.inr hbelow

/-- A node is below each of the nodes around it. -/
theorem mem_descendants_of_mem_ancestors {t : SyntaxTree} (hn : n ∈ SyntaxTree.nodes t)
    (ha : a ∈ n.ancestors) : n ∈ a.descendants := by
  rcases List.mem_cons.1 hn with rfl | hn
  · cases ha
  · rcases mem_ancestors_or_mem_descendants hn ha with hroot | hbelow
    · cases hroot
    · exact hbelow

/-- The subtree of a node is among those of every node above it. -/
theorem tree_mem_preorder (h : m ∈ n.descendants) : m.tree ∈ n.tree.preorder := by
  induction n using Node.induction with
  | step n ih =>
    obtain ⟨c, hc, -, hm⟩ := mem_below_iff.1 h
    obtain ⟨t, ht, rfl⟩ := List.mem_map.1 hc
    refine RoseTree.mem_preorder_iff.2 (Or.inr ⟨t, ht, ?_⟩)
    rcases hm with rfl | hm
    · exact RoseTree.self_mem_preorder t
    · exact ih _ hc hm

end Node

namespace SyntaxTree

variable {t : SyntaxTree} {a m n : Node} {skip : NodeKind → Bool}

/-- Where no two nodes have one number, numbers tell which nodes are around another. -/
theorem HasDistinctIds.isAbove_iff (hids : t.HasDistinctIds) (ha : a ∈ nodes t) (hn : n ∈ nodes t) :
    t.isAbove a.id n.id = true ↔ a ∈ n.ancestors := by
  rw [isAbove, hids.node?_eq_some_iff.2 ⟨hn, rfl⟩, Option.any_some, List.any_eq_true]
  constructor
  · rintro ⟨b, hb, hid⟩
    have hmem := Node.mem_nodes_of_mem_ancestors hn hb
    rwa [← hids.eq_of_id_eq hmem ha (beq_iff_eq.1 hid)]
  · intro h
    exact ⟨a, h, beq_self_eq_true a.id⟩

/-- Of the nodes of a walk, those above a node that it finds are the ones between its start and
that node. -/
theorem HasDistinctIds.exists_filter_isAbove_below (hids : t.HasDistinctIds) (hn : n ∈ nodes t)
    (hm : m ∈ n.below skip) :
    ∃ path, m.ancestors = path ++ n :: n.ancestors ∧
      (n.below skip).filter (t.isAbove ·.id m.id) = path.reverse := by
  obtain ⟨path, hpath, hsub⟩ := Node.exists_path_of_mem_below hm
  have hbelow : ∀ x ∈ n.below skip, x ∈ nodes t := fun x hx =>
    mem_nodes_of_mem_descendants (Node.mem_descendants_of_mem_below hx) hn
  have hnodup : (n.below skip).Nodup :=
    (List.Nodup.of_map _ hids).sublist <|
      (Node.below_sublist_descendants n skip).trans (descendants_sublist_nodes hn)
  refine ⟨path, hpath, filter_eq_of_sublist ((List.sublist_append_left _ _).trans hsub) hnodup ?_⟩
  intro x hx
  rw [hids.isAbove_iff (hbelow x hx) (hbelow m hm), hpath, List.mem_append, List.mem_reverse]
  -- the walk stays strictly under its start
  simp only [Node.not_mem_of_mem_below hx, or_false]

end SyntaxTree

/-!
## Tree order

Of two nodes of a tree one comes before the other: because it is above it, or because at the node
where their chains part it is on the side of an earlier child. This order is read off the chains of
ancestors and the lists of children, whatever the numbers of the nodes are.

* `Node.Precedes` is the order, and `Node.precedes_trichotomy` says that it orders any two nodes.
* `Node.pair_sublist_nodes`: the pre-order walk lists the nodes in it.
* `SyntaxTree.IsNumberedInOrder.id_lt_iff`: where the nodes are numbered as the walk meets them,
  the smaller number comes first.
-/

/-- Two members of a list stand in it in one order or in the other. -/
theorem pair_sublist_or {α : Type} {l : List α} {a b : α} (ha : a ∈ l) (hb : b ∈ l) (hne : a ≠ b) :
    [a, b].Sublist l ∨ [b, a].Sublist l := by
  obtain ⟨left, right, rfl⟩ := List.append_of_mem ha
  rcases List.mem_append.1 hb with hleft | hright
  · refine Or.inr (List.Sublist.append (List.singleton_sublist.2 hleft) ?_)
    exact List.singleton_sublist.2 List.mem_cons_self
  · refine Or.inl (List.sublist_append_of_sublist_right ?_)
    rcases List.mem_cons.1 hright with rfl | hright
    · exact absurd rfl hne
    · exact (List.singleton_sublist.2 hright).cons_cons a

namespace Node

variable {m n r : Node} {t : SyntaxTree}

/-- Whether `m` comes before `n` in its tree: it is above `n`, or somewhere in the tree it sits at
or below one child and `n` at or below a later one. -/
def Precedes (m n : Node) : Prop :=
  m ∈ n.ancestors ∨
    ∃ p a b : Node, [a, b].Sublist p.children ∧ a ∈ m :: m.ancestors ∧ b ∈ n :: n.ancestors

/-- A node is around each of the nodes below it. -/
theorem mem_ancestors_of_mem_descendants (h : n ∈ m.descendants) : m ∈ n.ancestors := by
  obtain ⟨-, path, hpath, -⟩ := exists_ancestors_of_mem_below h
  rw [hpath]
  exact List.mem_append_right path List.mem_cons_self

/-- Any two nodes are ordered. By induction on a node that both are at or below: they part at it, or
they are at or below the same child. -/
theorem precedes_trichotomy (hm : m ∈ r :: r.descendants) (hn : n ∈ r :: r.descendants) :
    m = n ∨ m.Precedes n ∨ n.Precedes m := by
  induction r using Node.induction with
  | step r ih =>
    rcases List.mem_cons.1 hm with rfl | hm
    · rcases List.mem_cons.1 hn with rfl | hn
      · exact Or.inl rfl
      · exact Or.inr (Or.inl (Or.inl (mem_ancestors_of_mem_descendants hn)))
    · rcases List.mem_cons.1 hn with rfl | hn
      · exact Or.inr (Or.inr (Or.inl (mem_ancestors_of_mem_descendants hm)))
      · have hchain : ∀ {c k : Node}, k = c ∨ k ∈ c.descendants → c ∈ k :: k.ancestors := by
          rintro c k (rfl | hk)
          · exact List.mem_cons_self
          · exact List.mem_cons_of_mem k (mem_ancestors_of_mem_descendants hk)
        obtain ⟨a, ha, -, hma⟩ := mem_below_iff.1 hm
        obtain ⟨b, hb, -, hnb⟩ := mem_below_iff.1 hn
        by_cases hab : a = b
        · subst hab
          exact ih a ha (List.mem_cons.2 hma) (List.mem_cons.2 hnb)
        · rcases pair_sublist_or ha hb hab with hpair | hpair
          · exact Or.inr (Or.inl (Or.inr ⟨r, a, b, hpair, hchain hma, hchain hnb⟩))
          · exact Or.inr (Or.inr (Or.inr ⟨r, b, a, hpair, hchain hnb, hchain hma⟩))

/-- A node is at or below every node of its chain. -/
theorem mem_cons_descendants_of_mem_ancestors (hn : n ∈ SyntaxTree.nodes t)
    (hm : m ∈ n :: n.ancestors) : n ∈ m :: m.descendants := by
  rcases List.mem_cons.1 hm with rfl | hm
  · exact List.mem_cons_self
  · exact List.mem_cons_of_mem m (mem_descendants_of_mem_ancestors hn hm)

/-- The walk through a tree lists a node before those that it precedes. -/
theorem pair_sublist_nodes (hm : m ∈ SyntaxTree.nodes t) (hn : n ∈ SyntaxTree.nodes t)
    (h : m.Precedes n) : [m, n].Sublist (SyntaxTree.nodes t) := by
  rcases h with habove | ⟨p, a, b, hpair, ham, hbn⟩
  · have hbelow : [m, n].Sublist (m :: m.descendants) :=
      (List.singleton_sublist.2 (mem_descendants_of_mem_ancestors hn habove)).cons_cons m
    exact hbelow.trans (SyntaxTree.cons_descendants_sublist_nodes hm)
  · have ha : a ∈ p.children := hpair.subset List.mem_cons_self
    have hp : p ∈ SyntaxTree.nodes t := by
      have ha' : a ∈ SyntaxTree.nodes t := by
        rcases List.mem_cons.1 ham with rfl | ham
        · exact hm
        · exact mem_nodes_of_mem_ancestors hm ham
      apply mem_nodes_of_mem_ancestors ha'
      rw [ancestors_of_mem_children ha]
      exact List.mem_cons_self
    -- the walk below `p` comes to what is at or below `a`, and later to what is at or below `b`
    have hwalk : ((a :: a.descendants) ++ (b :: b.descendants)).Sublist p.descendants := by
      rw [descendants_eq p]
      simpa using hpair.flatMap fun c => c :: c.descendants
    have hbelow : [m, n].Sublist ((a :: a.descendants) ++ (b :: b.descendants)) :=
      List.Sublist.append
        (List.singleton_sublist.2 (mem_cons_descendants_of_mem_ancestors hm ham))
        (List.singleton_sublist.2 (mem_cons_descendants_of_mem_ancestors hn hbn))
    exact (hbelow.trans hwalk).trans (SyntaxTree.descendants_sublist_nodes hp)

end Node

namespace SyntaxTree

variable {t : SyntaxTree} {m n : Node}

/-- Whether the nodes are numbered from 0 on in the order in which the walk meets them. -/
def IsNumberedInOrder (t : SyntaxTree) : Prop :=
  (nodes t).map Node.id = List.range (nodes t).length

namespace IsNumberedInOrder

/-- In a tree numbered in order the walk meets ascending numbers. -/
theorem pairwise_id_lt (h : t.IsNumberedInOrder) : ((nodes t).map Node.id).Pairwise (· < ·) := by
  rw [h]
  exact List.pairwise_lt_range

/-- In a tree numbered in order the nodes below the root have the numbers from one on. -/
theorem map_id_descendants (h : t.IsNumberedInOrder) :
    (Node.ofTree t).descendants.map Node.id = List.range' 1 ((nodes t).length - 1) := by
  have hall : (nodes t).map Node.id = List.range' 0 ((nodes t).length - 1 + 1) := by
    rw [h, List.range_eq_range']
    rfl
  exact (List.cons.inj hall).2

/-- Numbers tell which of two nodes comes first. -/
theorem id_lt_iff (h : t.IsNumberedInOrder) (hm : m ∈ nodes t) (hn : n ∈ nodes t) :
    m.id < n.id ↔ m.Precedes n := by
  have hless : ∀ {m n : Node}, m ∈ nodes t → n ∈ nodes t → m.Precedes n → m.id < n.id := by
    intro m n hm hn hpre
    have hpair := h.pairwise_id_lt.sublist ((Node.pair_sublist_nodes hm hn hpre).map Node.id)
    exact List.rel_of_pairwise_cons hpair List.mem_cons_self
  constructor
  · intro hlt
    rcases Node.precedes_trichotomy hm hn with rfl | hpre | hpre
    · exact absurd hlt (Nat.lt_irrefl _)
    · exact hpre
    · exact absurd hlt (Nat.lt_asymm (hless hn hm hpre))
  · exact hless hm hn

end IsNumberedInOrder

end SyntaxTree

end KotestOutline
