import KotestOutline.Proofs.Syntax.Alike
import KotestOutline.Proofs.Syntax.Order
import Mathlib.Data.List.Forall2
import Mathlib.Data.List.Induction
import Mathlib.Data.Set.Function

/-!
# The tree of an arena

The tree that an arena builds, up to the numbers of its nodes.
-/

namespace KotestOutline

/-!
## Trees under other numbers

A tree in which every node gets another number. Nothing but the numbers changes: every way through
the tree leads to the same nodes.

* `SyntaxTree.renumber`, and `Node.renumber` for what becomes of a node.
* `Node.ancestors_renumber`, `Node.children_renumber`, `Node.below_renumber`: the ways through the
  tree, and the look-ups built on them.
* `SyntaxTree.KeepsApart`: numbers that differ still differ.
-/

section

variable {f : Nat → Nat}

/-! ### Trees -/

/-- The label under another number. -/
def Label.renumber (f : Nat → Nat) (label : Label) : Label := { label with id := f label.id }

namespace SyntaxTree

/-- The tree with other numbers. -/
def renumber (f : Nat → Nat) (t : SyntaxTree) : SyntaxTree := t.map (Label.renumber f)

/-- A tree under other numbers has the label of its root under another one. -/
theorem label_renumber (t : SyntaxTree) : (t.renumber f).label = t.label.renumber f :=
  RoseTree.label_map _ t

/-- The children of a tree under other numbers are the children under other numbers. -/
theorem children_renumber (t : SyntaxTree) :
    (t.renumber f).children = t.children.map (renumber f) :=
  RoseTree.children_map _ t

/-- A tree is like itself under other numbers. -/
theorem alike_renumber (f : Nat → Nat) (t : SyntaxTree) : (t.renumber f).Alike t := by
  rw [Alike, renumber, RoseTree.map_map]
  rfl

end SyntaxTree

/-! ### Nodes -/

namespace Node

/-- What becomes of a node of a tree that gets other numbers. -/
def renumber (f : Nat → Nat) (n : Node) : Node :=
  ⟨n.tree.renumber f, n.above.map (SyntaxTree.renumber f)⟩

/-- The root of a tree under other numbers is the root under another one. -/
theorem ofTree_renumber (f : Nat → Nat) (t : SyntaxTree) :
    ofTree (t.renumber f) = (ofTree t).renumber f := rfl

/-- A node gets its new number. -/
@[simp] theorem id_renumber (n : Node) : (n.renumber f).id = f n.id := by
  rw [Node.id, renumber, SyntaxTree.label_renumber]
  rfl

/-- Other numbers leave the kind of a node. -/
@[simp] theorem kind_renumber (n : Node) : (n.renumber f).kind = n.kind := by
  rw [kind, renumber, SyntaxTree.label_renumber]
  rfl

/-- Other numbers leave the span of a node. -/
@[simp] theorem span_renumber (n : Node) : (n.renumber f).span = n.span := by
  rw [Node.span, renumber, SyntaxTree.label_renumber]
  rfl

/-- Other numbers leave a node of a kind or not. -/
@[simp] theorem is_renumber (n : Node) (kind : NodeKind) :
    (n.renumber f).is kind = n.is kind := by
  rw [is, is, kind_renumber]

/-- Other numbers leave the text of a node. -/
@[simp] theorem text_renumber (n : Node) : (n.renumber f).text = n.text :=
  (SyntaxTree.alike_renumber f n.tree).text_eq

/-! ### Upward -/

/-- The nodes around a node are the same under other numbers. -/
@[simp] theorem ancestors_renumber (n : Node) :
    (n.renumber f).ancestors = n.ancestors.map (renumber f) := by
  obtain ⟨t, above⟩ := n
  rw [ancestors, renumber, ancestors]
  induction above with
  | nil => rfl
  | cons u above ih => rw [List.map_cons, chain, chain, List.map_cons, ih]; rfl

/-- The parent of a node is the same under other numbers. -/
@[simp] theorem parent?_renumber (n : Node) :
    (n.renumber f).parent? = n.parent?.map (renumber f) := by
  rw [parent?, ancestors_renumber, List.head?_map]
  rfl

/-- The root above a node is the same under other numbers. -/
@[simp] theorem root_renumber (n : Node) : (n.renumber f).root = n.root.renumber f := by
  rw [root, root, ancestors_renumber, List.getLast?_map]
  cases n.ancestors.getLast? <;> rfl

/-- The class around a node is the same under other numbers. -/
@[simp] theorem enclosingClass?_renumber (n : Node) :
    (n.renumber f).enclosingClass? = n.enclosingClass?.map (renumber f) := by
  simp only [enclosingClass?, ancestors_renumber, List.find?_map, Function.comp_def, kind_renumber]

/-! ### Downward -/

/-- The children of a node are the same under other numbers. -/
@[simp] theorem children_renumber (n : Node) :
    (n.renumber f).children = n.children.map (renumber f) := by
  rw [children, renumber, SyntaxTree.children_renumber, children, List.map_map, List.map_map]
  rfl

/-- The structural children of a node are the same under other numbers. -/
@[simp] theorem elements_renumber (n : Node) :
    (n.renumber f).elements = n.elements.map (renumber f) := by
  simp [elements, List.filter_map, Function.comp_def]

/-- The first structural child of a node is the same under other numbers. -/
@[simp] theorem firstElement?_renumber (n : Node) :
    (n.renumber f).firstElement? = n.firstElement?.map (renumber f) := by
  simp [firstElement?]

/-- The first child of a kind is the same under other numbers. -/
@[simp] theorem firstChild?_renumber (n : Node) (kind : NodeKind) :
    (n.renumber f).firstChild? kind = (n.firstChild? kind).map (renumber f) := by
  simp only [firstChild?, children_renumber, List.find?_map, Function.comp_def, is_renumber]

/-- The children of a kind are the same under other numbers. -/
@[simp] theorem childrenOf_renumber (n : Node) (kind : NodeKind) :
    (n.renumber f).childrenOf kind = (n.childrenOf kind).map (renumber f) := by
  simp [childrenOf, List.filter_map, Function.comp_def]

/-- A walk below a node meets the same nodes under other numbers, whatever it leaves out. -/
@[simp] theorem below_renumber (n : Node) (skip : NodeKind → Bool) :
    (n.renumber f).below skip = (n.below skip).map (renumber f) := by
  induction n using Node.induction with
  | step n ih =>
    rw [below_eq, below_eq, children_renumber, List.flatMap_map, List.map_flatMap]
    apply List.flatMap_congr
    intro c hc
    rw [kind_renumber, ih c hc]
    cases skip c.kind <;> rfl

/-- The nodes below a node are the same under other numbers. -/
@[simp] theorem descendants_renumber (n : Node) :
    (n.renumber f).descendants = n.descendants.map (renumber f) :=
  n.below_renumber _

end Node

/-! ### Numbers -/

namespace SyntaxTree

variable {t : SyntaxTree}

/-- The nodes of a tree are the same under other numbers. -/
theorem nodes_renumber (f : Nat → Nat) (t : SyntaxTree) :
    nodes (t.renumber f) = (nodes t).map (Node.renumber f) := by
  rw [nodes, nodes, Node.ofTree_renumber, Node.descendants_renumber, List.map_cons]

/-- Whether nodes with different numbers get different numbers. -/
def KeepsApart (f : Nat → Nat) (t : SyntaxTree) : Prop :=
  ∀ m ∈ nodes t, ∀ n ∈ nodes t, f m.id = f n.id → m.id = n.id

end SyntaxTree

end

/-!
## The tree of an arena

An arena is a table: for every number the content of a node and the numbers of its children. Its
tree is the only one that agrees with that table and starts at number 0, so the order in which nodes
were added shows in nothing but their numbers.

* `Arena.IsBuilt`: the arenas that the three operations build.
* `Arena.content?` and `Arena.childIds`: the table of an arena.
* `Arena.Describes`: a tree agrees with the table; `Arena.IsBuilt.describes_toTree` and
  `Arena.Describes.eq`.
* `Arena.IsRenaming`: two arenas with the same table up to numbers, and
  `Arena.IsRenaming.toTree_eq`: their trees differ in the numbers only.
-/

/-! ### Rows -/

namespace RoseTree

variable {α : Type}

/-- The trees that wait for an earlier row start with the rows that name it. -/
theorem map_label_waiting {next parent : Nat} (h : parent < next) (rows : List (Nat × α)) :
    ((waiting next rows).filter (·.1 == parent)).map (·.2.label) =
      (rows.filter (·.1 == parent)).map (·.2) := by
  induction rows generalizing next with
  | nil => rfl
  | cons row rows ih =>
    obtain ⟨q, a⟩ := row
    have hlater : ((waiting (next + 1) rows).filter (·.1 != next)).filter (·.1 == parent) =
        (waiting (next + 1) rows).filter (·.1 == parent) := by
      rw [List.filter_filter]
      apply List.filter_congr
      rintro ⟨p, t⟩ -
      by_cases hp : p = parent
      · simp [hp, Nat.ne_of_lt h]
      · simp [hp]
    rw [waiting, List.filter_cons, List.filter_cons, hlater]
    dsimp only
    split_ifs <;> simp [ih (Nat.lt_succ_of_lt h)]

/-- A subtree of a waiting tree is a row with the later rows that name its number. -/
theorem exists_row_of_mem_waiting {next q : Nat} {rows : List (Nat × α)} {t u : RoseTree α}
    (h : (q, t) ∈ waiting next rows) (hu : u ∈ t.preorder) :
    ∃ front parent back, rows = front ++ (parent, u.label) :: back ∧
      u.children.map label = (back.filter (·.1 == next + front.length)).map (·.2) := by
  induction rows generalizing next q t with
  | nil => cases h
  | cons row rows ih =>
    obtain ⟨p, a⟩ := row
    have hlater : ∀ {q' : Nat} {s : RoseTree α}, (q', s) ∈ waiting (next + 1) rows →
        u ∈ s.preorder → ∃ front parent back, (p, a) :: rows = front ++ (parent, u.label) :: back ∧
          u.children.map label = (back.filter (·.1 == next + front.length)).map (·.2) := by
      intro q' s hs hus
      obtain ⟨front, parent, back, hrows, hchildren⟩ := ih hs hus
      refine ⟨(p, a) :: front, parent, back, by rw [hrows, List.cons_append], ?_⟩
      rw [hchildren, List.length_cons, Nat.add_comm front.length 1, ← Nat.add_assoc]
    rcases List.mem_cons.1 h with heq | h
    · cases heq
      rcases mem_preorder_iff.1 hu with rfl | ⟨s, hs, hus⟩
      · refine ⟨[], _, rows, rfl, ?_⟩
        rw [children_node, List.map_map]
        exact map_label_waiting (Nat.lt_succ_self next) rows
      · obtain ⟨⟨q', s'⟩, hmem, rfl⟩ := List.mem_map.1 hs
        exact hlater (List.mem_of_mem_filter hmem) hus
    · exact hlater (List.mem_of_mem_filter h) hu

/-- The children of the root of a table are the rows that name it, in row order. -/
theorem map_label_children_ofRows (root : α) (rows : List (Nat × α)) :
    (ofRows root rows).children.map label = (rows.filter (·.1 == 0)).map (·.2) := by
  rw [ofRows, children_node, List.map_map]
  exact map_label_waiting Nat.one_pos rows

/-- A subtree of the tree of some rows is that tree, or a row with the later rows that name its
number. -/
theorem eq_or_exists_row_of_mem_ofRows {root : α} {rows : List (Nat × α)} {u : RoseTree α}
    (hu : u ∈ (ofRows root rows).preorder) :
    u = ofRows root rows ∨
      ∃ front parent back, rows = front ++ (parent, u.label) :: back ∧
        u.children.map label = (back.filter (·.1 == 1 + front.length)).map (·.2) := by
  rcases mem_preorder_iff.1 hu with hroot | ⟨s, hs, hus⟩
  · exact Or.inl hroot
  · obtain ⟨⟨q, t⟩, hmem, rfl⟩ := List.mem_map.1 hs
    exact Or.inr (exists_row_of_mem_waiting (List.mem_of_mem_filter hmem) hus)

end RoseTree

/-! ### Tables -/

namespace Arena

variable {a b : Arena} {t t' : SyntaxTree} {i : Nat}

/-- An arena that starts with a root and adds nodes below nodes it has. -/
inductive IsBuilt : Arena → Prop
  | new (kind : NodeKind) (span : Span) : IsBuilt (new kind span)
  | addNode {a : Arena} {parent : Nat} (h : IsBuilt a) (hparent : parent < a.size)
    (kind : NodeKind) (span : Span) : IsBuilt (a.addNode parent kind span)
  | addLeaf {a : Arena} {parent : Nat} (h : IsBuilt a) (hparent : parent < a.size)
    (kind : NodeKind) (text : String) (span : Span) : IsBuilt (a.addLeaf parent kind text span)

instance : DecidableEq Content := fun x y =>
  decidable_of_iff (x.kind = y.kind ∧ x.text = y.text ∧ x.span = y.span) <| by
    cases x
    cases y
    rw [Content.mk.injEq]

/-- What the node with a number holds. -/
def content? (a : Arena) : Nat → Option Content
  | 0 => some a.root
  | i + 1 => a.added[i]?.map (·.2)

/-- The numbers of the children of a node, in the order they were added. -/
def childIds (a : Arena) (i : Nat) : List Nat :=
  ((a.added.toList.zipIdx 1).filter (·.1.1 == i)).map (·.2)

/-- Whether a tree agrees with the table of an arena. -/
def Describes (a : Arena) (t : SyntaxTree) : Prop :=
  ∀ u ∈ t.preorder, a.content? u.label.id = some u.label.toContent ∧
    u.children.map (·.label.id) = a.childIds u.label.id

/-- A number with a node is less than the size. -/
theorem lt_size_of_content? {content : Content} (h : a.content? i = some content) : i < a.size := by
  cases i with
  | zero => exact Nat.succ_pos _
  | succ i =>
    obtain ⟨row, hrow, -⟩ := Option.map_eq_some_iff.1 h
    obtain ⟨hi, -⟩ := Array.getElem?_eq_some_iff.1 hrow
    exact Nat.succ_lt_succ hi

/-! ### The table of a tree -/

/-- The rows of an arena under their numbers. -/
def rows (a : Arena) : List (Nat × Label) :=
  (a.added.toList.zipIdx 1).map fun row => (row.1.1, ⟨row.1.2, row.2⟩)

/-- The tree of an arena is that of its rows. -/
theorem toTree_eq_ofRows (a : Arena) : a.toTree = RoseTree.ofRows ⟨a.root, 0⟩ a.rows := rfl

/-- The numbers of the children of a node are those of the rows that name it. -/
theorem childIds_eq_rows (a : Arena) (i : Nat) :
    a.childIds i = ((a.rows.filter (·.1 == i)).map (·.2)).map Label.id := by
  rw [childIds, rows, List.filter_map, List.map_map, List.map_map]
  rfl

/-- A row is one that was added, under the next number. -/
theorem getElem?_rows (a : Arena) (i : Nat) :
    a.rows[i]? = a.added[i]?.map fun row => (row.1, ⟨row.2, i + 1⟩) := by
  rw [rows, List.getElem?_map, List.getElem?_zipIdx, Option.map_map, Array.getElem?_toList,
    Nat.add_comm 1 i]
  rfl

/-- A row that is added comes behind the others, under the next number. -/
theorem rows_push (root : Content) (added : Array (Nat × Content)) (row : Nat × Content) :
    rows ⟨root, added.push row⟩ = rows ⟨root, added⟩ ++ [(row.1, ⟨row.2, added.size + 1⟩)] := by
  simp [rows, List.zipIdx_append, Nat.add_comm]

/-- Every row of an arena that is built names an earlier one. -/
theorem IsBuilt.parent_lt (h : a.IsBuilt) : ∀ row ∈ a.rows, row.1 < row.2.id := by
  have hpush : ∀ (a : Arena) (parent : Nat) (content : Content), parent < a.size →
      (∀ row ∈ a.rows, row.1 < row.2.id) →
        ∀ row ∈ rows ⟨a.root, a.added.push (parent, content)⟩, row.1 < row.2.id := by
    intro a parent content hparent ih row hrow
    rw [rows_push, List.mem_append, List.mem_singleton] at hrow
    rcases hrow with hrow | rfl
    · exact ih row hrow
    · exact hparent
  induction h with
  | new kind span => exact fun _ hrow => absurd hrow List.not_mem_nil
  | addNode _ hparent kind span ih => exact hpush _ _ _ hparent ih
  | addLeaf _ hparent kind text span ih => exact hpush _ _ _ hparent ih

/-- An arena whose root is no leaf and whose rows all name earlier ones is built. -/
theorem isBuilt_of_parent_lt (hroot : a.root.text = none)
    (h : ∀ row ∈ a.rows, row.1 < row.2.id) : a.IsBuilt := by
  obtain ⟨root, ⟨added⟩⟩ := a
  induction added using List.reverseRecOn with
  | nil =>
    obtain ⟨kind, text, span⟩ := root
    obtain rfl : text = none := hroot
    exact .new kind span
  | append_singleton added row ih =>
    obtain ⟨parent, kind, text, span⟩ := row
    have hpush : (⟨added ++ [(parent, ⟨kind, text, span⟩)]⟩ : Array (Nat × Content)) =
        added.toArray.push (parent, ⟨kind, text, span⟩) := by simp
    rw [hpush, rows_push] at h
    have hbuilt := ih hroot fun row hrow => h row (List.mem_append_left _ hrow)
    have hparent : parent < size ⟨root, added.toArray⟩ :=
      h (parent, ⟨⟨kind, text, span⟩, added.toArray.size + 1⟩) (by simp)
    rw [hpush]
    cases text with
    | none => exact hbuilt.addNode hparent kind span
    | some text => exact hbuilt.addLeaf hparent kind text span

/-- A row has the number of its place. -/
theorem id_eq_of_rows_eq {front back : List (Nat × Label)} {parent : Nat} {label : Label}
    (h : a.rows = front ++ (parent, label) :: back) : label.id = front.length + 1 := by
  have hrow : a.rows[front.length]? = some (parent, label) := by simp [h]
  rw [getElem?_rows] at hrow
  obtain ⟨row, -, heq⟩ := Option.map_eq_some_iff.1 hrow
  rw [← (Prod.mk.inj heq).2]

/-- What a row holds is found under its number. -/
theorem content?_of_rows_eq {front back : List (Nat × Label)} {parent : Nat} {label : Label}
    (h : a.rows = front ++ (parent, label) :: back) :
    a.content? label.id = some label.toContent := by
  have hrow : a.rows[front.length]? = some (parent, label) := by simp [h]
  rw [getElem?_rows] at hrow
  obtain ⟨row, hrow, heq⟩ := Option.map_eq_some_iff.1 hrow
  rw [id_eq_of_rows_eq h, content?, hrow, Option.map_some, ← (Prod.mk.inj heq).2]

/-- The children of a row are later rows. -/
theorem IsBuilt.childIds_eq_back (hbuilt : a.IsBuilt) {front back : List (Nat × Label)}
    {parent : Nat} {label : Label} (h : a.rows = front ++ (parent, label) :: back) :
    a.childIds label.id = ((back.filter (·.1 == label.id)).map (·.2)).map Label.id := by
  have hself : (parent == label.id) = false := by
    have hlt := hbuilt.parent_lt (parent, label) (by simp [h])
    simpa using Nat.ne_of_lt hlt
  have hfront : front.filter (·.1 == label.id) = [] := by
    rw [List.filter_eq_nil_iff]
    intro row hrow heq
    obtain ⟨before, after, rfl⟩ := List.append_of_mem hrow
    have hlt := hbuilt.parent_lt row (by simp [h])
    have hrows : a.rows = before ++ (row.1, row.2) :: (after ++ (parent, label) :: back) := by
      rw [h, List.append_assoc, List.cons_append]
    have hid := id_eq_of_rows_eq hrows
    have hid' := id_eq_of_rows_eq h
    rw [beq_iff_eq.1 heq, hid, hid'] at hlt
    rw [List.length_append] at hlt
    omega
  rw [childIds_eq_rows, h, List.filter_append, List.filter_cons, hself, hfront]
  rfl

/-- The tree of an arena that is built agrees with its table. -/
theorem IsBuilt.describes_toTree (h : a.IsBuilt) : a.Describes a.toTree := by
  intro u hu
  rw [toTree_eq_ofRows] at hu
  rcases RoseTree.eq_or_exists_row_of_mem_ofRows hu with
    rfl | ⟨front, parent, back, hrows, hchildren⟩
  · refine ⟨rfl, ?_⟩
    show _ = a.childIds 0
    rw [childIds_eq_rows, ← RoseTree.map_label_children_ofRows, List.map_map]
    rfl
  · refine ⟨content?_of_rows_eq hrows, ?_⟩
    rw [h.childIds_eq_back hrows, id_eq_of_rows_eq hrows, Nat.add_comm, ← hchildren, List.map_map]
    rfl

/-- Two lists have the same elements if a function tells these apart and maps both lists to one. -/
theorem eq_of_map_eq {α β : Type} {f : α → β} {xs ys : List α} (h : xs.map f = ys.map f)
    (hinj : ∀ x ∈ xs, ∀ y ∈ ys, f x = f y → x = y) : xs = ys := by
  have hrel : List.Forall₂ (fun x y => f x = f y) xs ys := by
    rwa [← List.forall₂_eq_eq_eq, List.forall₂_map_left_iff, List.forall₂_map_right_iff] at h
  clear h
  induction hrel with
  | nil => rfl
  | cons hhead _ ih =>
    rw [hinj _ List.mem_cons_self _ List.mem_cons_self hhead,
      ih fun x hx y hy => hinj x (List.mem_cons_of_mem _ hx) y (List.mem_cons_of_mem _ hy)]

/-- The trees below one that agrees with a table agree with it as well. -/
theorem Describes.of_mem_children (h : a.Describes t) {s : SyntaxTree} (hs : s ∈ t.children) :
    a.Describes s := fun u hu =>
  h u (RoseTree.mem_preorder_trans hu (RoseTree.mem_preorder_of_mem_children hs))

/-- A tree agrees with a table if its root and the trees below do. -/
theorem describes_of_children (hcontent : a.content? t.label.id = some t.label.toContent)
    (hchildren : t.children.map (·.label.id) = a.childIds t.label.id)
    (hbelow : ∀ s ∈ t.children, a.Describes s) : a.Describes t := by
  intro u hu
  rcases RoseTree.mem_preorder_iff.1 hu with rfl | ⟨s, hs, hus⟩
  · exact ⟨hcontent, hchildren⟩
  · exact hbelow s hs u hus

/-- Only one tree agrees with the table from a number on. -/
theorem Describes.eq (ht : a.Describes t) (ht' : a.Describes t')
    (hid : t.label.id = t'.label.id) : t = t' := by
  induction t using RoseTree.induction generalizing t' with
  | node label ts ih =>
    obtain ⟨label', ts'⟩ := t'
    obtain ⟨content, id⟩ := label
    obtain ⟨content', id'⟩ := label'
    obtain rfl : id = id' := hid
    obtain ⟨hcontent, hchildren⟩ := ht _ (RoseTree.self_mem_preorder _)
    obtain ⟨hcontent', hchildren'⟩ := ht' _ (RoseTree.self_mem_preorder _)
    obtain rfl : content = content' := Option.some.inj (hcontent.symm.trans hcontent')
    have hts : ts = ts' := by
      refine eq_of_map_eq (hchildren.trans hchildren'.symm) fun s hs s' hs' hsid => ?_
      exact ih s hs (ht.of_mem_children hs) (ht'.of_mem_children hs') hsid
    rw [hts]

/-! ### Numbers -/

/-- A row is among the children of the node it names. -/
theorem mem_childIds_of_getElem? {parent : Nat} {content : Content}
    (h : a.added[i]? = some (parent, content)) : i + 1 ∈ a.childIds parent := by
  have hmem : ((parent, content), i + 1) ∈ a.added.toList.zipIdx 1 := by
    rw [List.mem_zipIdx_iff_le_and_getElem?_sub]
    simpa using h
  exact List.mem_map.2 ⟨_, List.mem_filter.2 ⟨hmem, beq_self_eq_true parent⟩, rfl⟩

/-- A row names a node from before it. -/
theorem IsBuilt.parent_lt_of_getElem? (h : a.IsBuilt) {parent : Nat} {content : Content}
    (hrow : a.added[i]? = some (parent, content)) : parent < i + 1 := by
  apply h.parent_lt (parent, ⟨content, i + 1⟩)
  apply List.mem_of_getElem? (i := i)
  rw [getElem?_rows, hrow, Option.map_some]

/-- Every node of an arena is in its tree: by induction on its number, below its parent. -/
theorem IsBuilt.exists_mem_preorder (h : a.IsBuilt) (hi : i < a.size) :
    ∃ u ∈ a.toTree.preorder, u.label.id = i := by
  induction i using Nat.strongRecOn with
  | ind i ih =>
    cases i with
    | zero => exact ⟨a.toTree, RoseTree.self_mem_preorder _, rfl⟩
    | succ i =>
      have hin : i < a.added.size := Nat.lt_of_succ_lt_succ hi
      have hrow : a.added[i]? = some a.added[i] := Array.getElem?_eq_getElem hin
      have hparent : a.added[i].1 < i + 1 := h.parent_lt_of_getElem? hrow
      obtain ⟨u, hu, hid⟩ := ih _ hparent (Nat.lt_trans hparent hi)
      have hmem : i + 1 ∈ u.children.map (·.label.id) := by
        rw [(h.describes_toTree u hu).2, hid]
        exact mem_childIds_of_getElem? hrow
      obtain ⟨s, hs, hsid⟩ := List.mem_map.1 hmem
      exact ⟨s, RoseTree.mem_preorder_trans (RoseTree.mem_preorder_of_mem_children hs) hu, hsid⟩

/-- Every number of an arena finds a node of its tree. -/
theorem IsBuilt.exists_node? (h : a.IsBuilt) (hi : i < a.size) :
    ∃ n, a.toTree.node? i = some n := by
  obtain ⟨u, hu, hid⟩ := h.exists_mem_preorder hi
  rw [← SyntaxTree.map_tree_nodes] at hu
  obtain ⟨n, hn, rfl⟩ := List.mem_map.1 hu
  exact ⟨n, a.hasDistinctIds_toTree.node?_eq_some_iff.2 ⟨hn, hid⟩⟩

end Arena

/-! ### Renaming -/

namespace Arena

variable {a b : Arena} {t : SyntaxTree} {f : Nat → Nat}

/-- Whether `f` matches the nodes of two arenas: a bijection of their numbers that maps root to root
and keeps what every node holds and the order of its children. -/
structure IsRenaming (f : Nat → Nat) (a b : Arena) : Prop where
  bijOn : Set.BijOn f {i | i < a.size} {i | i < b.size}
  root : f 0 = 0
  content : ∀ i < a.size, b.content? (f i) = a.content? i
  children : ∀ i < a.size, b.childIds (f i) = (a.childIds i).map f

/-- A tree that agrees with one table agrees with the other one under other numbers. -/
theorem IsRenaming.describes_renumber (h : IsRenaming f a b) (ht : a.Describes t) :
    b.Describes (t.renumber f) := by
  intro u' hu'
  rw [SyntaxTree.renumber, RoseTree.preorder_map] at hu'
  obtain ⟨u, hu, rfl⟩ := List.mem_map.1 hu'
  obtain ⟨hcontent, hchildren⟩ := ht u hu
  have hlt := lt_size_of_content? hcontent
  rw [RoseTree.label_map, RoseTree.children_map]
  refine ⟨(h.content _ hlt).trans hcontent, ?_⟩
  show _ = b.childIds (f u.label.id)
  rw [h.children _ hlt, ← hchildren, List.map_map, List.map_map]
  refine List.map_congr_left fun s _ => ?_
  rw [Function.comp_apply, RoseTree.label_map]
  rfl

/-- The numbers of the nodes of a tree are less than the size of its arena. -/
theorem IsBuilt.id_lt_size (h : a.IsBuilt) {n : Node} (hn : n ∈ a.toTree.nodes) :
    n.id < a.size :=
  lt_size_of_content? (h.describes_toTree n.tree (SyntaxTree.mem_preorder_of_mem_nodes hn)).1

/-- A bijection between the numbers of two arenas tells the nodes of the first one apart. -/
theorem IsRenaming.keepsApart (h : IsRenaming f a b) (ha : a.IsBuilt) : a.toTree.KeepsApart f :=
  fun _ hm _ hn heq => h.bijOn.injOn (ha.id_lt_size hm) (ha.id_lt_size hn) heq

/-- **The tree of an arena does not depend on the order in which its nodes were added**, except for
their numbers. -/
theorem IsRenaming.toTree_eq (h : IsRenaming f a b) (ha : a.IsBuilt) (hb : b.IsBuilt) :
    b.toTree = a.toTree.renumber f := by
  refine hb.describes_toTree.eq (h.describes_renumber ha.describes_toTree) ?_
  rw [SyntaxTree.renumber, RoseTree.label_map]
  exact h.root.symm

/-- A number finds a node, and its new number finds what becomes of that node. -/
theorem IsRenaming.exists_node? (h : IsRenaming f a b) (ha : a.IsBuilt) (hb : b.IsBuilt) {i : Nat}
    (hi : i < a.size) :
    ∃ n, a.toTree.node? i = some n ∧ b.toTree.node? (f i) = some (n.renumber f) := by
  obtain ⟨n, hn⟩ := ha.exists_node? hi
  obtain ⟨hmem, rfl⟩ := a.hasDistinctIds_toTree.node?_eq_some_iff.1 hn
  refine ⟨n, hn, b.hasDistinctIds_toTree.node?_eq_some_iff.2 ⟨?_, n.id_renumber⟩⟩
  rw [h.toTree_eq ha hb, SyntaxTree.nodes_renumber]
  exact List.mem_map_of_mem hmem

end Arena

end KotestOutline
