/-!
# Rose trees

Finitely branching labelled trees, the common shape of the concrete tree of a Kotlin file and of
the lowered tree the recognizers read.

* `RoseTree.induction` is the induction principle with a membership hypothesis for the children.
* `RoseTree.annotate` is the bottom-up fold that keeps the value it computes at every node, so that
  a rule for a node may look at the values of all the nodes below it.
* `RoseTree.ofRows` reads a tree from its rows, each naming the number of its parent row.
* `RoseTree.preorder` lists the subtrees, parents before children and siblings in order.
-/

namespace KotestOutline

/-- A tree whose nodes carry a label and an ordered list of children. -/
inductive RoseTree (α : Type) where
  | node (label : α) (children : List (RoseTree α))
  deriving Inhabited

namespace RoseTree

variable {α β : Type}

/-- The label of the root. -/
def label : RoseTree α → α
  | .node label _ => label

/-- The subtrees directly below the root, in order. -/
def children : RoseTree α → List (RoseTree α)
  | .node _ children => children

@[simp] theorem label_node (a : α) (ts : List (RoseTree α)) : (node a ts).label = a := rfl

@[simp] theorem children_node (a : α) (ts : List (RoseTree α)) : (node a ts).children = ts := rfl

/-- A property of every tree follows from its inheritance from the children to the parent. -/
theorem induction {motive : RoseTree α → Prop}
    (node : ∀ a ts, (∀ t ∈ ts, motive t) → motive (.node a ts)) (t : RoseTree α) : motive t :=
  t.rec (motive_1 := motive) (motive_2 := fun ts => ∀ t ∈ ts, motive t) node
    (by simp) (by simp_all)

/-! ## Annotation -/

mutual
/-- Pairs every label with the value `f` gives it from the annotated children. -/
def annotate (f : α → List (RoseTree (α × β)) → β) : RoseTree α → RoseTree (α × β)
  | .node a ts =>
    let below := annotateAll f ts
    .node (a, f a below) below

/-- The annotation of each tree of a list. -/
def annotateAll (f : α → List (RoseTree (α × β)) → β) :
    List (RoseTree α) → List (RoseTree (α × β))
  | [] => []
  | t :: ts => annotate f t :: annotateAll f ts
end

/-- The trees of a list are annotated one by one. -/
theorem annotateAll_eq_map (f : α → List (RoseTree (α × β)) → β) (ts : List (RoseTree α)) :
    annotateAll f ts = ts.map (annotate f) := by
  induction ts with
  | nil => rfl
  | cons t ts ih => rw [annotateAll, ih, List.map_cons]

/-- A node is annotated with what its function gives it from its annotated children. -/
theorem annotate_node (f : α → List (RoseTree (α × β)) → β) (a : α) (ts : List (RoseTree α)) :
    annotate f (node a ts) =
      node (a, f a (ts.map (annotate f))) (ts.map (annotate f)) := by
  rw [annotate, annotateAll_eq_map]

/-! ## Rows -/

/-- The trees of the rows from number `next` on that still wait for their parent, each with the
number of that parent, in row order. A row takes the waiting trees that name it. -/
def waiting : Nat → List (Nat × α) → List (Nat × RoseTree α)
  | _, [] => []
  | next, (parent, a) :: rows =>
    let later := waiting (next + 1) rows
    (parent, node a ((later.filter (·.1 == next)).map (·.2))) :: later.filter (·.1 != next)

/-- The tree with root label `root` whose other nodes are `rows`, numbered from 1 on. The children
of a node are the later rows that name its number, in row order. -/
def ofRows (root : α) (rows : List (Nat × α)) : RoseTree α :=
  node root (((waiting 1 rows).filter (·.1 == 0)).map (·.2))

/-! ## Traversal -/

mutual
/-- Every subtree, the tree itself included, in pre-order. -/
def preorder : RoseTree α → List (RoseTree α)
  | .node a ts => node a ts :: preorderAll ts

/-- The subtrees of each tree of a list, in turn. -/
def preorderAll : List (RoseTree α) → List (RoseTree α)
  | [] => []
  | t :: ts => preorder t ++ preorderAll ts
end

/-- The subtrees of a list are those of its trees, in turn. -/
theorem preorderAll_eq_flatMap (ts : List (RoseTree α)) :
    preorderAll ts = ts.flatMap preorder := by
  induction ts with
  | nil => rfl
  | cons t ts ih => rw [preorderAll, ih, List.flatMap_cons]

end RoseTree

end KotestOutline
