import KotestOutline.Proofs.Syntax.Walk

/-!
# One missing token more

A tree in which one node gets a further last child, a token that the source lacks. Every other node
stays where it is, with its kind, its text and its children.

* `SyntaxTree.addMissing` adds the token, and `Node.addMissing` is what becomes of a node.
* `SyntaxTree.node?_addMissing`: numbers find the same nodes as before.
* `Node.hasMissingChild_addMissing`: only the parent of the token lacks a token it did not lack.
-/

namespace KotestOutline

/-- A token that the source lacks, as a tree of its own. -/
def missingLeaf (id : Nat) (span : Span) : SyntaxTree :=
  .node ⟨⟨.missing, some "", span⟩, id⟩ []

namespace SyntaxTree

mutual
/-- Gives the node numbered `parent` a missing token as its last child. -/
def addMissing (parent id : Nat) (span : Span) : RoseTree Label → SyntaxTree
  | .node label children =>
    .node label (addMissingAll parent id span children ++
      if label.id = parent then [missingLeaf id span] else [])

/-- Adds the token in each tree of a list. -/
def addMissingAll (parent id : Nat) (span : Span) : List (RoseTree Label) → List SyntaxTree
  | [] => []
  | t :: ts => addMissing parent id span t :: addMissingAll parent id span ts
end

variable {parent id : Nat} {span : Span}

/-- The token is added in each tree of a list. -/
theorem addMissingAll_eq_map (ts : List SyntaxTree) :
    addMissingAll parent id span ts = ts.map (addMissing parent id span) := by
  induction ts with
  | nil => rfl
  | cons t ts ih => rw [addMissingAll, ih, List.map_cons]

/-- The label of a tree stays. -/
@[simp] theorem label_addMissing (t : SyntaxTree) :
    (addMissing parent id span t).label = t.label := by
  obtain ⟨label, ts⟩ := t
  rw [addMissing, RoseTree.label_node, RoseTree.label_node]

/-- A tree has the children it had, and behind them the token if it is the one that gets it. -/
theorem children_addMissing (t : SyntaxTree) :
    (addMissing parent id span t).children =
      t.children.map (addMissing parent id span) ++
        if t.label.id = parent then [missingLeaf id span] else [] := by
  obtain ⟨label, ts⟩ := t
  rw [addMissing, addMissingAll_eq_map, RoseTree.children_node, RoseTree.children_node,
    RoseTree.label_node]

/-! ### Text -/

/-- The texts of a list are those of its trees, in order. -/
theorem ownTextsAll_eq_flatMap (ts : List SyntaxTree) : ownTextsAll ts = ts.flatMap ownTexts := by
  induction ts with
  | nil => rfl
  | cons t ts ih => rw [ownTextsAll, ih, List.flatMap_cons]

/-- The missing token adds nothing to the texts of child lists. -/
theorem join_ownTextsAll_children_addMissing (t : SyntaxTree)
    (h : ∀ c ∈ t.children,
      String.join (ownTexts (addMissing parent id span c)) = String.join (ownTexts c)) :
    String.join (ownTextsAll (addMissing parent id span t).children) =
      String.join (ownTextsAll t.children) := by
  have hold : ∀ ts : List SyntaxTree, (∀ c ∈ ts,
      String.join (ownTexts (addMissing parent id span c)) = String.join (ownTexts c)) →
      String.join ((ts.map (addMissing parent id span)).flatMap ownTexts) =
        String.join (ts.flatMap ownTexts) := by
    intro ts
    induction ts with
    | nil => exact fun _ => rfl
    | cons c ts ih =>
      intro hts
      rw [List.map_cons, List.flatMap_cons, List.flatMap_cons, String.join_append,
        String.join_append, hts c List.mem_cons_self,
        ih fun d hd => hts d (List.mem_cons_of_mem c hd)]
  have hnew : String.join (List.flatMap ownTexts
      (if t.label.id = parent then [missingLeaf id span] else [])) = "" := by
    split_ifs <;> rfl
  rw [ownTextsAll_eq_flatMap, ownTextsAll_eq_flatMap, children_addMissing, List.flatMap_append,
    String.join_append, hold _ h, hnew, String.append_empty]

/-- A missing token adds no text to a tree. -/
theorem join_ownTexts_addMissing (t : SyntaxTree) :
    String.join (ownTexts (addMissing parent id span t)) = String.join (ownTexts t) := by
  induction t using RoseTree.induction with
  | node label ts ih =>
    have hbelow := join_ownTextsAll_children_addMissing (.node label ts) ih
    rw [addMissing, ownTexts, ownTexts, String.join_append, String.join_append]
    rw [addMissing] at hbelow
    exact congrArg _ hbelow

/-- The text of a tree stays. -/
theorem text_addMissing (t : SyntaxTree) : text (addMissing parent id span t) = text t := by
  unfold text
  rw [label_addMissing,
    join_ownTextsAll_children_addMissing t fun c _ => join_ownTexts_addMissing c]

end SyntaxTree

/-! ### Nodes -/

namespace Node

variable {parent id : Nat} {span : Span} {n : Node}

/-- What becomes of a node of a tree that gets a missing token. -/
def addMissing (parent id : Nat) (span : Span) (n : Node) : Node :=
  ⟨SyntaxTree.addMissing parent id span n.tree,
    n.above.map (SyntaxTree.addMissing parent id span)⟩

/-- The number of a node stays. -/
@[simp] theorem id_addMissing (n : Node) : (n.addMissing parent id span).id = n.id := by
  rw [Node.id, addMissing, SyntaxTree.label_addMissing]
  rfl

/-- The kind of a node stays. -/
@[simp] theorem kind_addMissing (n : Node) : (n.addMissing parent id span).kind = n.kind := by
  rw [kind, addMissing, SyntaxTree.label_addMissing]
  rfl

/-- The span of a node stays. -/
@[simp] theorem span_addMissing (n : Node) : (n.addMissing parent id span).span = n.span := by
  rw [Node.span, addMissing, SyntaxTree.label_addMissing]
  rfl

/-- A node stays of a kind or not. -/
@[simp] theorem is_addMissing (n : Node) (kind : NodeKind) :
    (n.addMissing parent id span).is kind = n.is kind := by
  rw [is, is, kind_addMissing]

/-- The text of a node stays. -/
@[simp] theorem text_addMissing (n : Node) : (n.addMissing parent id span).text = n.text :=
  SyntaxTree.text_addMissing n.tree

/-- The nodes around a node are those from before. -/
theorem ancestors_addMissing (n : Node) :
    (n.addMissing parent id span).ancestors = n.ancestors.map (addMissing parent id span) := by
  obtain ⟨t, above⟩ := n
  rw [ancestors, addMissing, ancestors]
  induction above with
  | nil => rfl
  | cons u above ih => rw [List.map_cons, chain, chain, List.map_cons, ih]; rfl

/-- A node has the children it had, and behind them the token if it is the one that gets it. -/
theorem children_addMissing (n : Node) :
    (n.addMissing parent id span).children =
      n.children.map (addMissing parent id span) ++
        if n.id = parent then [⟨missingLeaf id span, (n.addMissing parent id span).tree ::
          (n.addMissing parent id span).above⟩] else [] := by
  rw [children, addMissing, SyntaxTree.children_addMissing, List.map_append, children,
    List.map_map, List.map_map]
  congr 1
  rw [show n.id = n.tree.label.id from rfl]
  split_ifs <;> rfl

/-- The missing token is no element. -/
theorem elements_addMissing (n : Node) :
    (n.addMissing parent id span).elements = n.elements.map (addMissing parent id span) := by
  have hnew : List.filter (fun c : Node => !c.kind.isToken)
      (if n.id = parent then [⟨missingLeaf id span, (n.addMissing parent id span).tree ::
        (n.addMissing parent id span).above⟩] else []) = [] := by
    split_ifs <;> rfl
  rw [elements, elements, children_addMissing, List.filter_append, hnew, List.append_nil,
    List.filter_map]
  congr 1
  apply List.filter_congr
  intro c _
  rw [Function.comp_apply, kind_addMissing]

/-- Only the node that got the token lacks one that it did not lack. -/
theorem hasMissingChild_addMissing (n : Node) :
    (n.addMissing parent id span).hasMissingChild = (n.hasMissingChild || n.id == parent) := by
  rw [hasMissingChild, hasMissingChild, children_addMissing, List.any_append, List.any_map]
  congr 1
  · apply List.any_congr rfl
    intro c
    rw [Function.comp_apply, is_addMissing]
  · by_cases h : n.id = parent
    · rw [if_pos h, h, beq_self_eq_true]
      rfl
    · rw [if_neg h, beq_eq_false_iff_ne.2 h]
      rfl

/-- The first child of another kind stays the first. -/
theorem firstChild?_addMissing (n : Node) {kind : NodeKind} (hkind : kind ≠ .missing) :
    (n.addMissing parent id span).firstChild? kind =
      (n.firstChild? kind).map (addMissing parent id span) := by
  have hnew : List.find? (fun c : Node => c.is kind)
      (if n.id = parent then [⟨missingLeaf id span, (n.addMissing parent id span).tree ::
        (n.addMissing parent id span).above⟩] else []) = none := by
    split_ifs
    · rw [List.find?_singleton, if_neg]
      intro h
      exact hkind (beq_iff_eq.1 h).symm
    · rfl
  rw [firstChild?, firstChild?, children_addMissing, List.find?_append, hnew, Option.or_none,
    List.find?_map]
  congr 2
  funext c
  rw [Function.comp_apply, is_addMissing]

/-! ### Numbers -/

/-- Under a node, a number other than that of the token finds what it found before. -/
theorem find?_addMissing (n : Node) {k : Nat} (hk : k ≠ id) :
    ((n.addMissing parent id span) :: (n.addMissing parent id span).descendants).find?
        (·.id == k) =
      ((n :: n.descendants).find? (·.id == k)).map (addMissing parent id span) := by
  induction n using Node.induction with
  | step n ih =>
    rw [List.find?_cons, List.find?_cons, id_addMissing]
    split
    · rfl
    · have hnew : List.findSome? (fun c : Node => (c :: c.descendants).find? (·.id == k))
          (if n.id = parent then [⟨missingLeaf id span, (n.addMissing parent id span).tree ::
            (n.addMissing parent id span).above⟩] else []) = none := by
        split_ifs
        · rw [List.findSome?_singleton]
          have hne : (id == k) = false := beq_eq_false_iff_ne.2 hk.symm
          exact List.find?_cons_of_neg (by rw [Bool.not_eq_true]; exact hne)
        · rfl
      rw [descendants_eq, descendants_eq, List.find?_flatMap, List.find?_flatMap,
        children_addMissing, List.findSome?_append, hnew, Option.or_none, List.findSome?_map,
        List.map_findSome?]
      generalize hcs : n.children = cs at ih
      clear hcs
      induction cs with
      | nil => rfl
      | cons c cs ihcs =>
        rw [List.findSome?_cons, List.findSome?_cons, Function.comp_apply, Function.comp_apply,
          ih c List.mem_cons_self, ihcs fun d hd => ih d (List.mem_cons_of_mem c hd)]

end Node

namespace SyntaxTree

variable {parent id : Nat} {span : Span}

/-- Every node keeps its number. -/
theorem node?_addMissing (t : SyntaxTree) {k : Nat} (hk : k ≠ id) :
    node? (addMissing parent id span t) k = (node? t k).map (Node.addMissing parent id span) :=
  Node.find?_addMissing (Node.ofTree t) hk

end SyntaxTree

end KotestOutline
