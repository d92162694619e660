import KotestOutline.Proofs.Syntax.Walk
import Mathlib.Data.List.Forall2

/-!
# Trees that differ in part

Two trees may differ in one subtree, in numbers and spans, or inside of strings. What they still
share is stated here.
-/

namespace KotestOutline

/-!
## Trees with a hole

A context is a tree with one subtree left out, so that two trees that differ in one place are one
context filled in two ways.

* `Frame.bare` is a tree without the child, `Frame.plug` the tree with one in its place.
* `Context.plug` fills the hole, `Context.above` are the trees around what it is filled with.
* `Node.within` is the node at the hole.
* `RoseTree.map` relabels a tree and `Context.map` a context.
-/

section

variable {α β : Type}

/-! ### Relabelling -/

namespace RoseTree

mutual
/-- Applies a function to every label. -/
def map (f : α → β) : RoseTree α → RoseTree β
  | .node a ts => .node (f a) (mapAll f ts)

/-- Relabels each tree of a list. -/
def mapAll (f : α → β) : List (RoseTree α) → List (RoseTree β)
  | [] => []
  | t :: ts => map f t :: mapAll f ts
end

/-- The trees of a list are relabelled one by one. -/
theorem mapAll_eq_map (f : α → β) (ts : List (RoseTree α)) : mapAll f ts = ts.map (map f) := by
  induction ts with
  | nil => rfl
  | cons t ts ih => rw [mapAll, ih, List.map_cons]

/-- A node is relabelled together with all that is below it. -/
@[simp] theorem map_node (f : α → β) (a : α) (ts : List (RoseTree α)) :
    (node a ts).map f = node (f a) (ts.map (map f)) := by
  rw [map, mapAll_eq_map]

/-- The root of a relabelled tree has the new label. -/
theorem label_map (f : α → β) (t : RoseTree α) : (t.map f).label = f t.label := by
  obtain ⟨a, ts⟩ := t
  rw [map_node, label_node, label_node]

/-- The children of a relabelled tree are the relabelled children. -/
theorem children_map (f : α → β) (t : RoseTree α) :
    (t.map f).children = t.children.map (map f) := by
  obtain ⟨a, ts⟩ := t
  rw [map_node, children_node, children_node]

/-- To relabel a tree twice is to relabel it once. -/
theorem map_map {γ : Type} (g : β → γ) (f : α → β) (t : RoseTree α) :
    (t.map f).map g = t.map (g ∘ f) := by
  induction t using induction with
  | node a ts ih =>
    rw [map_node, map_node, map_node, List.map_map]
    exact congrArg _ (List.map_congr_left ih)

/-- The subtrees of a relabelled tree are the relabelled subtrees. -/
theorem preorder_map (f : α → β) (t : RoseTree α) :
    (t.map f).preorder = t.preorder.map (map f) := by
  induction t using induction with
  | node a ts ih =>
    rw [map_node, preorder_node, preorder_node, List.map_cons, map_node, List.flatMap_map,
      List.map_flatMap]
    exact congrArg _ (List.flatMap_congr ih)

end RoseTree

/-! ### Frames and contexts -/

/-- A node with one of its children left out. -/
structure Frame (α : Type) where
  label : α
  /-- The children before the one left out. -/
  left : List (RoseTree α)
  right : List (RoseTree α)

/-- The tree with a child in the place of the one left out. -/
def Frame.plug (frame : Frame α) (t : RoseTree α) : RoseTree α :=
  .node frame.label (frame.left ++ t :: frame.right)

/-- The tree with the child left out. -/
def Frame.bare (frame : Frame α) : RoseTree α :=
  .node frame.label (frame.left ++ frame.right)

/-- Applies a function to every label of a frame. -/
def Frame.map (f : α → β) (frame : Frame α) : Frame β :=
  ⟨f frame.label, frame.left.map (RoseTree.map f), frame.right.map (RoseTree.map f)⟩

@[simp] theorem Frame.label_plug (frame : Frame α) (t : RoseTree α) :
    (frame.plug t).label = frame.label := rfl

@[simp] theorem Frame.children_plug (frame : Frame α) (t : RoseTree α) :
    (frame.plug t).children = frame.left ++ t :: frame.right := rfl

@[simp] theorem Frame.children_bare (frame : Frame α) :
    frame.bare.children = frame.left ++ frame.right := rfl

/-- A tree with a hole: the frames around the hole, innermost first. -/
abbrev Context (α : Type) := List (Frame α)

namespace Context

/-- The tree with the hole filled. -/
def plug : Context α → RoseTree α → RoseTree α
  | [], t => t
  | frame :: outer, t => plug outer (frame.plug t)

/-- The subtrees around the hole, innermost first. -/
def above : Context α → RoseTree α → List (RoseTree α)
  | [], _ => []
  | frame :: outer, t => frame.plug t :: above outer (frame.plug t)

/-- Applies a function to every label of a context. -/
def map (f : α → β) (context : Context α) : Context β := List.map (Frame.map f) context

@[simp] theorem plug_cons (frame : Frame α) (outer : Context α) (t : RoseTree α) :
    plug (frame :: outer) t = plug outer (frame.plug t) := rfl

end Context

/-! ### Nodes in contexts -/

namespace Node

variable {m n : Node}

/-- The node in the hole of a context. -/
def within (context : Context Label) (t : SyntaxTree) : Node := ⟨t, context.above t⟩

@[simp] theorem tree_within (context : Context Label) (t : SyntaxTree) :
    (within context t).tree = t := rfl

/-- A node in a hole is a child of the node around the hole. -/
theorem mem_children_within (frame : Frame Label) (outer : Context Label) (t : SyntaxTree) :
    within (frame :: outer) t ∈ (within outer (frame.plug t)).children := by
  apply List.mem_map_of_mem
  rw [tree_within, Frame.children_plug]
  exact List.mem_append_right _ List.mem_cons_self

end Node

end

/-!
## Trees up to numbers and spans

Numbers and spans of nodes are no part of what a tree says: two trees that differ in nothing else
are alike, and have the same texts.

* `SyntaxTree.Alike`: the same tree up to numbers and spans.
* `SyntaxTree.Alike.children` and `SyntaxTree.Alike.text_eq`: what alike trees share.
-/

/-- Kind and own text, which is all that recognition reads of a node. -/
def Label.shape (label : Label) : NodeKind × Option String := (label.kind, label.text)

namespace SyntaxTree

variable {t t' : SyntaxTree}

/-- Whether two trees differ in nothing but numbers and spans. -/
def Alike (t t' : SyntaxTree) : Prop := t.map Label.shape = t'.map Label.shape

/-- A tree is like itself. -/
theorem Alike.refl (t : SyntaxTree) : t.Alike t := rfl

/-- Trees that are alike have roots of one shape. -/
theorem Alike.shape_eq (h : t.Alike t') : t.label.shape = t'.label.shape := by
  have hlabel := congrArg RoseTree.label h
  rwa [RoseTree.label_map, RoseTree.label_map] at hlabel

/-- Lists that are alike have trees that are. -/
theorem forall₂_alike {ts ts' : List SyntaxTree}
    (h : ts.map (RoseTree.map Label.shape) = ts'.map (RoseTree.map Label.shape)) :
    List.Forall₂ Alike ts ts' := by
  rw [← List.forall₂_eq_eq_eq, List.forall₂_map_left_iff, List.forall₂_map_right_iff] at h
  exact h

/-- Trees that are alike have children that are. -/
theorem Alike.children (h : t.Alike t') : List.Forall₂ Alike t.children t'.children := by
  apply forall₂_alike
  have hchildren := congrArg RoseTree.children h
  rwa [RoseTree.children_map, RoseTree.children_map] at hchildren

/-- The own texts of a tree are those of its labels. -/
theorem ownTexts_eq (t : SyntaxTree) :
    ownTexts t = (t.map Label.shape).labels.flatMap (·.2.toList) := by
  induction t using RoseTree.induction with
  | node label ts ih =>
    rw [RoseTree.map_node, RoseTree.labels_node, List.flatMap_cons, ownTexts]
    apply congrArg
    induction ts with
    | nil => rfl
    | cons t ts ihts =>
      rw [ownTextsAll, List.map_cons, List.flatMap_cons, List.flatMap_append,
        ih t List.mem_cons_self, ihts fun u hu => ih u (List.mem_cons_of_mem t hu)]

/-- Trees that are alike have one text. -/
theorem Alike.text_eq (h : t.Alike t') : t.text = t'.text := by
  have hown : t.label.text = t'.label.text := congrArg Prod.snd h.shape_eq
  have hall : ownTexts t = ownTexts t' := by
    rw [ownTexts_eq, ownTexts_eq, show t.map Label.shape = t'.map Label.shape from h]
  obtain ⟨label, ts⟩ := t
  obtain ⟨label', ts'⟩ := t'
  rw [ownTexts, ownTexts, show label.text = label'.text from hown,
    List.append_cancel_left_eq] at hall
  unfold text
  rw [hown, RoseTree.children_node, RoseTree.children_node, hall]

end SyntaxTree

/-!
## Trees without the insides of strings

What is written inside a string literal is in the subtree of its template. The outline of a tree is
what is left when these subtrees are emptied, and numbers and spans left out: two trees that differ
only inside of templates have one outline.

* `SyntaxTree.outline` and its equations.
* `NamesApart`: in an outline no name is made up of the texts below it and holds a template. Only
  then is a name outside of templates the same in all trees of the outline
  (`SyntaxTree.SameOutline.text_eq`).
-/

/-- A tree of kinds and own texts. -/
abbrev Outline := RoseTree (NodeKind × Option String)

namespace SyntaxTree

open RoseTree (label_node children_node)

mutual
/-- The tree with nothing in its string templates. -/
def outline : RoseTree Label → Outline
  | .node label children =>
    if label.kind = .stringTemplate then .node (.stringTemplate, none) []
    else .node label.shape (outlineAll children)

/-- The outline of each tree of a list. -/
def outlineAll : List (RoseTree Label) → List Outline
  | [] => []
  | t :: ts => outline t :: outlineAll ts
end

variable {t t' : SyntaxTree}

/-- The outlines of a list are those of its trees. -/
theorem outlineAll_eq_map (ts : List SyntaxTree) : outlineAll ts = ts.map outline := by
  induction ts with
  | nil => rfl
  | cons t ts ih => rw [outlineAll, ih, List.map_cons]

/-- The outline of a string has nothing below it. -/
theorem outline_of_template (h : t.label.kind = .stringTemplate) :
    outline t = .node (.stringTemplate, none) [] := by
  obtain ⟨label, ts⟩ := t
  rw [label_node] at h
  rw [outline, if_pos h]

/-- The outline of any other tree has the outlines of its children below it. -/
theorem outline_of_ne (h : t.label.kind ≠ .stringTemplate) :
    outline t = .node t.label.shape (t.children.map outline) := by
  obtain ⟨label, ts⟩ := t
  rw [label_node] at h
  rw [outline, if_neg h, outlineAll_eq_map, label_node, children_node]

/-- The outline of a tree has its kind. -/
theorem fst_label_outline (t : SyntaxTree) : (outline t).label.1 = t.label.kind := by
  by_cases h : t.label.kind = .stringTemplate
  · rw [outline_of_template h, h]
    rfl
  · rw [outline_of_ne h]
    rfl

/-- Every part of an outline is the outline of a part. -/
theorem exists_of_mem_preorder_outline {o : Outline} (h : o ∈ (outline t).preorder) :
    ∃ u ∈ t.preorder, outline u = o := by
  induction t using RoseTree.induction with
  | node label ts ih =>
    obtain rfl | ⟨c, hc, ho⟩ := RoseTree.mem_preorder_iff.1 h
    · exact ⟨_, RoseTree.self_mem_preorder _, rfl⟩
    · by_cases htemplate : label.kind = .stringTemplate
      · rw [outline_of_template (t := .node label ts) htemplate] at hc
        cases hc
      · rw [outline_of_ne (t := .node label ts) htemplate] at hc
        obtain ⟨s, hs, rfl⟩ := List.mem_map.1 hc
        obtain ⟨u, hu, rfl⟩ := ih s hs ho
        exact ⟨u, RoseTree.mem_preorder_iff.2 (.inr ⟨s, hs, hu⟩), rfl⟩

/-- The outline of a tree without templates is all that is said by it. -/
theorem outline_eq_map (h : ∀ o ∈ (outline t).preorder, o.label.1 ≠ .stringTemplate) :
    outline t = t.map Label.shape := by
  induction t using RoseTree.induction with
  | node label ts ih =>
    have hkind : label.kind ≠ .stringTemplate := by
      have hself := h _ (RoseTree.self_mem_preorder _)
      rwa [fst_label_outline, label_node] at hself
    rw [outline_of_ne (t := .node label ts) hkind] at h ⊢
    rw [RoseTree.map_node]
    refine congrArg _ (List.map_congr_left fun s hs => ih s hs fun o ho => ?_)
    exact h o (RoseTree.mem_preorder_iff.2 (.inr ⟨_, List.mem_map_of_mem hs, ho⟩))

end SyntaxTree

/-- Of an outline, no name without a text of its own has a template below it. -/
def NamesApart (o : Outline) : Prop :=
  ∀ u ∈ o.preorder, u.label = (.nameReference, none) →
    ∀ v ∈ u.preorder, v.label.1 ≠ .stringTemplate

instance (o : Outline) : Decidable (NamesApart o) :=
  inferInstanceAs (Decidable (∀ u ∈ o.preorder, _ → ∀ v ∈ u.preorder, _))

/-- Names that are apart in an outline are so everywhere in it. -/
theorem NamesApart.of_mem {o u : Outline} (h : NamesApart o) (hu : u ∈ o.preorder) :
    NamesApart u := fun _ hv => h _ (RoseTree.mem_preorder_trans hv hu)

namespace SyntaxTree

variable {t t' : SyntaxTree}

/-- Whether two trees have one outline, with its names apart. -/
structure SameOutline (t t' : SyntaxTree) : Prop where
  outline_eq : outline t = outline t'
  namesApart : NamesApart (outline t)

namespace SameOutline

/-- To have one outline is symmetric. -/
theorem symm (h : t.SameOutline t') : t'.SameOutline t :=
  ⟨h.outline_eq.symm, h.outline_eq ▸ h.namesApart⟩

/-- Trees with one outline are of one kind. -/
theorem kind_eq (h : t.SameOutline t') : t.label.kind = t'.label.kind := by
  rw [← fst_label_outline, h.outline_eq, fst_label_outline]

/-- Outside of templates, the parts have one outline too. -/
theorem children (h : t.SameOutline t') (hkind : t.label.kind ≠ .stringTemplate) :
    List.Forall₂ SameOutline t.children t'.children := by
  have houtline := h.outline_eq
  have hapart := h.namesApart
  rw [outline_of_ne hkind] at houtline hapart
  rw [outline_of_ne (h.kind_eq ▸ hkind), RoseTree.node.injEq] at houtline
  obtain ⟨-, hsame⟩ := houtline
  rw [← List.forall₂_eq_eq_eq, List.forall₂_map_left_iff, List.forall₂_map_right_iff] at hsame
  refine ((List.forall₂_and_left _ _).2 ⟨fun s hs => ?_, hsame⟩).imp fun s s' h => ⟨h.2, h.1⟩
  exact hapart.of_mem (RoseTree.mem_preorder_of_mem_children (List.mem_map_of_mem hs))

/-- A name has one text: its own one, or that of the same texts below. -/
theorem text_eq (h : t.SameOutline t') (hkind : t.label.kind = .nameReference) :
    t.text = t'.text := by
  have hne : t.label.kind ≠ .stringTemplate := by rw [hkind]; decide
  have hshape : t.label.shape = t'.label.shape := by
    have houtline := h.outline_eq
    rw [outline_of_ne hne, outline_of_ne (h.kind_eq ▸ hne), RoseTree.node.injEq] at houtline
    exact houtline.1
  have hown : t.label.text = t'.label.text := congrArg Prod.snd hshape
  cases htext : t.label.text with
  | some own => rw [text, text, ← hown, htext, Option.getD_some, Option.getD_some]
  | none =>
    have hnone : ∀ o ∈ (outline t).preorder, o.label.1 ≠ .stringTemplate := by
      refine h.namesApart _ (RoseTree.self_mem_preorder _) ?_
      rw [outline_of_ne hne]
      exact Prod.ext hkind htext
    have halike : t.Alike t' := by
      rw [Alike, ← outline_eq_map hnone, ← outline_eq_map (h.outline_eq ▸ hnone), h.outline_eq]
    exact halike.text_eq

end SameOutline

end SyntaxTree

end KotestOutline
