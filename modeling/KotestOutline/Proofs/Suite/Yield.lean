import KotestOutline.Proofs.Lowering.Numbered
import KotestOutline.Proofs.Recognition.Match
import KotestOutline.Proofs.Suite.Rows
import KotestOutline.Proofs.Syntax.Order

/-!
# What a sketch contributes to a listing

The listing of a class is put together from what each subtree contributes. A contribution depends on
the sketch that a node shows and on the containers around it, not on the numbers and the rest of the
tree, so it can be computed piece by piece.

* `Node.Shows` relates a node to its sketch, `Node.entriesAt` is the contribution of a node.
* `Node.Inside` is what a node has to know about its surroundings: the names of the containers, and
  that its class is confirmed where the style asks for that.
* `Sketch.Yields` and `Sketch.YieldsAll` say what a sketch, or a list of them, contributes.
-/

namespace KotestOutline

/-- Each member of a list has one in the other list that it is related to. -/
theorem exists_mem_of_forall₂ {α β : Type} {R : α → β → Prop} {as : List α} {bs : List β} {a : α}
    (h : List.Forall₂ R as bs) (ha : a ∈ as) : ∃ b ∈ bs, R a b := by
  induction h with
  | nil => cases ha
  | @cons x y as bs hxy _ ih =>
    rcases List.mem_cons.1 ha with rfl | ha
    · exact ⟨y, List.mem_cons_self, hxy⟩
    · obtain ⟨b, hb, hab⟩ := ih ha
      exact ⟨b, List.mem_cons_of_mem y hb, hab⟩

/-! ### Showing a sketch -/

namespace Node

variable {n c : Node} {s : Sketch}

/-- Whether the subtree at a node is a numbered form of a sketch. -/
def Shows (n : Node) (s : Sketch) : Prop := s.NumbersTo n.tree

/-- A node that shows a sketch has its content. -/
theorem Shows.content_eq (h : n.Shows s) : n.tree.label.toContent = s.label :=
  Sketch.NumbersTo.content_eq h

/-- A node that shows a sketch has its kind. -/
theorem Shows.kind_eq (h : n.Shows s) : n.kind = s.label.kind :=
  congrArg Content.kind h.content_eq

/-- A node that shows a sketch is of the same kinds. -/
theorem Shows.is_eq (h : n.Shows s) (kind : NodeKind) : n.is kind = (s.label.kind == kind) := by
  rw [Node.is, h.kind_eq]

/-- The children of a node show the children of its sketch, unless supertype lists are merged. -/
theorem Shows.children (h : n.Shows s) (hone : s.children.countP Sketch.isSuperTypeList ≤ 1) :
    List.Forall₂ Shows n.children s.children := by
  rw [Node.children, List.forall₂_map_left_iff]
  exact (Sketch.NumbersTo.children h hone).flip

/-- A node that shows a leaf has the text of the leaf. -/
theorem Shows.text_leaf {kind : NodeKind} {text : List Char} {span : Span}
    (h : n.Shows (.leaf kind text span)) : n.text = String.ofList text := by
  have htext : n.tree.label.text = some (String.ofList text) :=
    congrArg Content.text h.content_eq
  rw [Node.text, SyntaxTree.text, htext, Option.getD_some]

/-- A node that shows a reference has the text of the identifier. -/
theorem Shows.text_nameReference {src : Source} {row : Row}
    (h : n.Shows (Part.nameReference src row)) : n.text = String.ofList (src.rowText row) := by
  obtain ⟨next, htree⟩ := h
  unfold Node.text
  rw [← htree]
  simp [Part.nameReference, Sketch.composite, Sketch.leaf, Sketch.numberFrom, Sketch.numberAll,
    SyntaxTree.text, SyntaxTree.ownTextsAll, SyntaxTree.ownTexts]

/-- A content that is nowhere in the sketch is nowhere under the node. -/
theorem Shows.forall_kind_ne (h : n.Shows s) (kind : NodeKind) (hkind : kind ≠ .superTypeList)
    (hs : ∀ u ∈ s.preorder, u.label.kind ≠ kind) :
    n.kind ≠ kind ∧ ∀ m ∈ n.descendants, m.kind ≠ kind := by
  have hsub : ∀ t ∈ n.tree.preorder, t.label.kind ≠ kind := by
    intro t ht hsame
    obtain ⟨v, hv, hvt⟩ := Sketch.NumbersTo.exists_of_mem_preorder h ht (by rwa [hsame])
    have hcontent := congrArg Content.kind hvt.content_eq
    exact hs v hv (hcontent.symm.trans hsame)
  have htrees : ∀ m : Node, ∀ d ∈ m.descendants, d.tree ∈ m.tree.preorder := by
    intro m
    induction m using Node.induction with
    | step m ih =>
      intro d hd
      obtain ⟨c, hc, -, hdc⟩ := mem_below_iff.1 hd
      obtain ⟨t, ht, rfl⟩ := List.mem_map.1 hc
      refine RoseTree.mem_preorder_iff.2 (Or.inr ⟨t, ht, ?_⟩)
      rcases hdc with rfl | hdc
      · exact RoseTree.self_mem_preorder t
      · exact ih _ hc d hdc
  exact ⟨hsub _ (RoseTree.self_mem_preorder _), fun m hm => hsub _ (htrees n m hm)⟩

/-! ### Contributions -/

variable {style : SpecStyle} {membership : Membership} {outer : List String}

/-- The entries that a listing gets from a node and what is under it. -/
def entriesAt (style : SpecStyle) (membership : Membership) (n : Node) : List ListingEntry :=
  ((if n.kind.isClassOrObject then [] else n :: n.below NodeKind.isClassOrObject).filterMap
    (style.recognize? membership)).map RecognizedTest.entry

/-- A listing is put together from the children of the class. -/
theorem map_entry_listTests (style : SpecStyle) (membership : Membership) (n : Node) :
    (listTests style membership n).map RecognizedTest.entry =
      n.children.flatMap (entriesAt style membership) := by
  rw [listTests_eq_filterMap, below_eq, List.filterMap_flatMap, List.map_flatMap]
  rfl

/-- The contribution of a node that is no class: its own entry and those of its children. -/
theorem entriesAt_eq (hn : n.kind.isClassOrObject = false) :
    entriesAt style membership n =
      ((style.recognize? membership n).map RecognizedTest.entry).toList ++
        n.children.flatMap (entriesAt style membership) := by
  rw [entriesAt, hn, if_neg Bool.false_ne_true, ← map_entry_listTests, listTests_eq_filterMap,
    List.filterMap_cons]
  cases style.recognize? membership n <;> rfl

/-! ### Surroundings -/

/-- The containers of a child are those of its parent, and the parent if it is one itself. -/
theorem containerNames_of_mem_children (containerName? : Node → Option String)
    (hc : c ∈ n.children) :
    containerNames containerName? c = containerNames containerName? n ++
      (if n.is .callExpression then (containerName? n).toList else []) := by
  rw [containerNames, containerNames, ancestors_of_mem_children hc, List.filter_cons]
  cases hcall : n.is .callExpression with
  | false => simp
  | true => cases hname : containerName? n <;> simp [hname]

/-- Whether a node is inside these containers, and in a confirmed spec if the style asks for it. -/
structure Inside (style : SpecStyle) (membership : Membership) (outer : List String) (n : Node) :
    Prop where
  containers : containerNames style.containerName? n = outer
  confirmed : style.requiresMembership = true →
    n.enclosingClass?.any (membership · style) = true

/-- A child of a node is inside the containers around the node, and inside the node if that is a
container. -/
theorem Inside.of_mem_children (h : n.Inside style membership outer)
    (hclass : n.kind.isClassOrObject = false) (hc : c ∈ n.children) :
    c.Inside style membership
      (outer ++ if n.is .callExpression then (style.containerName? n).toList else []) where
  containers := by rw [containerNames_of_mem_children _ hc, h.containers]
  confirmed := by
    rw [enclosingClass?_of_parent? (parent?_of_mem_children hc) hclass]
    exact h.confirmed

/-- A node that is no container leaves its children inside the same containers. -/
theorem Inside.child (h : n.Inside style membership outer)
    (hclass : n.kind.isClassOrObject = false)
    (hname : n.kind = .callExpression → style.containerName? n = none) (hc : c ∈ n.children) :
    c.Inside style membership outer := by
  have hinside := h.of_mem_children hclass hc
  by_cases hcall : n.kind = .callExpression
  · rwa [hname hcall, Option.toList_none, ite_self, List.append_nil] at hinside
  · rwa [if_neg (by simpa [Node.is] using hcall), List.append_nil] at hinside

/-- A match inside a confirmed spec is recognized. -/
theorem Inside.recognize?_eq_some {t : RecognizedTest} (h : n.Inside style membership outer)
    (hmatch : style.tryMatch n = .ok t) : style.recognize? membership n = some t :=
  SpecStyle.recognize?_eq_some_iff.2 (SpecStyle.tryRecognize_eq_ok_iff.2 ⟨hmatch, h.confirmed⟩)

/-- A node that does not match is not recognized. -/
theorem recognize?_eq_none (h : ∀ t, style.tryMatch n ≠ .ok t) :
    style.recognize? membership n = none := by
  cases hfound : style.recognize? membership n with
  | none => rfl
  | some t => exact absurd (SpecStyle.tryMatch_of_recognize? hfound) (h t)

end Node

/-- The nodes of a file show what the rows in it lower to. -/
theorem shows_children_lower (src : Source) (file : Row) (ts : List Cst) :
    List.Forall₂ Node.Shows (Node.ofTree (Cst.lower src (.node file ts))).children
      (ts.flatMap (Cst.sketches src)) := by
  have hroot : (Node.ofTree (Cst.lower src (.node file ts))).Shows
      (Cst.toSketch src (.node file ts)) := Sketch.numbersTo_number _
  have hsketch : (Cst.toSketch src (.node file ts)).children = ts.flatMap (Cst.sketches src) := by
    show Part.sketchAll (Cst.toPart src (.node file ts)).children = _
    rw [Cst.children_toPart, RoseTree.children_node, Cst.sketchAll_map_toPart]
  rw [← hsketch]
  apply hroot.children
  rw [hsketch, Cst.countP_flatMap_sketches]
  exact Nat.zero_le 1

/-! ### Yields -/

namespace Sketch

variable {style : SpecStyle} {membership : Membership} {outer : List String}

/-- Whether every node that shows a sketch, inside these containers, contributes these entries. -/
def Yields (style : SpecStyle) (membership : Membership) (outer : List String) (s : Sketch)
    (entries : List ListingEntry) : Prop :=
  ∀ n : Node, n.Shows s → n.Inside style membership outer →
    n.entriesAt style membership = entries

/-- Whether all nodes that show the sketches of a list contribute these entries together. -/
def YieldsAll (style : SpecStyle) (membership : Membership) (outer : List String) (ss : List Sketch)
    (entries : List ListingEntry) : Prop :=
  ∀ ns : List Node, List.Forall₂ Node.Shows ns ss →
    (∀ n ∈ ns, n.Inside style membership outer) →
      ns.flatMap (Node.entriesAt style membership) = entries

/-- No sketches contribute nothing. -/
theorem yieldsAll_nil : YieldsAll style membership outer [] [] := by
  intro ns hshow _
  obtain rfl := List.forall₂_nil_right_iff.1 hshow
  rfl

/-- A sketch in front of others contributes in front of them. -/
theorem YieldsAll.cons {s : Sketch} {ss : List Sketch} {front back : List ListingEntry}
    (hs : Yields style membership outer s front) (hss : YieldsAll style membership outer ss back) :
    YieldsAll style membership outer (s :: ss) (front ++ back) := by
  intro ns hshow hinside
  obtain ⟨n, ms, hn, hms, rfl⟩ := List.forall₂_cons_right_iff.1 hshow
  rw [List.flatMap_cons, hs n hn (hinside n List.mem_cons_self),
    hss ms hms fun m hm => hinside m (List.mem_cons_of_mem n hm)]

/-- The nodes that show one sketch are one node. -/
theorem shows_singleton {ns : List Node} {s : Sketch} (h : List.Forall₂ Node.Shows ns [s]) :
    ∃ a, ns = [a] ∧ a.Shows s := by
  obtain ⟨a, rest, ha, hrest, rfl⟩ := List.forall₂_cons_right_iff.1 h
  obtain rfl := List.forall₂_nil_right_iff.1 hrest
  exact ⟨a, rfl, ha⟩

/-- The nodes that show two sketches are two nodes. -/
theorem shows_pair {ns : List Node} {s₁ s₂ : Sketch} (h : List.Forall₂ Node.Shows ns [s₁, s₂]) :
    ∃ a b, ns = [a, b] ∧ a.Shows s₁ ∧ b.Shows s₂ := by
  obtain ⟨a, rest, ha, hrest, rfl⟩ := List.forall₂_cons_right_iff.1 h
  obtain ⟨b, rfl, hb⟩ := shows_singleton hrest
  exact ⟨a, b, rfl, ha, hb⟩

/-- The nodes that show three sketches are three nodes. -/
theorem shows_triple {ns : List Node} {s₁ s₂ s₃ : Sketch}
    (h : List.Forall₂ Node.Shows ns [s₁, s₂, s₃]) :
    ∃ a b c, ns = [a, b, c] ∧ a.Shows s₁ ∧ b.Shows s₂ ∧ c.Shows s₃ := by
  obtain ⟨a, rest, ha, hrest, rfl⟩ := List.forall₂_cons_right_iff.1 h
  obtain ⟨b, c, rfl, hb, hc⟩ := shows_pair hrest
  exact ⟨a, b, c, rfl, ha, hb, hc⟩

/-- The nodes that show two lists of sketches are those of the first and those of the second. -/
theorem exists_append_of_shows {ss ss' : List Sketch} {ns : List Node}
    (h : List.Forall₂ Node.Shows ns (ss ++ ss')) :
    ∃ ms ms', List.Forall₂ Node.Shows ms ss ∧ List.Forall₂ Node.Shows ms' ss' ∧ ns = ms ++ ms' := by
  refine ⟨ns.take ss.length, ns.drop ss.length, ?_, ?_, ?_⟩
  · exact List.forall₂_take_append ns ss ss' h
  · exact List.forall₂_drop_append ns ss ss' h
  · exact (List.take_append_drop ss.length ns).symm

/-- The first node of a kind shows the first sketch of that kind. -/
theorem find?_of_shows {ns : List Node} {ss : List Sketch} (kind : NodeKind)
    (h : List.Forall₂ Node.Shows ns ss) :
    Option.Rel Node.Shows (ns.find? (·.is kind)) (ss.find? (·.label.kind == kind)) := by
  induction h with
  | nil => exact .none
  | @cons n s ns ss hshow _ ih =>
    rw [List.find?_cons, List.find?_cons, hshow.is_eq]
    cases s.label.kind == kind with
    | true => exact .some hshow
    | false => exact ih

/-- The first child of a kind shows the first sketch of that kind among the children, if any. -/
theorem firstChild?_of_shows {s : Sketch} {n : Node} (kind : NodeKind) (h : n.Shows s)
    (hone : s.children.countP isSuperTypeList ≤ 1) :
    Option.Rel Node.Shows (n.firstChild? kind) (s.children.find? (·.label.kind == kind)) :=
  find?_of_shows kind (h.children hone)

/-- A node finds the first child of a kind where the sketch has it. -/
theorem exists_firstChild?_of_shows {s u : Sketch} {n : Node} {kind : NodeKind} (h : n.Shows s)
    (hone : s.children.countP isSuperTypeList ≤ 1)
    (hu : s.children.find? (·.label.kind == kind) = some u) :
    ∃ m, n.firstChild? kind = some m ∧ m.Shows u := by
  have hrel := firstChild?_of_shows kind h hone
  rw [hu] at hrel
  generalize n.firstChild? kind = found at hrel
  cases hrel with
  | some hmu => exact ⟨_, rfl, hmu⟩

/-- A node finds no child of a kind if the sketch has none. -/
theorem firstChild?_eq_none_of_shows {s : Sketch} {n : Node} {kind : NodeKind} (h : n.Shows s)
    (hone : s.children.countP isSuperTypeList ≤ 1)
    (hnone : s.children.find? (·.label.kind == kind) = none) : n.firstChild? kind = none := by
  have hrel := firstChild?_of_shows kind h hone
  rw [hnone] at hrel
  generalize n.firstChild? kind = found at hrel
  cases hrel with
  | none => rfl

/-- Two lists of sketches contribute one after the other. -/
theorem YieldsAll.append {ss ss' : List Sketch} {front back : List ListingEntry}
    (hs : YieldsAll style membership outer ss front)
    (hs' : YieldsAll style membership outer ss' back) :
    YieldsAll style membership outer (ss ++ ss') (front ++ back) := by
  intro ns hshow hinside
  obtain ⟨ms, ms', hms, hms', rfl⟩ := exists_append_of_shows hshow
  rw [List.flatMap_append, hs ms hms fun m hm => hinside m (List.mem_append_left _ hm),
    hs' ms' hms' fun m hm => hinside m (List.mem_append_right _ hm)]

/-- One sketch contributes what it contributes in a list of its own. -/
theorem yieldsAll_singleton {s : Sketch} {entries : List ListingEntry}
    (h : Yields style membership outer s entries) :
    YieldsAll style membership outer [s] entries := by
  have hall := YieldsAll.cons h yieldsAll_nil
  rwa [List.append_nil] at hall

/-! ### Sketches without calls -/

/-- Without a call nothing is recognized. -/
theorem yields_nil {s : Sketch} (h : s.Everywhere IsCallFree) :
    Yields style membership outer s [] := by
  intro n hshow _
  obtain ⟨hn, hbelow⟩ := hshow.forall_kind_ne .callExpression (by decide) fun u hu => (h u hu).1
  have hmatch : ∀ m, m = n ∨ m ∈ n.descendants → style.recognize? membership m = none := by
    intro m hm
    apply Node.recognize?_eq_none
    intro t ht
    rcases SpecStyle.exists_call_of_tryMatch ht with hcall | ⟨d, hd, hcall⟩
    · rcases hm with rfl | hm
      · exact hn hcall
      · exact hbelow m hm hcall
    · apply hbelow d _ hcall
      rcases hm with rfl | hm
      · exact Node.mem_descendants_of_mem_children hd
      · exact (Node.descendants_sublist hm).subset (Node.mem_descendants_of_mem_children hd)
  unfold Node.entriesAt
  rw [List.map_eq_nil_iff, List.filterMap_eq_nil_iff]
  intro m hm
  split_ifs at hm
  · cases hm
  · rcases List.mem_cons.1 hm with rfl | hm
    · exact hmatch m (Or.inl rfl)
    · exact hmatch m (Or.inr (Node.mem_descendants_of_mem_below hm))

/-- Sketches without calls contribute nothing. -/
theorem yieldsAll_nil_of_forall {ss : List Sketch} (h : ∀ s ∈ ss, s.Everywhere IsCallFree) :
    YieldsAll style membership outer ss [] := by
  induction ss with
  | nil => exact yieldsAll_nil
  | cons s ss ih =>
    exact YieldsAll.cons (yields_nil (h s List.mem_cons_self))
      (ih fun u hu => h u (List.mem_cons_of_mem s hu))

/-- Sketches without calls do not count in front of others. -/
theorem YieldsAll.append_left {ss ss' : List Sketch} {entries : List ListingEntry}
    (h : ∀ s ∈ ss, s.Everywhere IsCallFree) (hs' : YieldsAll style membership outer ss' entries) :
    YieldsAll style membership outer (ss ++ ss') entries :=
  (yieldsAll_nil_of_forall h).append hs'

/-- Sketches without calls do not count behind others. -/
theorem YieldsAll.append_right {ss ss' : List Sketch} {entries : List ListingEntry}
    (hs : YieldsAll style membership outer ss entries) (h : ∀ s ∈ ss', s.Everywhere IsCallFree) :
    YieldsAll style membership outer (ss ++ ss') entries := by
  have happend := hs.append (yieldsAll_nil_of_forall h)
  rwa [List.append_nil] at happend

/-- Around one sketch, sketches without calls add nothing. -/
theorem yieldsAll_between {s : Sketch} {front back : List Sketch} {entries : List ListingEntry}
    (hfront : ∀ u ∈ front, u.Everywhere IsCallFree) (h : Yields style membership outer s entries)
    (hback : ∀ u ∈ back, u.Everywhere IsCallFree) :
    YieldsAll style membership outer (front ++ s :: back) entries := by
  have hrest := (yieldsAll_singleton h).append_right hback
  exact YieldsAll.append_left hfront hrest

/-- A node that shows such a sketch lacks no token. -/
theorem hasMissingChild_of_shows {s : Sketch} {n : Node} (h : s.Everywhere IsCallFree)
    (hshow : n.Shows s) : n.hasMissingChild = false := by
  unfold Node.hasMissingChild
  rw [List.any_eq_false]
  intro c hc
  have hne := (hshow.forall_kind_ne .missing (by decide) fun u hu => (h u hu).2).2 c
    (Node.mem_descendants_of_mem_children hc)
  simpa [Node.is] using hne

/-! ### Composites -/

/-- A node that matches nothing and is neither class nor container contributes what its children
do. -/
theorem yields_of_children {s : Sketch} {entries : List ListingEntry}
    (hclass : s.label.kind.isClassOrObject = false)
    (hone : s.children.countP isSuperTypeList ≤ 1)
    (hmatch : ∀ n : Node, n.Shows s → ∀ t, style.tryMatch n ≠ .ok t)
    (hcontainer : ∀ n : Node, n.Shows s → n.kind = .callExpression → style.containerName? n = none)
    (h : YieldsAll style membership outer s.children entries) :
    Yields style membership outer s entries := by
  intro n hshow hinside
  have hkind : n.kind.isClassOrObject = false := by rw [hshow.kind_eq, hclass]
  rw [Node.entriesAt_eq hkind, Node.recognize?_eq_none (hmatch n hshow)]
  apply h n.children (hshow.children hone)
  intro c hc
  exact hinside.child hkind (hcontainer n hshow) hc

/-- Most composites only pass on what is below them. -/
theorem yields_composite {kind : NodeKind} {span : Span} {ss : List Sketch}
    {entries : List ListingEntry}
    (hclass : kind.isClassOrObject = false) (hdeclare : kind.mayDeclareTest = false)
    (hone : ss.countP isSuperTypeList ≤ 1) (h : YieldsAll style membership outer ss entries) :
    Yields style membership outer (.composite kind span ss) entries := by
  have hkind : ∀ n : Node, n.Shows (.composite kind span ss) → n.kind.mayDeclareTest = false := by
    intro n hshow
    rw [hshow.kind_eq]
    exact hdeclare
  refine yields_of_children hclass hone ?_ ?_ h
  · intro n hshow t ht
    have hmay := SpecStyle.kind_of_tryMatch ht
    rw [hkind n hshow] at hmay
    cases hmay
  · intro n hshow hcall
    have hmay := hkind n hshow
    rw [hcall] at hmay
    cases hmay

end Sketch

end KotestOutline
