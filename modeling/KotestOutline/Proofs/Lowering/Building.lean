import KotestOutline.Lowering
import KotestOutline.Proofs.Syntax.Traversal

/-!
# Building the tree of a sketch

The numbers of a sketch are those that its nodes get when they are added to an arena one by one. The
tree of that arena is therefore the numbered sketch, so all that is known of the trees of arenas
holds of lowered files.

* `Arena.Adds` is what some calls add: which trees come below which node, everything else that was
  there being as before. `Arena.Adds.trans` is one run of calls after another, and
  `Arena.Adds.addContent` a new node with what is added below it.
* `Arena.Adds.cons`, `Arena.Adds.firstList` and `Arena.Adds.furtherList` are the three things that
  a child list may begin with.
* `Arena.adds_addSketch` is one sketch, and `Arena.toTree_ofSketch` the tree of a whole one.
* `Cst.lower_eq_toTree` is a lowered file, with `Cst.hasDistinctIds_lower`,
  `Cst.map_id_lower_perm`, `Cst.isLinked_lower` and `Cst.walksAgree_lower`.
-/

namespace KotestOutline

/-! ### Sketches -/

namespace Sketch

/-- Where the trees of a numbered child list go: the children below `parent`, and what belongs to
the supertype list that precedes them below that list. -/
def Numbered.below (n : Numbered) (parent : Nat) (list? : Option Nat) (i : Nat) :
    List SyntaxTree :=
  if i = parent then n.children else if list? = some i then n.entries else []

/-- A child list goes below its parent and below the supertype list before it, and below no other
node. -/
theorem Numbered.below_eq_nil {n : Numbered} {parent i : Nat} {list? : Option Nat}
    (hparent : i ≠ parent) (hlist : list? ≠ some i) : n.below parent list? i = [] := by
  rw [below, if_neg hparent, if_neg hlist]

end Sketch

namespace Arena

open Sketch

variable {a b c : Arena} {parent next : Nat} {content : Content}
  {below below' : Nat → List SyntaxTree}

/-! ### One node -/

/-- An added content is the last row of the table, whether it is that of a leaf or of a node. -/
theorem addContent_eq (a : Arena) (parent : Nat) (content : Content) :
    a.addContent parent content = ⟨a.root, a.added.push (parent, content)⟩ := by
  obtain ⟨kind, text, span⟩ := content
  cases text <;> rfl

/-- An added content is one node more. -/
@[simp] theorem size_addContent (a : Arena) (parent : Nat) (content : Content) :
    (a.addContent parent content).size = a.size + 1 := by
  simp [addContent_eq, size]

/-- An added content is a call of the builder, so what was built stays built. -/
theorem IsBuilt.addContent (h : a.IsBuilt) (hparent : parent < a.size) (content : Content) :
    (a.addContent parent content).IsBuilt := by
  obtain ⟨kind, text, span⟩ := content
  cases text with
  | none => exact h.addNode hparent kind span
  | some text => exact h.addLeaf hparent kind text span

/-! ### What calls add -/

/-- Between `a` and `b` calls have added the trees `below i` below each node `i` of `a`, their nodes
under numbers from `a.size` on; the next node has the number `next`. -/
structure Adds (a b : Arena) (next : Nat) (below : Nat → List SyntaxTree) : Prop where
  built : b.IsBuilt
  size_eq : b.size = next
  size_le : a.size ≤ b.size
  content : ∀ i < a.size, b.content? i = a.content? i
  childIds : ∀ i < a.size, b.childIds i = a.childIds i ++ (below i).map (·.label.id)
  describes : ∀ i < a.size, ∀ t ∈ below i, b.Describes t
  fresh : ∀ i < a.size, ∀ t ∈ below i, ∀ u ∈ t.preorder, a.size ≤ u.label.id

namespace Adds

/-- Where no call is made, nothing is added below any node. -/
theorem refl (h : a.IsBuilt) : a.Adds a a.size fun _ => [] where
  built := h
  size_eq := rfl
  size_le := Nat.le_refl _
  content _ _ := rfl
  childIds _ _ := (List.append_nil _).symm
  describes _ _ _ ht := absurd ht List.not_mem_nil
  fresh _ _ _ ht := absurd ht List.not_mem_nil

/-- What was added may be said by any lists that agree on the nodes there were. -/
theorem congr (h : a.Adds b next below) (heq : ∀ i < a.size, below i = below' i) :
    a.Adds b next below' where
  built := h.built
  size_eq := h.size_eq
  size_le := h.size_le
  content := h.content
  childIds i hi := heq i hi ▸ h.childIds i hi
  describes i hi := heq i hi ▸ h.describes i hi
  fresh i hi := heq i hi ▸ h.fresh i hi

/-- Calls that add nothing below some nodes leave a tree of these nodes as it is. -/
theorem describes_of_eq_nil (h : a.Adds b next below) {t : SyntaxTree} (ht : a.Describes t)
    (hnil : ∀ u ∈ t.preorder, below u.label.id = []) : b.Describes t := by
  intro u hu
  obtain ⟨hcontent, hchildren⟩ := ht u hu
  have hlt := lt_size_of_content? hcontent
  rw [h.content _ hlt, h.childIds _ hlt, hnil u hu, List.map_nil, List.append_nil]
  exact ⟨hcontent, hchildren⟩

/-- One run of calls after another. The second one adds nothing below what the first one added. -/
theorem trans {mid : Nat} (h : a.Adds b mid below) (h' : b.Adds c next below')
    (hnil : ∀ i, a.size ≤ i → below' i = []) :
    a.Adds c next fun i => below i ++ below' i where
  built := h'.built
  size_eq := h'.size_eq
  size_le := h.size_le.trans h'.size_le
  content i hi := (h'.content i (hi.trans_le h.size_le)).trans (h.content i hi)
  childIds i hi := by
    rw [h'.childIds i (hi.trans_le h.size_le), h.childIds i hi, List.map_append, List.append_assoc]
  describes i hi t ht := by
    rcases List.mem_append.1 ht with ht | ht
    · exact h'.describes_of_eq_nil (h.describes i hi t ht) fun u hu =>
        hnil _ (h.fresh i hi t ht u hu)
    · exact h'.describes i (hi.trans_le h.size_le) t ht
  fresh i hi t ht u hu := by
    rcases List.mem_append.1 ht with ht | ht
    · exact h.fresh i hi t ht u hu
    · exact h.size_le.trans (h'.fresh i (hi.trans_le h.size_le) t ht u hu)

/-- A new node, with what further calls add below it and elsewhere. -/
theorem addContent (ha : a.IsBuilt) (hparent : parent < a.size)
    (h : (a.addContent parent content).Adds b next below) :
    a.Adds b next fun i =>
      if i = parent then .node ⟨content, a.size⟩ (below a.size) :: below i else below i where
  built := h.built
  size_eq := h.size_eq
  size_le := by
    have hle := h.size_le
    rw [size_addContent] at hle
    omega
  content i hi := by
    rw [h.content i (by rw [size_addContent]; omega), addContent_eq, content?_push,
      if_neg (Nat.ne_of_lt hi)]
  childIds i hi := by
    rw [h.childIds i (by rw [size_addContent]; omega), addContent_eq, childIds_push]
    by_cases hi' : i = parent
    · simp [hi']
    · simp [hi']
  describes i hi t ht := by
    have hnew : a.size < (a.addContent parent content).size := by simp
    have hbelow : ∀ t ∈ below i, b.Describes t := h.describes i (hi.trans hnew)
    split_ifs at ht with hi'
    · rcases List.mem_cons.1 ht with rfl | ht
      · -- the new node: its row is the last one, and its children came after it
        refine describes_of_children ?_ ?_ (h.describes _ hnew)
        · rw [RoseTree.label_node, h.content _ hnew, addContent_eq, content?_push, if_pos rfl]
        · rw [RoseTree.label_node, RoseTree.children_node, h.childIds _ hnew, addContent_eq,
            childIds_push, if_neg (Nat.ne_of_gt hparent), ha.childIds_size, List.nil_append]
      · exact hbelow t ht
    · exact hbelow t ht
  fresh i hi t ht u hu := by
    have hnew : a.size < (a.addContent parent content).size := by simp
    have hbelow : ∀ i ≤ a.size, ∀ t ∈ below i, ∀ u ∈ t.preorder, a.size ≤ u.label.id :=
      fun i hi t ht u hu => hnew.le.trans (h.fresh i (hi.trans_lt hnew) t ht u hu)
    split_ifs at ht with hi'
    · rcases List.mem_cons.1 ht with rfl | ht
      · rcases RoseTree.mem_preorder_iff.1 hu with rfl | ⟨s, hs, hus⟩
        · exact Nat.le_refl _
        · exact hbelow _ (Nat.le_refl _) s hs u hus
      · exact hbelow i hi.le t ht u hu
    · exact hbelow i hi.le t ht u hu

/-! ### Child lists -/

/-- A node that is no supertype list comes below the parent, in front of the later ones. -/
theorem cons {mid : Nat} {list? : Option Nat} {t : SyntaxTree} {later : Numbered}
    (h : a.Adds b mid fun i => if i = parent then [t] else []) (hparent : parent < a.size)
    (hlist : ∀ list, list? = some list → list < a.size)
    (h' : b.Adds c later.next (later.below parent list?)) :
    a.Adds c later.next
      (Numbered.below ⟨t :: later.children, later.entries, later.next⟩ parent list?) := by
  refine (h.trans h' fun i hi => ?_).congr fun i _ => ?_
  · exact Numbered.below_eq_nil (by omega) fun heq => absurd (hlist i heq) (by omega)
  · by_cases hi : i = parent <;> simp [Numbered.below, hi]

/-- The entries of a further supertype list come below the first one, in front of those of later
lists. -/
theorem furtherList {list : Nat} {here later : Numbered}
    (h : a.Adds b here.next (here.below list none)) (hparent : parent < a.size)
    (hlist : list < a.size) (hne : list ≠ parent)
    (h' : b.Adds c later.next (later.below parent (some list))) :
    a.Adds c later.next
      (Numbered.below ⟨later.children, here.children ++ later.entries, later.next⟩ parent
        (some list)) := by
  refine (h.trans h' fun i hi => ?_).congr fun i _ => ?_
  · exact Numbered.below_eq_nil (by omega) (by simp; omega)
  · by_cases hi : i = parent
    · simp [Numbered.below, hi, hne.symm]
    · by_cases hi' : i = list
      · simp [Numbered.below, hi', hne]
      · simp [Numbered.below, hi, hi', Ne.symm hi']

/-- The first supertype list comes below the parent, with the entries of all later lists. -/
theorem firstList {here later : Numbered} (ha : a.IsBuilt) (hparent : parent < a.size)
    (h : (a.addContent parent content).Adds b here.next (here.below a.size none))
    (h' : b.Adds c later.next (later.below parent (some a.size))) :
    a.Adds c later.next
      (Numbered.below ⟨.node ⟨content, a.size⟩ (here.children ++ later.entries) :: later.children,
        [], later.next⟩ parent none) := by
  have hboth := h.trans h' fun i hi => by
    rw [size_addContent] at hi
    exact Numbered.below_eq_nil (by omega) (by simp; omega)
  refine (addContent ha hparent hboth).congr fun i hi => ?_
  by_cases hi' : i = parent
  · simp [Numbered.below, hi', Nat.ne_of_lt hparent, Nat.ne_of_gt hparent]
  · simp [Numbered.below, hi', Nat.ne_of_lt hi, Nat.ne_of_gt hi]

end Adds

/-! ### Sketches -/

mutual

/-- **The nodes of a sketch get the numbers of the numbered sketch**, which comes below `parent`. -/
theorem adds_addSketch : (s : RoseTree Content) → ∀ {a : Arena} (parent : Nat), a.IsBuilt →
    parent < a.size →
      a.Adds (a.addSketch parent s) (numberFrom a.size s).2 fun i =>
        if i = parent then [(numberFrom a.size s).1] else []
  | .node content children, a, parent, ha, hparent => by
    have hnew := adds_addSketches children a.size none (ha.addContent hparent content) (by simp)
      (by simp)
    simp only [size_addContent] at hnew
    rw [addSketch, numberFrom]
    refine (Adds.addContent ha hparent hnew).congr fun i hi => ?_
    simp [Numbered.below, Nat.ne_of_lt hi]

/-- So do those of a child list, the entries of a further supertype list below the first one. -/
theorem adds_addSketches : (ss : List (RoseTree Content)) → ∀ {a : Arena} (parent : Nat)
    (list? : Option Nat), a.IsBuilt → parent < a.size →
      (∀ list, list? = some list → list < a.size ∧ list ≠ parent) →
        a.Adds (a.addSketches parent list? ss) (numberAll a.size list?.isSome ss).next
          ((numberAll a.size list?.isSome ss).below parent list?)
  | [], a, parent, list?, ha, _, _ => by
    refine (Adds.refl ha).congr fun i _ => ?_
    simp [numberAll, Numbered.below]
  | .node content children :: rest, a, parent, list?, ha, hparent, hlist => by
    by_cases hkind : content.kind = .superTypeList
    · cases list? with
      | some list =>
        obtain ⟨hlt, hne⟩ := hlist list rfl
        have hhere := adds_addSketches children list none ha hlt (by simp)
        have hlater := adds_addSketches rest parent (some list) hhere.built
          (hparent.trans_le hhere.size_le)
          fun _ h => Option.some.inj h ▸ ⟨hlt.trans_le hhere.size_le, hne⟩
        rw [hhere.size_eq] at hlater
        simp only [addSketches, numberAll, hkind, if_true, Option.isSome_some]
        exact hhere.furtherList hparent hlt hne hlater
      | none =>
        have hhere := adds_addSketches children a.size none (ha.addContent hparent content)
          (by simp) (by simp)
        -- from here on the list is remembered under the number it got
        have hlater := adds_addSketches rest parent (some a.size) hhere.built
          ((hparent.trans (by simp)).trans_le hhere.size_le)
          fun _ h => Option.some.inj h ▸
            ⟨Nat.lt_of_lt_of_le (by simp) hhere.size_le, Nat.ne_of_gt hparent⟩
        rw [hhere.size_eq] at hlater
        simp only [size_addContent] at hhere hlater
        simp only [addSketches, numberAll, hkind, if_true, Bool.false_eq_true, if_false,
          Option.isSome_none]
        exact .firstList ha hparent hhere hlater
    · have hhere := adds_addSketch (.node content children) parent ha hparent
      have hlater := adds_addSketches rest parent list? hhere.built
        (hparent.trans_le hhere.size_le)
        fun list h => ⟨(hlist list h).1.trans_le hhere.size_le, (hlist list h).2⟩
      rw [hhere.size_eq] at hlater
      simp only [addSketches, numberAll, hkind, if_false]
      exact hhere.cons hparent (fun list h => (hlist list h).1) hlater

end

/-- From the root on the calls add the children of the numbered sketch. -/
theorem adds_ofSketch (s : Sketch) :
    (Arena.new s.label.kind s.label.span).Adds (ofSketch s) (numberFrom 0 s).2 fun i =>
      if i = 0 then s.number.children else [] := by
  obtain ⟨content, children⟩ := s
  have hadds := adds_addSketches children 0 none (.new content.kind content.span)
    (Nat.succ_pos 0) (by simp)
  refine hadds.congr fun i _ => ?_
  simp only [Numbered.below, reduceCtorEq, if_false]
  rfl

/-- **The calls that add the nodes of a sketch build the numbered sketch**, if its root is no
leaf. -/
theorem toTree_ofSketch {s : Sketch} (htext : s.label.text = none) :
    (ofSketch s).toTree = s.number := by
  have hadds := adds_ofSketch s
  obtain ⟨⟨kind, text, span⟩, children⟩ := s
  obtain rfl : text = none := htext
  have hroot : 0 < (Arena.new kind span).size := Nat.succ_pos 0
  refine hadds.built.describes_toTree.eq ?_ rfl
  exact describes_of_children (hadds.content 0 hroot) (hadds.childIds 0 hroot).symm
    (hadds.describes 0 hroot)

end Arena

/-! ### Files -/

namespace Cst

variable (src : Source) (t : Cst)

/-- The tree of a file is what the calls build that add its nodes in the order of its rows. -/
theorem lower_eq_toTree : Cst.lower src t = (Arena.ofSketch (Cst.toSketch src t)).toTree :=
  (Arena.toTree_ofSketch rfl).symm

/-- The tree of a file numbers each of its nodes differently. -/
theorem hasDistinctIds_lower : (Cst.lower src t).HasDistinctIds := by
  rw [lower_eq_toTree]
  exact Arena.hasDistinctIds_toTree _

/-- It has the numbers from 0 on, each once. -/
theorem map_id_lower_perm :
    ((Cst.lower src t).nodes.map Node.id).Perm (List.range (Cst.lower src t).nodes.length) := by
  have hperm := (Arena.adds_ofSketch (Cst.toSketch src t)).built.map_id_nodes_perm
  rw [← lower_eq_toTree] at hperm
  have hlength := hperm.length_eq
  rw [List.length_map, List.length_range] at hlength
  rwa [hlength]

/-- Its parents and child lists agree. -/
theorem isLinked_lower : (Cst.lower src t).IsLinked := by
  rw [lower_eq_toTree]
  exact (Arena.adds_ofSketch (Cst.toSketch src t)).built.isLinked

/-- So do the ways up and down in it. -/
theorem walksAgree_lower : (Cst.lower src t).WalksAgree :=
  (isLinked_lower src t).walksAgree (hasDistinctIds_lower src t)

end Cst

end KotestOutline
