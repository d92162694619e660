import KotestOutline.Lowering
import KotestOutline.Proofs.Syntax.Walk
import Mathlib.Data.List.Forall2

/-!
# Numbered sketches

Numbering keeps contents and shape, except that a second supertype list in a child list is merged
into the first. So every numbered subtree but a supertype list is a sketch numbered from somewhere,
and where a child list has at most one supertype list its numbered form has the same children.

* `Sketch.NumbersTo` relates a sketch to its numbered forms.
* `Sketch.NumbersTo.children` and `Sketch.NumbersTo.exists_child` go from a sketch to the numbered
  children.
* `Sketch.NumbersTo.exists_of_mem_preorder` goes back, from a numbered subtree to its sketch.
-/

namespace KotestOutline.Sketch

variable {s : Sketch} {t u : SyntaxTree}

/-- Whether a tree is the sketch numbered from some number on. -/
def NumbersTo (s : Sketch) (t : SyntaxTree) : Prop := ∃ next, (numberFrom next s).1 = t

/-- The numbered tree of a sketch is the sketch numbered from zero on. -/
theorem numbersTo_number (s : Sketch) : s.NumbersTo s.number := ⟨0, rfl⟩

/-- Numbering changes no content. -/
theorem NumbersTo.content_eq (h : s.NumbersTo t) : t.label.toContent = s.label := by
  obtain ⟨next, rfl⟩ := h
  obtain ⟨content, children⟩ := s
  rfl

/-- Whether a sketch is a supertype list. -/
def isSuperTypeList (s : Sketch) : Bool := s.label.kind == .superTypeList

/-- Sketches that are no supertype lists count as none of them. -/
theorem countP_isSuperTypeList_eq_zero {ss : List Sketch}
    (h : ∀ s ∈ ss, s.isSuperTypeList = false) : ss.countP isSuperTypeList = 0 := by
  apply List.countP_eq_zero.2
  intro s hs
  rw [h s hs]
  exact Bool.false_ne_true

/-- Away from supertype lists a child list is numbered child by child. -/
theorem numberAll_cons (h : s.isSuperTypeList = false) (next : Nat) (listed : Bool)
    (ss : List Sketch) :
    numberAll next listed (s :: ss) =
      ⟨(numberFrom next s).1 :: (numberAll (numberFrom next s).2 listed ss).children,
        (numberAll (numberFrom next s).2 listed ss).entries,
        (numberAll (numberFrom next s).2 listed ss).next⟩ := by
  obtain ⟨content, children⟩ := s
  have hkind : content.kind ≠ .superTypeList := by
    simpa [isSuperTypeList] using h
  simp only [numberAll, hkind, if_false]

/-- So is a supertype list to which no later one adds entries. -/
theorem numberAll_cons_superTypeList (h : s.isSuperTypeList = true) (next : Nat)
    {ss : List Sketch} (hentries : (numberAll (numberFrom next s).2 true ss).entries = []) :
    numberAll next false (s :: ss) =
      ⟨(numberFrom next s).1 :: (numberAll (numberFrom next s).2 true ss).children, [],
        (numberAll (numberFrom next s).2 true ss).next⟩ := by
  obtain ⟨content, children⟩ := s
  have hkind : content.kind = .superTypeList := by simpa [isSuperTypeList] using h
  rw [numberFrom] at hentries ⊢
  simp only [numberAll, hkind, if_true, Bool.false_eq_true, if_false, hentries, List.append_nil]

section Lone

variable {listed : Bool} {ss : List Sketch}

/-- What follows a sketch has no supertype list, if the sketch is one. -/
theorem countP_tail_le (h : (s :: ss).countP isSuperTypeList + listed.toNat ≤ 1) :
    ss.countP isSuperTypeList + (listed || s.isSuperTypeList).toNat ≤ 1 := by
  cases hlist : s.isSuperTypeList with
  | false =>
    rw [List.countP_cons_of_neg (by simp [hlist])] at h
    rwa [Bool.or_false]
  | true =>
    rw [List.countP_cons_of_pos hlist] at h
    rw [Bool.or_true, Bool.toNat_true]
    omega

/-- Where at most one supertype list is around, the first sketch is numbered and then the others,
and no entries are left to another list. -/
theorem numberAll_cons_of_entries (h : (s :: ss).countP isSuperTypeList + listed.toNat ≤ 1)
    (next : Nat)
    (hentries : (numberAll (numberFrom next s).2 (listed || s.isSuperTypeList) ss).entries = []) :
    numberAll next listed (s :: ss) =
      ⟨(numberFrom next s).1 ::
          (numberAll (numberFrom next s).2 (listed || s.isSuperTypeList) ss).children, [],
        (numberAll (numberFrom next s).2 (listed || s.isSuperTypeList) ss).next⟩ := by
  cases hlist : s.isSuperTypeList with
  | false =>
    rw [hlist, Bool.or_false] at hentries
    rw [numberAll_cons hlist, hentries, Bool.or_false]
  | true =>
    cases listed with
    | true => simp [List.countP_cons_of_pos hlist] at h
    | false =>
      rw [hlist] at hentries
      exact numberAll_cons_superTypeList hlist next hentries

/-- Where no supertype list follows an earlier one, no entries are left over. -/
theorem entries_numberAll_of_lone (h : ss.countP isSuperTypeList + listed.toNat ≤ 1) (next : Nat) :
    (numberAll next listed ss).entries = [] := by
  induction ss generalizing next listed with
  | nil => rfl
  | cons s ss ih => rw [numberAll_cons_of_entries h next (ih (countP_tail_le h) _)]

/-- There each sketch is numbered in its place. -/
theorem numberAll_cons_of_lone (h : (s :: ss).countP isSuperTypeList + listed.toNat ≤ 1)
    (next : Nat) :
    numberAll next listed (s :: ss) =
      ⟨(numberFrom next s).1 ::
          (numberAll (numberFrom next s).2 (listed || s.isSuperTypeList) ss).children, [],
        (numberAll (numberFrom next s).2 (listed || s.isSuperTypeList) ss).next⟩ :=
  numberAll_cons_of_entries h next (entries_numberAll_of_lone (countP_tail_le h) _)

/-- Where at most one supertype list is around, the numbered children are the sketches one by
one. -/
theorem forall₂_numberAll (h : ss.countP isSuperTypeList + listed.toNat ≤ 1) (next : Nat) :
    List.Forall₂ NumbersTo ss (numberAll next listed ss).children := by
  induction ss generalizing next listed with
  | nil => exact List.Forall₂.nil
  | cons s ss ih =>
    rw [numberAll_cons_of_lone h]
    exact List.Forall₂.cons ⟨next, rfl⟩ (ih (countP_tail_le h) _)

end Lone

/-- A sketch with at most one supertype list among its children keeps them all in their places. -/
theorem NumbersTo.children (h : s.NumbersTo t) (hone : s.children.countP isSuperTypeList ≤ 1) :
    List.Forall₂ NumbersTo s.children t.children := by
  obtain ⟨next, rfl⟩ := h
  obtain ⟨content, children⟩ := s
  have hlone : children.countP isSuperTypeList + Bool.toNat false ≤ 1 := hone
  exact forall₂_numberAll hlone (next + 1)

/-- A sketch that is no supertype list is numbered as a whole, whatever is around it. -/
theorem exists_mem_numberAll {c : Sketch} (hlist : c.isSuperTypeList = false) (ss : List Sketch)
    (next : Nat) (listed : Bool) (hc : c ∈ ss) :
    ∃ u ∈ (numberAll next listed ss).children, c.NumbersTo u := by
  induction ss generalizing next listed with
  | nil => cases hc
  | cons s ss ih =>
    cases hs : s.isSuperTypeList with
    | false =>
      rw [numberAll_cons hs]
      rcases List.mem_cons.1 hc with rfl | hc
      · exact ⟨_, List.mem_cons_self, next, rfl⟩
      · obtain ⟨u, hu, hcu⟩ := ih (numberFrom next s).2 listed hc
        exact ⟨u, List.mem_cons_of_mem _ hu, hcu⟩
    | true =>
      have hrest : c ∈ ss := by
        rcases List.mem_cons.1 hc with rfl | hrest
        · rw [hs] at hlist
          cases hlist
        · exact hrest
      obtain ⟨content, children⟩ := s
      have hkind : content.kind = .superTypeList := by simpa [isSuperTypeList] using hs
      cases listed with
      | true =>
        obtain ⟨u, hu, hcu⟩ := ih (numberAll next false children).next true hrest
        exact ⟨u, by simpa [numberAll, hkind] using hu, hcu⟩
      | false =>
        obtain ⟨u, hu, hcu⟩ := ih (numberAll (next + 1) false children).next true hrest
        exact ⟨u, by simp [numberAll, hkind, hu], hcu⟩

/-- Every child that is no supertype list is numbered among the children. -/
theorem NumbersTo.exists_child {c : Sketch} (h : s.NumbersTo t) (hc : c ∈ s.children)
    (hlist : c.isSuperTypeList = false) : ∃ u ∈ t.children, c.NumbersTo u := by
  obtain ⟨next, rfl⟩ := h
  obtain ⟨content, children⟩ := s
  exact exists_mem_numberAll hlist children (next + 1) false hc

/-! ### Back to the sketch -/

/-- Whether a numbered tree comes from a sketch: it has the content of the sketch, and it is the
sketch numbered from somewhere, unless it is a supertype list. -/
def StemsFrom (u : SyntaxTree) (v : Sketch) : Prop :=
  u.label.toContent = v.label ∧ (u.label.kind ≠ .superTypeList → v.NumbersTo u)

/-- A numbered sketch comes from that sketch. -/
theorem NumbersTo.stemsFrom {v : Sketch} (h : v.NumbersTo u) : StemsFrom u v :=
  ⟨h.content_eq, fun _ => h⟩

mutual

/-- Every tree in a numbered sketch comes from a sketch in it. -/
theorem exists_of_mem_numberFrom : (s : RoseTree Content) → ∀ next,
    ∀ u ∈ (numberFrom next s).1.preorder, ∃ v ∈ s.preorder, StemsFrom u v
  | .node content children, next, u, hu => by
    rcases RoseTree.mem_preorder_iff.1 hu with rfl | ⟨t, ht, hu⟩
    · exact ⟨_, RoseTree.self_mem_preorder _, NumbersTo.stemsFrom ⟨next, rfl⟩⟩
    · obtain ⟨s, hs, v, hv, hvu⟩ :=
        exists_of_mem_numberAll children (next + 1) false t (Or.inl ht) u hu
      exact ⟨v, RoseTree.mem_preorder_iff.2 (Or.inr ⟨s, hs, hv⟩), hvu⟩

/-- Every tree in a numbered child list comes from a sketch in it, those that were moved into the
first supertype list included. -/
theorem exists_of_mem_numberAll : (ss : List (RoseTree Content)) → ∀ next listed,
    ∀ t, t ∈ (numberAll next listed ss).children ∨ t ∈ (numberAll next listed ss).entries →
      ∀ u ∈ t.preorder, ∃ s ∈ ss, ∃ v ∈ s.preorder, StemsFrom u v
  | [], next, listed, t, ht, u, hu => by
    rcases ht with ht | ht <;> cases ht
  | .node content children :: rest, next, listed, t, ht, u, hu => by
    -- a numbered child of the first sketch, and one of the later sketches
    have hhere : ∀ next, ∀ t ∈ (numberAll next false children).children, u ∈ t.preorder →
        ∃ s ∈ .node content children :: rest, ∃ v ∈ s.preorder, StemsFrom u v := by
      intro next t ht hu
      obtain ⟨s, hs, v, hv, hvu⟩ := exists_of_mem_numberAll children next false t (Or.inl ht) u hu
      exact ⟨_, List.mem_cons_self, v, RoseTree.mem_preorder_iff.2 (Or.inr ⟨s, hs, hv⟩), hvu⟩
    have hlater : ∀ next listed, ∀ t, t ∈ (numberAll next listed rest).children ∨
        t ∈ (numberAll next listed rest).entries → u ∈ t.preorder →
          ∃ s ∈ .node content children :: rest, ∃ v ∈ s.preorder, StemsFrom u v := by
      intro next listed t ht hu
      obtain ⟨s, hs, hv⟩ := exists_of_mem_numberAll rest next listed t ht u hu
      exact ⟨s, List.mem_cons_of_mem _ hs, hv⟩
    by_cases hlist : content.kind = .superTypeList
    · cases listed with
      | true =>
        simp only [numberAll, hlist, if_true, List.mem_append] at ht
        rcases ht with ht | ht | ht
        · exact hlater _ _ t (Or.inl ht) hu
        · exact hhere _ t ht hu
        · exact hlater _ _ t (Or.inr ht) hu
      | false =>
        simp only [numberAll, hlist, if_true, Bool.false_eq_true, if_false, List.mem_cons,
          List.not_mem_nil, or_false] at ht
        rcases ht with rfl | ht
        · rcases RoseTree.mem_preorder_iff.1 hu with rfl | ⟨t, ht, hu⟩
          -- the list itself, which may hold the entries of later ones
          · exact ⟨_, List.mem_cons_self, _, RoseTree.self_mem_preorder _, rfl,
              fun hkind => absurd hlist hkind⟩
          · rcases List.mem_append.1 ht with ht | ht
            · exact hhere _ t ht hu
            · exact hlater _ _ t (Or.inr ht) hu
        · exact hlater _ _ t (Or.inl ht) hu
    · simp only [numberAll, hlist, if_false, List.mem_cons, or_assoc] at ht
      rcases ht with rfl | ht
      · obtain ⟨v, hv, hvu⟩ := exists_of_mem_numberFrom (.node content children) next u hu
        exact ⟨_, List.mem_cons_self, v, hv, hvu⟩
      · exact hlater _ _ t ht hu

end

/-- Every subtree of a numbered child comes from a child of the sketch. -/
theorem NumbersTo.exists_stemsFrom {c : SyntaxTree} (h : s.NumbersTo t) (hc : c ∈ t.children)
    (hu : u ∈ c.preorder) : ∃ r ∈ s.children, ∃ v ∈ r.preorder, StemsFrom u v := by
  obtain ⟨next, rfl⟩ := h
  obtain ⟨content, children⟩ := s
  exact exists_of_mem_numberAll children (next + 1) false c (Or.inl hc) u hu

/-- Every numbered subtree but a supertype list is a numbered sketch of the same tree. -/
theorem NumbersTo.exists_of_mem_preorder (h : s.NumbersTo t) (hu : u ∈ t.preorder)
    (hkind : u.label.kind ≠ .superTypeList) : ∃ v ∈ s.preorder, NumbersTo v u := by
  obtain ⟨next, rfl⟩ := h
  obtain ⟨v, hv, hstem⟩ := exists_of_mem_numberFrom s next u hu
  exact ⟨v, hv, hstem.2 hkind⟩

end KotestOutline.Sketch
