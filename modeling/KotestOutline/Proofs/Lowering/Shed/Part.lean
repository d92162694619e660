import KotestOutline.Proofs.Lowering.Shed.List
import KotestOutline.Proofs.Syntax.Walk

/-!
# Parts without comments

* `Part.Sheds` relates a part to the same part without some idle comments below it, where every row
  finds the same at the places that its rule reads by position (`Part.SamePlaces`).
* `Part.behind_callParts_node`: a call keeps its callee and loses only comments behind it.
* `Part.Sheds.rel_findBelow?` and `Part.Sheds.identifiersBelow_eq`: searches come across no comment,
  and what they find is related again.
-/

namespace KotestOutline.Part

variable {src : Source} {kind : String} {p q c : Part} {ps qs : List Part}

/-! ### Parts with comments left out -/

/-- Whether a row finds the same at the places that its rule reads by position: a string literal
knows its last child, a call its callee, a navigation its receiver and its selector. -/
structure SamePlaces (row : Row) (ps qs : List Part) : Prop where
  string : KindNames.strings.contains row.kind = true → ps.length = qs.length
  call : row.kind = "call_expression" → SameCallee (unwrapSuffixes ps) (unwrapSuffixes qs)
  receiver : row.kind = "navigation_expression" →
    (ps.filter isNamed).head?.map sketches = (qs.filter isNamed).head?.map sketches
  selector : row.kind = "navigation_expression" →
    (selector? ps).map Part.row = (selector? qs).map Part.row
  suffix : row.kind = "navigation_suffix" →
    (ps.filter isNamed).getLast?.map Part.row = (qs.filter isNamed).getLast?.map Part.row

/-- A row finds at each place what it finds there. -/
theorem SamePlaces.refl (row : Row) (ps : List Part) : SamePlaces row ps ps where
  string _ := rfl
  call _ := Or.inl rfl
  receiver _ := rfl
  selector _ := rfl
  suffix _ := rfl

/-- A part and the same part with idle comments left out somewhere below, at no place that a rule
reads by position. -/
inductive Sheds : Part → Part → Prop
  | node {label : Row × List Sketch} {ps qs : List Part} : ShedsAll Sheds ps qs →
    SamePlaces label.1 ps qs → Sheds (.node label ps) (.node label qs)

namespace Sheds

/-- A part is itself, with nothing left out. -/
theorem refl (p : Part) : Sheds p p := by
  induction p using RoseTree.induction with
  | node label ps ih => exact node (ShedsAll.refl ih) (SamePlaces.refl label.1 ps)

/-- Leaving out comments below a part leaves its row and what it lowers to. -/
theorem label_eq (h : Sheds p q) : p.label = q.label := by
  cases h with
  | node => rfl

/-- Leaving out comments below a part leaves its row. -/
theorem row_eq (h : Sheds p q) : row p = row q :=
  congrArg Prod.fst h.label_eq

/-- Leaving out comments below a part leaves what it lowers to. -/
theorem sketches_eq (h : Sheds p q) : sketches p = sketches q :=
  congrArg Prod.snd h.label_eq

/-- Leaving out comments below a part leaves it named or not. -/
theorem isNamed_eq (h : Sheds p q) : isNamed p = isNamed q :=
  isNamed_eq_of_row_eq h.row_eq

/-- Leaving out comments below a part leaves its kind. -/
theorem isKind_eq (h : Sheds p q) (kind : String) : isKind p kind = isKind q kind :=
  isKind_eq_of_row_eq h.row_eq kind

/-- The children of a part without some comments are its children without some comments. -/
theorem children (h : Sheds p q) : ShedsAll Sheds p.children q.children := by
  cases h with
  | node hall _ => exact hall

/-- A part without some comments finds the same at the places that its rule reads. -/
theorem places (h : Sheds p q) : SamePlaces (row p) p.children q.children := by
  cases h with
  | node _ hplaces => exact hplaces

/-- A relation of all parts follows from its inheritance from the children to the parent. -/
theorem induction {motive : Part → Part → Prop}
    (node : ∀ label ps qs, ShedsAll (fun p q => Sheds p q ∧ motive p q) ps qs →
      SamePlaces label.1 ps qs → motive (.node label ps) (.node label qs))
    (h : Sheds p q) : motive p q := by
  induction p using RoseTree.induction generalizing q with
  | node label ps ih =>
    cases h with
    | node hall hplaces =>
      exact node label ps _ (hall.imp_of_mem fun p hp q hpq => ⟨hpq, ih p hp hpq⟩) hplaces

end Sheds

/-- A list without some comments lowers to what the list lowers to. -/
theorem ShedsAll.sketchAll_eq (h : ShedsAll Sheds ps qs) : sketchAll ps = sketchAll qs :=
  h.flatMap_eq (fun _ hc => hc.sketches) fun _ _ hpq => hpq.sketches_eq

/-! ### Places -/

/-- A comment is at none of these places when it stands in no string literal, behind the callee of
a call, between receiver and selector of a dotted access, and before the name of a selector. -/
theorem SamePlaces.of_idle {row : Row} {front back : List Part} (hc : IsIdle c)
    (hstring : KindNames.strings.contains row.kind = false)
    (hcall : row.kind = "call_expression" →
      SameCallee (unwrapSuffixes (front ++ c :: back)) (unwrapSuffixes (front ++ back)))
    (hnavigation : row.kind = "navigation_expression" →
      front.filter isNamed ≠ [] ∧ back.filter isNamed ≠ [])
    (hsuffix : row.kind = "navigation_suffix" → back.filter isNamed ≠ []) :
    SamePlaces row (front ++ c :: back) (front ++ back) := by
  have hdrop : (front ++ c :: back).filter isNamed =
      front.filter isNamed ++ c :: back.filter isNamed := by
    rw [List.filter_append, List.filter_cons_of_pos hc.named]
  have hlast : ∀ before : List Part, back.filter isNamed ≠ [] →
      (before ++ c :: back.filter isNamed).getLast? =
        (before ++ back.filter isNamed).getLast? := by
    intro before hback
    rw [List.getLast?_append_of_ne_nil _ (List.cons_ne_nil _ _),
      List.getLast?_append_of_ne_nil _ hback, List.getLast?_cons_of_ne_nil hback]
  constructor
  case string => exact fun h => absurd (h.symm.trans hstring) (by decide)
  case call => exact hcall
  case receiver =>
    intro hkind
    obtain ⟨receiver, named, hfront⟩ := List.exists_cons_of_ne_nil (hnavigation hkind).1
    rw [hdrop, List.filter_append, hfront]
    rfl
  case selector =>
    intro hkind
    obtain ⟨hfront, hback⟩ := hnavigation hkind
    obtain ⟨receiver, named, hfront⟩ := List.exists_cons_of_ne_nil hfront
    unfold selector?
    rw [hdrop, List.filter_append, hfront, List.cons_append, List.cons_append]
    dsimp only
    rw [hlast named hback]
  case suffix =>
    intro hkind
    rw [hdrop, List.filter_append, hlast _ (hsuffix hkind)]

/-- To take a name only if its row is an identifier is to take its row only then. -/
theorem map_row_bind_isIdentifier (a : Option Part) :
    (a.bind fun name => if name.row.isIdentifier then some name else none).map Part.row =
      (a.map Part.row).filter Row.isIdentifier := by
  cases a with
  | none => rfl
  | some name =>
    rw [Option.bind_some, Option.map_some, Option.filter_some]
    split
    · rfl
    · rfl

/-- The selector is found through the last named row, and in a suffix through its last one. -/
theorem map_row_selector?_eq (h : List.Forall₂ Sheds (ps.filter isNamed) (qs.filter isNamed)) :
    (selector? ps).map Part.row = (selector? qs).map Part.row := by
  unfold selector?
  revert h
  generalize ps.filter isNamed = ps'
  generalize qs.filter isNamed = qs'
  intro h
  cases h with
  | nil => rfl
  | cons _ hmore =>
    dsimp only
    rcases eq_none_or_of_rel (rel_getLast?_of_forall₂ hmore) with
      ⟨hp, hq⟩ | ⟨last, last', hp, hq, hlast⟩
    · rw [hp, hq]
    · rw [hp, hq]
      dsimp only [Option.bind_eq_bind, Option.bind_some]
      rw [hlast.isKind_eq]
      split
      next hkind =>
        have hnames := hlast.places.suffix (by rw [hlast.row_eq]; exact beq_iff_eq.1 hkind)
        rw [map_row_bind_isIdentifier, map_row_bind_isIdentifier]
        exact congrArg (Option.filter Row.isIdentifier) hnames
      · rw [hlast.row_eq]
        split
        · exact congrArg some hlast.row_eq
        · rfl

/-- Where nothing is left out among the children themselves, only a call needs a look at what its
suffixes hold. -/
theorem SamePlaces.of_forall₂ {row : Row} (h : List.Forall₂ Sheds ps qs)
    (hcall : row.kind = "call_expression" →
      SameCallee (unwrapSuffixes ps) (unwrapSuffixes qs)) : SamePlaces row ps qs := by
  have hnamed : List.Forall₂ Sheds (ps.filter isNamed) (qs.filter isNamed) :=
    List.rel_filter (fun _ _ hpq => Bool.eq_iff_iff.1 hpq.isNamed_eq) h
  constructor
  case string => exact fun _ => h.length_eq
  case call => exact hcall
  case receiver =>
    exact fun _ => map_eq_of_rel (rel_head?_of_forall₂ hnamed) fun _ _ => Sheds.sketches_eq
  case selector => exact fun _ => map_row_selector?_eq hnamed
  case suffix =>
    exact fun _ => map_eq_of_rel (rel_getLast?_of_forall₂ hnamed) fun _ _ => Sheds.row_eq

/-! ### Calls -/

/-- Suffixes are replaced by what they hold, in which comments may be left out as well. -/
theorem ShedsAll.unwrapSuffixes {R S : Part → Part → Prop} (h : ShedsAll R ps qs)
    (hkind : ∀ p q, R p q → isKind p "call_suffix" = isKind q "call_suffix")
    (hself : ∀ p q, R p q → S p q)
    (hchildren : ∀ p q, R p q → ShedsAll S p.children q.children) :
    ShedsAll S (unwrapSuffixes ps) (unwrapSuffixes qs) := by
  induction h with
  | nil => exact nil
  | @keep p q ps qs hpq _ ih =>
    rw [Part.unwrapSuffixes, List.flatMap_cons, Part.unwrapSuffixes, List.flatMap_cons,
      hkind p q hpq]
    apply ShedsAll.append _ ih
    split
    · exact hchildren p q hpq
    · exact keep (hself p q hpq) nil
  | drop hc _ ih =>
    rw [hc.unwrapSuffixes_cons]
    exact drop hc ih

/-- Parts that are related, and whose parts as calls agree up to comments behind the callee. -/
def ShedsAsCall (p q : Part) : Prop :=
  Sheds p q ∧ (isKind p "call_expression" = true → Behind Sheds (callParts p) (callParts q))

/-- By induction on the part. The callee of a call may stand in a suffix, so the induction carries
the children along. -/
theorem Sheds.asCall (h : Sheds p q) :
    ShedsAsCall p q ∧ ShedsAll ShedsAsCall p.children q.children := by
  refine induction (motive := fun p q => ShedsAsCall p q ∧
    ShedsAll ShedsAsCall p.children q.children) (fun label ps qs hall hplaces => ?_) h
  have hchildren : ShedsAll ShedsAsCall ps qs := hall.imp fun _ _ hpq => hpq.2.1
  have hparts : ShedsAll ShedsAsCall (unwrapSuffixes ps) (unwrapSuffixes qs) :=
    hall.unwrapSuffixes (fun _ _ hpq => hpq.1.isKind_eq _) (fun _ _ hpq => hpq.2.1)
      fun _ _ hpq => hpq.2.2
  refine ⟨⟨node (hall.imp fun _ _ hpq => hpq.1) hplaces, fun hkind => ?_⟩, hchildren⟩
  rw [callParts_eq, callParts_eq]
  exact behind_mergeCallee (fun _ _ => row_eq) hparts (hplaces.call (beq_iff_eq.1 hkind))

/-- A call keeps its callee and loses only comments behind it. -/
theorem behind_callParts_node (h : ShedsAll Sheds ps qs)
    (hsame : SameCallee (unwrapSuffixes ps) (unwrapSuffixes qs))
    (label label' : Row × List Sketch) :
    Behind Sheds (callParts (.node label ps)) (callParts (.node label' qs)) := by
  have hparts := h.unwrapSuffixes (fun _ _ hpq => hpq.isKind_eq _) (fun _ _ hpq => hpq)
    fun _ _ => Sheds.children
  rw [callParts_eq, callParts_eq]
  exact behind_mergeCallee (fun _ _ => Sheds.row_eq)
    (hparts.imp fun _ _ hpq => hpq.asCall.1) hsame

/-! ### Search -/

/-- Nothing is found in parts below which nothing is found. -/
theorem findDeeper?_eq_none (h : ∀ p ∈ ps, isNamed p = true → findBelow? kind p = none) :
    findDeeper? kind ps = none := by
  induction ps with
  | nil => rfl
  | cons p ps ih =>
    rw [findDeeper?, ih fun q hq => h q (List.mem_cons_of_mem p hq), Option.or_none]
    split
    next hnamed => exact h p List.mem_cons_self hnamed
    · rfl

/-- A search finds nothing where no named row has the kind. -/
theorem findBelow?_eq_none (h : ∀ q : Part, q ∈ p.preorder → isNamed q = true → q.row.kind ≠ kind) :
    findBelow? kind p = none := by
  induction p using RoseTree.induction with
  | node label ps ih =>
    have hchild : (ps.filter isNamed).find? (isKind · kind) = none := by
      apply List.find?_eq_none.2
      intro q hq
      have hmem : q ∈ (RoseTree.node label ps).preorder :=
        RoseTree.mem_preorder_of_mem_children (List.mem_of_mem_filter hq)
      simpa [isKind] using h q hmem (List.mem_filter.1 hq).2
    rw [findBelow?, hchild, Option.none_or]
    apply findDeeper?_eq_none
    intro p hp _
    apply ih p hp
    intro q hq
    exact h q (RoseTree.mem_preorder_iff.2 (Or.inr ⟨p, hp, hq⟩))

/-- Parts that are no identifiers and below which there are none have no names. -/
theorem identifiersAmong_eq_nil
    (h : ∀ p ∈ ps, isNamed p = true → p.row.isIdentifier = false ∧ identifiersBelow src p = []) :
    identifiersAmong src ps = [] := by
  induction ps with
  | nil => rfl
  | cons p ps ih =>
    have hlater := ih fun q hq => h q (List.mem_cons_of_mem p hq)
    rw [identifiersAmong, hlater]
    split
    · rfl
    next hskip =>
      have hnamed : isNamed p = true := by
        by_contra hnot
        exact hskip (by simp [hnot])
      obtain ⟨hidentifier, hbelow⟩ := h p List.mem_cons_self hnamed
      rw [hidentifier, hbelow]
      rfl

/-- A part below which no named row is an identifier has no names. -/
theorem identifiersBelow_eq_nil
    (h : ∀ q : Part, q ∈ p.preorder → isNamed q = true → q.row.isIdentifier = false) :
    identifiersBelow src p = [] := by
  induction p using RoseTree.induction with
  | node label ps ih =>
    rw [identifiersBelow]
    apply identifiersAmong_eq_nil
    intro p hp hnamed
    refine ⟨h p (RoseTree.mem_preorder_of_mem_children hp) hnamed, ih p hp fun q hq => ?_⟩
    exact h q (RoseTree.mem_preorder_iff.2 (Or.inr ⟨p, hp, hq⟩))

/-- Nothing that a supertype is searched for is found in a comment. -/
theorem IsIdle.findBelow?_eq_none (h : IsIdle c) (hkind : kind ∈ searchedKinds) :
    findBelow? kind c = none := by
  apply Part.findBelow?_eq_none
  rintro q hq hnamed rfl
  exact (h.below q hq hnamed).1 hkind

/-- There are no names in a comment. -/
theorem IsIdle.identifiersBelow_eq_nil (h : IsIdle c) : identifiersBelow src c = [] :=
  Part.identifiersBelow_eq_nil fun q hq hnamed => (h.below q hq hnamed).2

/-- An idle part is no identifier. -/
theorem IsIdle.isIdentifier_eq_false (h : IsIdle c) : (row c).isIdentifier = false :=
  (h.below c (RoseTree.self_mem_preorder c) h.named).2

/-- Nothing that a supertype is searched for is a comment. -/
theorem not_mem_comments_of_mem_searchedKinds (h : kind ∈ searchedKinds) :
    kind ∉ KindNames.comments := by
  revert kind
  decide

/-- A search below a list of rows finds parts that are related again. -/
theorem ShedsAll.rel_findDeeper? (hkind : kind ∈ searchedKinds)
    (h : ShedsAll (fun p q => Sheds p q ∧ Option.Rel Sheds (findBelow? kind p) (findBelow? kind q))
      ps qs) : Option.Rel Sheds (findDeeper? kind ps) (findDeeper? kind qs) := by
  induction h with
  | nil => exact Option.Rel.none
  | keep hpq _ ih =>
    rw [findDeeper?, findDeeper?, ← hpq.1.isNamed_eq]
    apply rel_or _ ih
    split
    · exact hpq.2
    · exact Option.Rel.none
  | drop hc _ ih =>
    rw [findDeeper?, hc.findBelow?_eq_none hkind, ite_self, Option.none_or]
    exact ih

/-- A search finds the same below a part without some comments, but for these comments. -/
theorem Sheds.rel_findBelow? (h : Sheds p q) (kind : String) (hkind : kind ∈ searchedKinds) :
    Option.Rel Sheds (findBelow? kind p) (findBelow? kind q) := by
  refine induction (motive := fun p q => Option.Rel Sheds (findBelow? kind p)
    (findBelow? kind q)) (fun label ps qs hall _ => ?_) h
  have hchildren := hall.imp fun _ _ hpq => hpq.1
  rw [findBelow?, findBelow?, List.find?_filter, List.find?_filter]
  apply rel_or _ (hall.rel_findDeeper? hkind)
  apply hchildren.rel_find?
  · intro c hc
    rw [hc.isKind_eq_false (not_mem_comments_of_mem_searchedKinds hkind)]
    simp
  · intro p q hpq
    rw [hpq.isNamed_eq, hpq.isKind_eq]

/-- Without some comments a list has the same names, if its parts do. -/
theorem ShedsAll.identifiersAmong_eq
    (h : ShedsAll (fun p q => Sheds p q ∧ identifiersBelow src p = identifiersBelow src q) ps qs) :
    identifiersAmong src ps = identifiersAmong src qs := by
  induction h with
  | nil => rfl
  | keep hpq _ ih =>
    rw [identifiersAmong, identifiersAmong, ih, hpq.1.isNamed_eq, hpq.1.isKind_eq, hpq.1.isKind_eq,
      hpq.1.row_eq, hpq.2]
  | drop hc _ ih =>
    rw [identifiersAmong, hc.named, hc.isKind_eq_false (by decide), hc.isKind_eq_false (by decide),
      hc.isIdentifier_eq_false, hc.identifiersBelow_eq_nil, ih]
    rfl

/-- A part has the same names without some comments. -/
theorem Sheds.identifiersBelow_eq (h : Sheds p q) :
    identifiersBelow src p = identifiersBelow src q := by
  refine induction (motive := fun p q => identifiersBelow src p = identifiersBelow src q)
    (fun label ps qs hall _ => ?_) h
  rw [identifiersBelow, identifiersBelow]
  exact hall.identifiersAmong_eq

end KotestOutline.Part
