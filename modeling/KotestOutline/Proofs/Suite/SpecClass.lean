import KotestOutline.Proofs.Suite.Statements

/-!
# Members of a spec class

What the children of a class lower to, and what they contribute to a listing. A class that a suite
is written in holds it in an initializer or in the lambda of its superclass constructor; everything
else in the class is quiet.

* `Cst.sketches_of_class`: a class lowers to a node over what its members lower to.
* `Sketch.Declares` says that a sketch contributes a suite, which each row around the suite passes
  on.
* `IsSpecClass.yieldsAll`: what the members of a class with a suite contribute.
-/

namespace KotestOutline

variable {src : Source} {style : SpecStyle} {suite : List Declaration}

/-! ### Members of a class -/

namespace Cst

/-- What a child of a class lowers to there. -/
def memberSketches (src : Source) (t : Cst) : List Sketch := Part.classMember src (toPart src t)

/-- One row of supertypes makes at most one supertype list. -/
theorem countP_superTypeList_le (src : Source) (row : Row) (ps : List Part) :
    (Part.superTypeList src row ps).countP Sketch.isSuperTypeList ≤ 1 := by
  unfold Part.superTypeList
  split_ifs
  · exact Nat.zero_le 1
  · exact List.countP_le_length

/-- A child makes at most one supertype list, and none if it holds no supertypes. -/
theorem countP_memberSketches_le (src : Source) (t : Cst) :
    (memberSketches src t).countP Sketch.isSuperTypeList ≤ if t.isDelegation then 1 else 0 := by
  have hnone : (Part.sketches (toPart src t)).countP Sketch.isSuperTypeList = 0 :=
    Sketch.countP_isSuperTypeList_eq_zero (isSuperTypeList_of_mem_sketches src t)
  unfold memberSketches Part.classMember
  by_cases hdelegation : t.isDelegation = true
  · rw [if_pos hdelegation]
    split_ifs
    · exact List.countP_le_length
    · exact countP_superTypeList_le src _ _
    · exact countP_superTypeList_le src _ _
    · omega
  · rw [if_neg hdelegation]
    unfold isDelegation at hdelegation
    rw [Bool.not_eq_true, Bool.or_eq_false_iff] at hdelegation
    rw [isKind_toPart, isKind_toPart, hdelegation.1, hdelegation.2, if_neg Bool.false_ne_true,
      if_neg Bool.false_ne_true]
    split_ifs
    · exact Nat.le_refl 0
    · omega

/-- What is neither name nor supertypes lowers in a class as anywhere. -/
theorem memberSketches_of_other (src : Source) {row : Row} {ts : List Cst}
    (hidentifier : row.isIdentifier = false) (h : isDelegation (.node row ts) = false) :
    memberSketches src (.node row ts) = sketches src (.node row ts) := by
  rw [isDelegation, RoseTree.label_node, Bool.or_eq_false_iff] at h
  unfold memberSketches Part.classMember
  rw [row_toPart, isKind_toPart, isKind_toPart, RoseTree.label_node, hidentifier, Bool.and_false,
    h.1, h.2]
  rfl

/-- A class has no more supertype lists than children that hold supertypes. -/
theorem countP_flatMap_memberSketches_le (src : Source) (ts : List Cst) :
    (ts.flatMap (memberSketches src)).countP Sketch.isSuperTypeList ≤ ts.countP isDelegation := by
  induction ts with
  | nil => exact Nat.le_refl 0
  | cons t ts ih =>
    rw [List.flatMap_cons, List.countP_append, List.countP_cons]
    have ht := countP_memberSketches_le src t
    omega

/-- Members of a class without calls lower to no call. -/
theorem everywhere_memberSketches {ts : List Cst} (h : ∀ t ∈ ts, t.IsQuiet) :
    ∀ s ∈ ts.flatMap (memberSketches src), s.Everywhere Sketch.IsCallFree := by
  intro s hs
  obtain ⟨t, ht, hs⟩ := List.mem_flatMap.1 hs
  exact Part.everywhere_classMember lowers_isCallFree (h t ht).sound s hs

/-- A class lowers to a node over what its children lower to there. -/
theorem sketches_of_class {row : Row} (h : row.IsConstruct "class_declaration") (src : Source)
    (ts : List Cst) :
    sketches src (.node row ts) =
      [.composite .classDeclaration (src.rowSpan row) (ts.flatMap (memberSketches src))] := by
  rw [h.sketches_eq (by decide)]
  unfold Part.constructNodes
  rw [h.kind_eq, List.flatMap_map]
  rfl

end Cst

/-! ### Passing a suite on -/

/-- Whether a sketch contributes the entries of a suite, whatever containers are around it. -/
def Sketch.Declares (style : SpecStyle) (suite : List Declaration) (s : Sketch) : Prop :=
  ∀ membership outer,
    Sketch.Yields style membership outer s (Declaration.entriesAll outer suite)

/-- A construct that lowers to one composite passes on the one child that holds calls. -/
theorem declares_construct {kind : NodeKind} {span : Span} {before after : List Cst} {t : Cst}
    {s : Sketch} (hclass : kind.isClassOrObject = false) (hdeclare : kind.mayDeclareTest = false)
    (hbefore : ∀ t ∈ before, t.IsQuiet) (hafter : ∀ t ∈ after, t.IsQuiet)
    (hs : Cst.sketches src t = [s]) (h : s.Declares style suite) :
    Sketch.Declares style suite
      (.composite kind span ((before ++ t :: after).flatMap (Cst.sketches src))) := by
  intro membership outer
  refine Sketch.yields_composite hclass hdeclare ?_ ?_
  · rw [Cst.countP_flatMap_sketches]
    exact Nat.zero_le 1
  · rw [List.flatMap_append, List.flatMap_cons, hs]
    exact Sketch.yieldsAll_between (Cst.everywhere_of_isQuiet hbefore) (h membership outer)
      (Cst.everywhere_of_isQuiet hafter)

/-- A block contributes what its statements do. -/
theorem declares_of_isSuite {kind : NodeKind} {span : Span} {statements : List Cst}
    (hclass : kind.isClassOrObject = false) (hdeclare : kind.mayDeclareTest = false)
    (h : IsSuite src style suite statements) :
    Sketch.Declares style suite
      (.composite kind span (statements.flatMap (Cst.sketches src))) := by
  intro membership outer
  refine Sketch.yields_composite hclass hdeclare ?_ (h.yieldsAll.1 membership outer)
  rw [Cst.countP_flatMap_sketches]
  exact Nat.zero_le 1

/-- Members of a class pass on the one among them that holds calls. -/
theorem yieldsAll_memberSketches {before after : List Cst} {t : Cst} {s : Sketch}
    (hbefore : ∀ t ∈ before, t.IsQuiet) (hafter : ∀ t ∈ after, t.IsQuiet)
    (hs : Cst.memberSketches src t = [s]) (h : s.Declares style suite) (membership : Membership)
    (outer : List String) :
    Sketch.YieldsAll style membership outer
      ((before ++ t :: after).flatMap (Cst.memberSketches src))
      (Declaration.entriesAll outer suite) := by
  rw [List.flatMap_append, List.flatMap_cons, hs]
  exact Sketch.yieldsAll_between (Cst.everywhere_memberSketches hbefore) (h membership outer)
    (Cst.everywhere_memberSketches hafter)

/-! ### In an initializer -/

/-- An initializer with a block lowers to a node over its children. -/
theorem Cst.sketches_of_initializer (src : Source) {init block : Row}
    (before after statements : List Cst) (hinit : init.IsConstruct "anonymous_initializer")
    (hblock : block.IsConstruct "block") :
    sketches src (.node init (before ++ .node block statements :: after)) =
      [.composite .classInitializer (src.rowSpan init)
        ((before ++ .node block statements :: after).flatMap (sketches src))] := by
  have hany : ((before ++ .node block statements :: after).map (toPart src)).any
      (fun p => Part.isNamed p && Part.isKind p "block") = true := by
    rw [List.any_eq_true]
    refine ⟨toPart src (.node block statements), List.mem_map_of_mem (by simp), ?_⟩
    rw [isNamed_toPart, isKind_toPart, RoseTree.label_node, hblock.named, hblock.kind_eq]
    rfl
  have hbody : Part.initializerBody (src.rowSpan init)
      ((before ++ .node block statements :: after).map (toPart src)) =
      (before ++ .node block statements :: after).flatMap (sketches src) := by
    rw [Part.initializerBody, hany, if_pos rfl, sketchAll_map_toPart]
  rw [hinit.sketches_eq (by decide)]
  unfold Part.constructNodes
  rw [hinit.kind_eq, ← hbody]
  rfl

/-- The body of a class contributes the suite of its initializer. -/
theorem exists_body_sketch {body init block : Row}
    (beforeInit afterInit beforeBlock afterBlock : List Cst) {statements : List Cst}
    (hbody : body.IsConstruct "class_body") (hinit : init.IsConstruct "anonymous_initializer")
    (hblock : block.IsConstruct "block")
    (hquiet : ∀ t ∈ (beforeInit ++ afterInit) ++ (beforeBlock ++ afterBlock), t.IsQuiet)
    (hsuite : IsSuite src style suite statements) :
    ∃ s, Cst.sketches src (.node body (beforeInit ++ .node init (beforeBlock ++
        .node block statements :: afterBlock) :: afterInit)) = [s] ∧
      s.Declares style suite := by
  have hblockSketch := hblock.sketches_of_plain rfl src statements
  have hinitSketch := Cst.sketches_of_initializer src beforeBlock afterBlock statements hinit hblock
  have hbefore : ∀ t ∈ beforeInit, t.IsQuiet := fun t ht => hquiet t (by simp [ht])
  have hafter : ∀ t ∈ afterInit, t.IsQuiet := fun t ht => hquiet t (by simp [ht])
  have hbeforeBlock : ∀ t ∈ beforeBlock, t.IsQuiet := fun t ht => hquiet t (by simp [ht])
  have hafterBlock : ∀ t ∈ afterBlock, t.IsQuiet := fun t ht => hquiet t (by simp [ht])
  refine ⟨.composite .classBody (src.rowSpan body) ((beforeInit ++ .node init (beforeBlock ++
    .node block statements :: afterBlock) :: afterInit).flatMap (Cst.sketches src)), ?_, ?_⟩
  · exact hbody.sketches_of_plain rfl src _
  · apply declares_construct rfl rfl hbefore hafter hinitSketch
    apply declares_construct rfl rfl hbeforeBlock hafterBlock hblockSketch
    exact declares_of_isSuite rfl rfl hsuite

/-! ### In a superclass constructor -/

/-- The first child of a kind is what a search among named rows finds. -/
theorem Part.findBelow?_of_children {kind : String} {label : Row × List Sketch} {p : Part}
    {ps : List Part} (h : (ps.filter isNamed).find? (isKind · kind) = some p) :
    findBelow? kind (.node label ps) = some p := by
  rw [findBelow?, h, Option.some_or]

/-- The arguments of a constructor call contribute what the lambda among them does. -/
theorem exists_lambda_arguments_sketch {arguments opening argument lambda closing : Row}
    {statements : List Cst} (harguments : arguments.IsConstruct "value_arguments")
    (hopening : opening.IsToken src "(") (hargument : argument.IsConstruct "value_argument")
    (hlambda : lambda.IsConstruct "lambda_literal") (hclosing : closing.IsToken src ")")
    (hsuite : IsSuite src style suite statements) :
    ∃ s, Cst.sketches src (.node arguments [.node opening [],
        .node argument [.node lambda statements], .node closing []]) = [s] ∧
      s.Declares style suite := by
  refine ⟨_, Cst.sketches_of_arguments harguments hopening hargument hclosing
    (hlambda.sketches_of_plain rfl src statements), ?_⟩
  intro membership outer
  have hlambdaYields : Sketch.Declares style suite (.composite .lambdaExpression
      (src.rowSpan lambda) (statements.flatMap (Cst.sketches src))) :=
    declares_of_isSuite rfl rfl hsuite
  have hargumentYields : Sketch.Yields style membership outer
      (.composite .valueArgument (src.rowSpan argument) [.composite .lambdaExpression
        (src.rowSpan lambda) (statements.flatMap (Cst.sketches src))])
      (Declaration.entriesAll outer suite) :=
    Sketch.yields_composite rfl rfl (Nat.zero_le 1)
      (Sketch.yieldsAll_singleton (hlambdaYields membership outer))
  have hpunctuation : ∀ text span,
      ∀ s ∈ [Sketch.leaf .punctuation text span], s.Everywhere Sketch.IsCallFree := by
    intro text span s hs
    rw [List.mem_singleton.1 hs]
    exact lowers_isCallFree.everywhere_leaf _ _ rfl
  have hall := Sketch.yieldsAll_between (hpunctuation ['('] (src.rowSpan opening)) hargumentYields
    (hpunctuation [')'] (src.rowSpan closing))
  exact Sketch.yields_composite rfl rfl (Nat.zero_le 1) hall

/-- What the entry of a superclass is made of: the type that is constructed and the arguments. -/
theorem findBelow?_of_entry {invocation arguments : Row} {type : Cst} (src : Source) (entry : Row)
    (ts : List Cst) (hinvocation : invocation.IsConstruct "constructor_invocation")
    (htype : type.label.IsConstruct "user_type")
    (harguments : arguments.IsConstruct "value_arguments") :
    let call := Cst.toPart src (.node invocation [type, .node arguments ts])
    Part.findBelow? "constructor_invocation"
        (Cst.toPart src (.node entry [.node invocation [type, .node arguments ts]])) = some call ∧
      Part.findBelow? "user_type" call = some (Cst.toPart src type) ∧
      Part.findBelow? "value_arguments" call = some (Cst.toPart src (.node arguments ts)) := by
  refine ⟨?_, ?_, ?_⟩
  · rw [Cst.toPart_node]
    apply Part.findBelow?_of_children
    simp [Cst.isNamed_toPart, Cst.isKind_toPart, hinvocation.named, hinvocation.kind_eq]
  · rw [Cst.toPart_node]
    apply Part.findBelow?_of_children
    simp [Cst.isNamed_toPart, Cst.isKind_toPart, htype.named, htype.kind_eq]
  · rw [Cst.toPart_node]
    apply Part.findBelow?_of_children
    simp [Cst.isNamed_toPart, Cst.isKind_toPart, htype.named, htype.kind_eq, harguments.named,
      harguments.kind_eq]

/-- The entry of a superclass: the name of the type, and the arguments of its constructor. -/
theorem superTypeEntry_of_constructor {invocation arguments : Row} {type : Cst} (src : Source)
    (entry : Row) (ts : List Cst) (hinvocation : invocation.IsConstruct "constructor_invocation")
    (htype : type.label.IsConstruct "user_type")
    (harguments : arguments.IsConstruct "value_arguments") :
    Part.superTypeEntry src
        (Cst.toPart src (.node entry [.node invocation [type, .node arguments ts]])) =
      [.composite .superTypeCallEntry (src.rowSpan entry)
        (.leaf .typeReference (Part.typeName src (Cst.toPart src type)) (src.rowSpan type.label) ::
          Cst.sketches src (.node arguments ts))] := by
  obtain ⟨hcall, htypeFound, harguments'⟩ := findBelow?_of_entry src entry ts hinvocation htype
    harguments
  simp only [Part.superTypeEntry, hcall, htypeFound, harguments', Cst.row_toPart,
    RoseTree.label_node, Option.getD_some, Option.isSome_some, if_true, Option.bind_some,
    Option.map_some, Cst.sketches]

/-- The entry of a superclass contributes what the arguments of its constructor do. -/
theorem exists_entry_sketch {invocation arguments opening argument lambda closing : Row}
    {type : Cst} {statements : List Cst} (entry : Row)
    (hinvocation : invocation.IsConstruct "constructor_invocation")
    (htype : type.label.IsConstruct "user_type")
    (harguments : arguments.IsConstruct "value_arguments") (hopening : opening.IsToken src "(")
    (hargument : argument.IsConstruct "value_argument")
    (hlambda : lambda.IsConstruct "lambda_literal") (hclosing : closing.IsToken src ")")
    (hsuite : IsSuite src style suite statements) :
    ∃ s, Part.superTypeEntry src (Cst.toPart src (.node entry
        [.node invocation [type, .node arguments
          [.node opening [], .node argument [.node lambda statements], .node closing []]]])) = [s] ∧
      s.Declares style suite := by
  obtain ⟨u, hu, hyields⟩ := exists_lambda_arguments_sketch harguments hopening hargument hlambda
    hclosing hsuite
  have hlist : u.isSuperTypeList = false :=
    Cst.isSuperTypeList_of_mem_sketches src _ u (by rw [hu]; exact List.mem_cons_self)
  refine ⟨.composite .superTypeCallEntry (src.rowSpan entry)
    ([.leaf .typeReference (Part.typeName src (Cst.toPart src type)) (src.rowSpan type.label)] ++
      u :: []), ?_, ?_⟩
  · rw [superTypeEntry_of_constructor src entry _ hinvocation htype harguments, hu]
    rfl
  · intro membership outer
    refine Sketch.yields_composite rfl rfl ?_
      (Sketch.yieldsAll_between ?_ (hyields membership outer) (by simp))
    · have hleaf : ∀ text span, (Sketch.leaf .typeReference text span).isSuperTypeList = false := by
        intro text span
        rfl
      simp [hleaf, hlist]
    · intro s hs
      rw [List.mem_singleton.1 hs]
      exact lowers_isCallFree.everywhere_leaf _ _ rfl

/-- The entry of a supertype is no supertype list. -/
theorem isSuperTypeList_of_mem_superTypeEntry {p : Part} {s : Sketch}
    (h : s ∈ Part.superTypeEntry src p) : s.isSuperTypeList = false := by
  unfold Part.superTypeEntry at h
  dsimp only at h
  split at h
  · cases h
  · rw [List.mem_singleton.1 h]
    split_ifs <;> rfl

/-- The parts of the supertypes among some trees. -/
def Cst.superTypeParts (src : Source) (ts : List Cst) : List Part :=
  (ts.map (toPart src)).filter fun p => p.isKind "delegation_specifier" && p.isNamed

/-- The entries of quiet supertypes have no call in them. -/
theorem everywhere_superTypeEntries {ts : List Cst} (h : ∀ t ∈ ts, t.IsQuiet) :
    ∀ s ∈ (Cst.superTypeParts src ts).flatMap (Part.superTypeEntry src),
      s.Everywhere Sketch.IsCallFree := by
  intro s hs
  obtain ⟨q, hq, hs⟩ := List.mem_flatMap.1 hs
  obtain ⟨t, ht, rfl⟩ := List.mem_map.1 (List.mem_of_mem_filter hq)
  exact Part.everywhere_superTypeEntry lowers_isCallFree (h t ht).sound s hs

/-- The supertypes among some trees are those before one of them, that one, and those behind it. -/
theorem Cst.superTypeParts_append {entry : Row} (src : Source) (inside before after : List Cst)
    (hentry : entry.IsConstruct "delegation_specifier") :
    superTypeParts src (before ++ .node entry inside :: after) =
      superTypeParts src before ++ toPart src (.node entry inside) :: superTypeParts src after := by
  have hmiddle : (Part.isKind (toPart src (.node entry inside)) "delegation_specifier" &&
      Part.isNamed (toPart src (.node entry inside))) = true := by
    simp [isKind_toPart, isNamed_toPart, hentry.kind_eq, hentry.named]
  simp only [superTypeParts, List.map_append, List.map_cons, List.filter_append]
  rw [List.filter_cons, if_pos hmiddle]

/-- A row of supertypes in a class lowers to their list. -/
theorem Cst.memberSketches_of_superTypes {supertypes : Row} (src : Source) (ts : List Cst)
    (hsupertypes : supertypes.IsConstruct "delegation_specifiers") :
    memberSketches src (.node supertypes ts) =
      Part.superTypeList src supertypes (superTypeParts src ts) := by
  have hidentifier : supertypes.isIdentifier = false := by
    rw [Row.isIdentifier, hsupertypes.kind_eq]
    decide
  have hchildren : (Part.namedChildren (toPart src (.node supertypes ts))).filter
      (Part.isKind · "delegation_specifier") = superTypeParts src ts := by
    rw [Part.namedChildren, children_toPart, List.filter_filter]
    rfl
  unfold memberSketches Part.classMember
  rw [hchildren, row_toPart, isKind_toPart, RoseTree.label_node, hidentifier, Bool.and_false,
    hsupertypes.kind_eq]
  rfl

/-- The supertypes of a class contribute what the one entry among them does. -/
theorem exists_superTypes_sketch {supertypes entry : Row} {inside before after : List Cst}
    {s : Sketch} (hsupertypes : supertypes.IsConstruct "delegation_specifiers")
    (hentry : entry.IsConstruct "delegation_specifier")
    (hbefore : ∀ t ∈ before, t.IsQuiet) (hafter : ∀ t ∈ after, t.IsQuiet)
    (hs : Part.superTypeEntry src (Cst.toPart src (.node entry inside)) = [s])
    (h : s.Declares style suite) :
    ∃ u, Cst.memberSketches src (.node supertypes (before ++ .node entry inside :: after)) = [u] ∧
      u.Declares style suite := by
  have hsplit := Cst.superTypeParts_append src inside before after hentry
  refine ⟨.composite .superTypeList (src.rowSpan supertypes)
    ((Cst.superTypeParts src (before ++ .node entry inside :: after)).flatMap
      (Part.superTypeEntry src)), ?_, ?_⟩
  · rw [Cst.memberSketches_of_superTypes src _ hsupertypes, Part.superTypeList, hsplit]
    simp
  · intro membership outer
    refine Sketch.yields_composite rfl rfl ?_ ?_
    · have hzero : ((Cst.superTypeParts src (before ++ .node entry inside :: after)).flatMap
          (Part.superTypeEntry src)).countP Sketch.isSuperTypeList = 0 := by
        apply Sketch.countP_isSuperTypeList_eq_zero
        intro u hu
        obtain ⟨p, -, hu⟩ := List.mem_flatMap.1 hu
        exact isSuperTypeList_of_mem_superTypeEntry hu
      rw [hzero]
      exact Nat.zero_le 1
    · rw [hsplit, List.flatMap_append, List.flatMap_cons, hs]
      exact Sketch.yieldsAll_between (everywhere_superTypeEntries hbefore) (h membership outer)
        (everywhere_superTypeEntries hafter)

/-! ### A class with a suite -/

/-- The members of a class that a suite is written in contribute the suite. -/
theorem IsSpecClass.yieldsAll {t : Cst} (h : IsSpecClass src style suite t) :
    t.label.IsConstruct "class_declaration" ∧
      (t.children.flatMap (Cst.memberSketches src)).countP Sketch.isSuperTypeList ≤ 1 ∧
      ∀ membership outer, Sketch.YieldsAll style membership outer
        (t.children.flatMap (Cst.memberSketches src)) (Declaration.entriesAll outer suite) := by
  cases h with
  | @initializer row body init block beforeBody afterBody beforeInit afterInit beforeBlock
      afterBlock statements hrow hbody hinit hblock hquiet hsupertypes hsuite =>
    obtain ⟨s, hs, hyields⟩ := exists_body_sketch beforeInit afterInit beforeBlock afterBlock hbody
      hinit hblock (fun t ht => hquiet t (by simp only [List.mem_append] at ht ⊢; tauto)) hsuite
    -- the body is neither a name nor supertypes, so as a member of the class it is what it is alone
    have hnot : Cst.isDelegation (.node body (beforeInit ++ .node init (beforeBlock ++
        .node block statements :: afterBlock) :: afterInit)) = false := by
      rw [Cst.isDelegation, RoseTree.label_node, hbody.kind_eq]
      decide
    have hidentifier : body.isIdentifier = false := by
      rw [Row.isIdentifier, hbody.kind_eq]
      decide
    rw [← Cst.memberSketches_of_other src hidentifier hnot] at hs
    have hbefore : ∀ t ∈ beforeBody, t.IsQuiet := fun t ht => hquiet t (by simp [ht])
    have hafter : ∀ t ∈ afterBody, t.IsQuiet := fun t ht => hquiet t (by simp [ht])
    refine ⟨hrow, ?_, yieldsAll_memberSketches hbefore hafter hs hyields⟩
    apply Nat.le_trans (Cst.countP_flatMap_memberSketches_le src _)
    rw [RoseTree.children_node, List.countP_append, List.countP_cons_of_neg (by simp [hnot]),
      ← List.countP_append]
    exact hsupertypes
  | @constructor row supertypes entry invocation arguments opening argument lambda closing type
      before after beforeEntry afterEntry statements hrow hsupertypes hentry hinvocation htype
      harguments hopening hargument hlambda hclosing hquiet honly hsuite =>
    obtain ⟨s, hs, hyields⟩ := exists_entry_sketch entry hinvocation htype harguments hopening
      hargument hlambda hclosing hsuite
    have hbeforeEntry : ∀ t ∈ beforeEntry, t.IsQuiet := fun t ht => hquiet t (by simp [ht])
    have hafterEntry : ∀ t ∈ afterEntry, t.IsQuiet := fun t ht => hquiet t (by simp [ht])
    obtain ⟨u, hu, hyields⟩ :=
      exists_superTypes_sketch hsupertypes hentry hbeforeEntry hafterEntry hs hyields
    have hbefore : ∀ t ∈ before, t.IsQuiet := fun t ht => hquiet t (by simp [ht])
    have hafter : ∀ t ∈ after, t.IsQuiet := fun t ht => hquiet t (by simp [ht])
    refine ⟨hrow, ?_, yieldsAll_memberSketches hbefore hafter hu hyields⟩
    apply Nat.le_trans (Cst.countP_flatMap_memberSketches_le src _)
    -- the row with the suite is the only one with supertypes
    have hzero : (before ++ after).countP Cst.isDelegation = 0 := by
      apply List.countP_eq_zero.2
      intro t ht
      simp [honly t ht]
    rw [List.countP_append] at hzero
    rw [RoseTree.children_node, List.countP_append, List.countP_cons]
    split_ifs <;> omega

end KotestOutline
