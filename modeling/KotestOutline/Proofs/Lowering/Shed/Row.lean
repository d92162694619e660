import KotestOutline.Proofs.Lowering.Row
import KotestOutline.Proofs.Lowering.Shed.Part

/-!
# Rows over fewer comments

One lemma for each rule of the lowering: over children without some of their comments it gives the
same. `Part.rowNodes_congr` puts them together for all rows.
-/

namespace KotestOutline.Part

variable {β : Type} {src : Source} {p q c : Part} {ps qs : List Part}

/-! ### Classes -/

/-- The entry of a supertype stays the same without some comments. -/
theorem Sheds.superTypeEntry_eq (h : Sheds p q) : superTypeEntry src p = superTypeEntry src q := by
  have hcall := h.rel_findBelow? "constructor_invocation" (by decide)
  have htype := (rel_getD hcall h).rel_findBelow? "user_type" (by decide)
  have harguments := map_eq_of_rel
    (rel_bind hcall fun _ _ hpq => hpq.rel_findBelow? "value_arguments" (by decide))
    fun _ _ hpq => hpq.sketches_eq
  simp only [superTypeEntry, isSome_eq_of_rel hcall, harguments, h.row_eq]
  rcases eq_none_or_of_rel htype with ⟨hp, hq⟩ | ⟨type, type', hp, hq, htype⟩
  · rw [hp, hq]
  · simp only [hp, hq, typeName, htype.identifiersBelow_eq, htype.row_eq]

/-- A supertype list stays the same without some comments in its entries. -/
theorem superTypeList_eq (row : Row) (h : List.Forall₂ Sheds ps qs) :
    superTypeList src row ps = superTypeList src row qs := by
  have hentries : ps.flatMap (superTypeEntry src) = qs.flatMap (superTypeEntry src) := by
    induction h with
    | nil => rfl
    | cons hpq _ ih => rw [List.flatMap_cons, List.flatMap_cons, hpq.superTypeEntry_eq, ih]
  rw [superTypeList, superTypeList, hentries, isEmpty_eq_of_forall₂ h]

/-- A comment is no member of a class. -/
theorem IsIdle.classMember_eq_nil (h : IsIdle c) : classMember src c = [] := by
  simp [classMember, h.isIdentifier_eq_false, h.isKind_eq_false, h.sketches, KindNames.comments]

/-- The nodes of a member of a class stay the same without some comments. -/
theorem Sheds.classMember_eq (h : Sheds p q) : classMember src p = classMember src q := by
  have hlist : List.Forall₂ Sheds (p.namedChildren.filter (·.isKind "delegation_specifier"))
      (q.namedChildren.filter (·.isKind "delegation_specifier")) := by
    unfold namedChildren
    rw [List.filter_filter, List.filter_filter]
    apply h.children.forall₂_filter
    · intro c hc
      simp [hc.isKind_eq_false, KindNames.comments]
    · intro p q hpq
      rw [hpq.isNamed_eq, hpq.isKind_eq]
  have hself : superTypeList src (row p) [p] = superTypeList src (row q) [q] := by
    rw [h.row_eq]
    exact superTypeList_eq (row q) (List.Forall₂.cons h List.Forall₂.nil)
  unfold classMember
  rw [hself, h.row_eq, h.isNamed_eq, h.isKind_eq, h.isKind_eq, h.sketches_eq,
    superTypeList_eq (row q) hlist]

namespace ShedsAll

/-- The members of a class stay the same without some comments, between them or inside. -/
theorem classMembers_eq (h : ShedsAll Sheds ps qs) :
    ps.flatMap (classMember src) = qs.flatMap (classMember src) :=
  h.flatMap_eq (fun _ hc => hc.classMember_eq_nil) fun _ _ hpq => hpq.classMember_eq

/-- The name of a package stays the same without some comments. -/
theorem packageName_eq (row : Row) (h : ShedsAll Sheds ps qs) :
    packageName src row ps = packageName src row qs := by
  have hname : Option.Rel Sheds
      ((ps.filter isNamed).find? fun p => p.isKind "qualified_identifier" || p.isKind "identifier")
      ((qs.filter isNamed).find? fun p =>
        p.isKind "qualified_identifier" || p.isKind "identifier") := by
    rw [List.find?_filter, List.find?_filter]
    apply h.rel_find?
    · intro c hc
      simp [hc.isKind_eq_false, KindNames.comments]
    · intro p q hpq
      rw [hpq.isNamed_eq, hpq.isKind_eq, hpq.isKind_eq]
  unfold packageName
  rcases eq_none_or_of_rel hname with ⟨hp, hq⟩ | ⟨name, name', hp, hq, hname⟩
  · rw [hp, hq]
  · rw [hp, hq]
    dsimp only
    rw [hname.row_eq]

/-- The body of an initializer stays the same without some comments, which are no blocks. -/
theorem initializerBody_eq (span : Span) (h : ShedsAll Sheds ps qs) :
    initializerBody span ps = initializerBody span qs := by
  have hblock : ps.any (fun p => p.isNamed && p.isKind "block") =
      qs.any fun p => p.isNamed && p.isKind "block" := by
    apply h.any_eq
    · intro c hc
      simp [hc.isKind_eq_false, KindNames.comments]
    · intro p q hpq
      rw [hpq.isNamed_eq, hpq.isKind_eq]
  unfold initializerBody
  rw [hblock, h.sketchAll_eq]

end ShedsAll

/-! ### Dotted access -/

/-- A comment is not the dot of a dotted access. -/
theorem IsIdle.isDotToken_eq_false (h : IsIdle c) : isDotToken src c = false := by
  simp [isDotToken, h.named]

/-- Whether a part is a dot depends on its row. -/
theorem isDotToken_eq (h : row p = row q) : isDotToken src p = isDotToken src q := by
  rw [isDotToken, isDotToken, isNamed_eq_of_row_eq h, h]

/-- The dot is a token, which nothing is left out for. -/
theorem ShedsAll.dotToken?_eq (h : ShedsAll Sheds ps qs) :
    (dotToken? src ps).map Part.row = (dotToken? src qs).map Part.row := by
  unfold dotToken?
  rw [List.map_findSome?, List.map_findSome?]
  apply h.findSome?_eq
  · intro c hc
    simp [hc.isDotToken_eq_false, hc.isKind_eq_false, KindNames.comments]
  · intro p q hpq
    have hinner : (p.children.find? (isDotToken src)).map Part.row =
        (q.children.find? (isDotToken src)).map Part.row := by
      have hfound : Option.Rel Sheds (p.children.find? (isDotToken src))
          (q.children.find? (isDotToken src)) :=
        hpq.children.rel_find? (fun _ hc => hc.isDotToken_eq_false)
          fun _ _ hpq => isDotToken_eq hpq.row_eq
      exact map_eq_of_rel hfound fun _ _ hpq => hpq.row_eq
    dsimp only [Function.comp_apply]
    rw [isDotToken_eq hpq.row_eq, hpq.isKind_eq]
    split
    · rw [Option.map_some, Option.map_some, hpq.row_eq]
    · split
      · exact hinner
      · rfl

/-- What is made of a row only depends on the row. -/
theorem map_row_congr {a b : Option Part} (h : a.map Part.row = b.map Part.row) (f : Row → β) :
    a.map (fun p => f p.row) = b.map (fun p => f p.row) := by
  have hmap := congrArg (Option.map f) h
  rwa [Option.map_map, Option.map_map] at hmap

/-- Receiver and dot stay the same without some comments, if the receiver does. -/
theorem receiverAndDot_eq (h : ShedsAll Sheds ps qs)
    (hreceiver : (ps.filter isNamed).head?.map sketches = (qs.filter isNamed).head?.map sketches) :
    receiverAndDot src ps = receiverAndDot src qs := by
  have htoken : (dotToken? src ps).map Part.row = (dotToken? src qs).map Part.row :=
    h.dotToken?_eq
  have hdot := map_row_congr htoken fun row => Sketch.leaf .dot ['.'] (src.rowSpan row)
  unfold receiverAndDot
  rw [hreceiver, hdot]

/-- Whether there is a dot stays the same without some comments. -/
theorem isSome_dotToken?_eq (h : ShedsAll Sheds ps qs) :
    (dotToken? src ps).isSome = (dotToken? src qs).isSome := by
  rw [← Option.isSome_map, h.dotToken?_eq, Option.isSome_map]

/-- A dotted access stays the same without some comments, if receiver and selector do. -/
theorem navigationNode_eq (h : ShedsAll Sheds ps qs) {row : Row} (hplaces : SamePlaces row ps qs)
    (hkind : row.kind = "navigation_expression") :
    navigationNode src row ps = navigationNode src row qs := by
  have hselector := map_row_congr (hplaces.selector hkind) (nameReference src)
  simp only [navigationNode]
  rw [isSome_dotToken?_eq h, receiverAndDot_eq h (hplaces.receiver hkind), h.sketchAll_eq,
    hselector]

/-! ### Calls -/

/-- A call stays the same without some comments, if the callee does. -/
theorem callNode_eq (row : Row) (h : ShedsAll Sheds ps qs)
    (hsame : SameCallee (unwrapSuffixes ps) (unwrapSuffixes qs)) :
    callNode src row ps = callNode src row qs := by
  have hparts := behind_callParts_node h hsame (row, []) (row, [])
  have hall := hparts.shedsAll
  simp only [callNode]
  rcases hparts.dropWhile fun _ _ => Sheds.row_eq with
    ⟨hp, hq⟩ | ⟨callee, callee', rest, rest', hp, hq, hcallee, hrest⟩
  · rw [hp, hq, h.sketchAll_eq]
  · rw [hp, hq]
    dsimp only
    rw [hcallee.isKind_eq, isSome_dotToken?_eq hcallee.children, hall.sketchAll_eq]
    by_cases hnavigation : isKind callee' "navigation_expression" = true
    · have hkind : callee.row.kind = "navigation_expression" := by
        rw [hcallee.row_eq]
        exact beq_iff_eq.1 hnavigation
      have hselector := hcallee.places.selector hkind
      rw [hselector, receiverAndDot_eq hcallee.children (hcallee.places.receiver hkind),
        hrest.sketchAll_eq]
    · have hnot : isKind callee' "navigation_expression" = false := by simpa using hnavigation
      rw [hnot]
      rfl

/-! ### String content -/

/-- The leaves of string content depend on the rows of its escapes alone. -/
theorem contentLeaves_eq (span : Span) (stop position : Nat) (h : List.Forall₂ Sheds ps qs) :
    contentLeaves src span stop position ps = contentLeaves src span stop position qs := by
  induction h generalizing position with
  | nil => rfl
  | cons hpq _ ih => rw [contentLeaves, contentLeaves, hpq.row_eq, ih]

/-- A comment is no escape sequence. -/
theorem isEscape_eq_false_of_isComment {row : Row} (h : row.isComment = true) :
    row.isEscape = false := by
  have hall : ∀ kind ∈ KindNames.comments, hasInfix "escape".toList kind.toList = false := by decide
  exact hall row.kind (List.contains_iff_mem.1 h)

/-- The entries of a child of a string stay the same without some comments in it. -/
theorem Sheds.stringEntries_eq (isFirst isLast : Bool) (h : Sheds p q) :
    stringEntries src isFirst isLast p = stringEntries src isFirst isLast q := by
  have hescapes : List.Forall₂ Sheds (p.namedChildren.filter (·.row.isEscape))
      (q.namedChildren.filter (·.row.isEscape)) := by
    unfold namedChildren
    rw [List.filter_filter, List.filter_filter]
    apply h.children.forall₂_filter
    · intro c hc
      rw [isEscape_eq_false_of_isComment hc.comment, Bool.false_and]
    · intro p q hpq
      rw [hpq.isNamed_eq, hpq.row_eq]
  simp only [stringEntries]
  rw [h.row_eq, h.isNamed_eq, contentLeaves_eq _ _ _ hescapes, h.children.sketchAll_eq]

/-- The entries of a string stay the same without some comments inside its children, which all
stay. -/
theorem stringEntriesAll_eq (isFirst : Bool) (h : List.Forall₂ Sheds ps qs) :
    stringEntriesAll src isFirst ps = stringEntriesAll src isFirst qs := by
  induction h generalizing isFirst with
  | nil => rfl
  | @cons p q ps qs hpq hrest ih =>
    rw [stringEntriesAll, stringEntriesAll, isEmpty_eq_of_forall₂ hrest, hpq.stringEntries_eq, ih]

/-! ### Rows -/

/-- A construct stays the same without some comments, if its rule finds the same at the places it
reads by position. -/
theorem constructNodes_congr {row : Row} (h : ShedsAll Sheds ps qs)
    (hplaces : SamePlaces row ps qs) :
    constructNodes src row ps = constructNodes src row qs := by
  simp only [constructNodes]
  rw [h.sketchAll_eq, h.packageName_eq row, h.classMembers_eq, h.initializerBody_eq]
  cases hrole : Role.ofKind row.kind
  case call =>
    have hkind := Role.eq_of_ofKind_eq hrole rfl
    exact congrArg (fun s => [s]) (callNode_eq row h (hplaces.call hkind))
  case navigation =>
    have hkind := Role.eq_of_ofKind_eq hrole rfl
    exact congrArg (fun s => [s]) (navigationNode_eq h hplaces hkind)
  case string =>
    have hkind := List.contains_iff_mem.2 (Role.mem_kinds_of_ofKind_eq hrole (by decide))
    have hstring := h.forall₂ (hplaces.string hkind)
    dsimp only
    rw [stringEntriesAll_eq true hstring]
  all_goals rfl

/-- One step: a row over such parts lowers to the same nodes. -/
theorem rowNodes_congr {row : Row} (h : ShedsAll Sheds ps qs) (hplaces : SamePlaces row ps qs) :
    rowNodes src row ps = rowNodes src row qs := by
  unfold rowNodes
  rw [h.sketchAll_eq, constructNodes_congr h hplaces]

end KotestOutline.Part
