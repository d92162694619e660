import KotestOutline.Proofs.Lowering.Shed.Part
import KotestOutline.Proofs.Suite.RoundTrip

/-!
# Headers of classes

The superclass of a class, read off the rows of its header: the first supertype that is written as a
constructor call, or else the first of all. What stands inside a supertype, such as its type
arguments, the arguments of its constructor and the expression behind `by`, is no part of the name.

* `Cst.IsSupertype` are the forms of a supertype, `Cst.HasHeader` is a class with a list of them.
* `superTypeName?_of_hasHeader`: the superclass of the lowered class is that of the header.

Supertypes are told apart by a search through everything below them. A supertype that is no
constructor call, but has one inside, is so taken for one, with the type of the inner call as its
name. The theorem therefore asks that no supertype before the first constructor call has a call
inside (`Cst.HidesNoCall`), and `not_forall_superTypeName?_of_hasHeader` is a delegation where the
superclass is lost.
-/

namespace KotestOutline

variable {src : Source}

/-! ### Supertypes -/

/-- A supertype as the header of a class has it. -/
structure Supertype where
  /-- Whether it is written as a constructor call. -/
  isCall : Bool
  /-- The dotted name of the type, without type arguments. -/
  name : String

/-- The supertype that is the superclass: the first constructor call, or else the first of all. -/
def Supertype.superclass? (supertypes : List Supertype) : Option Supertype :=
  (supertypes.find? isCall).or supertypes.head?

/-- A class has no superclass just if it is written without supertypes. -/
theorem Supertype.superclass?_eq_none_iff {supertypes : List Supertype} :
    superclass? supertypes = none ↔ supertypes = [] := by
  rw [superclass?, Option.or_eq_none_iff, List.head?_eq_none_iff]
  refine and_iff_right_of_imp ?_
  rintro rfl
  rfl

namespace Cst

/-- Whether a tree is a token or a comment. -/
def IsFiller (t : Cst) : Prop :=
  t.label.named = false ∨ t.label.isComment = true ∧ t.children = []

instance (t : Cst) : Decidable t.IsFiller :=
  decidable_of_iff (t.label.named = false ∨ t.label.isComment = true ∧ t.children.isEmpty = true)
    (by rw [List.isEmpty_iff]; rfl)

/-- The texts of the identifiers that are children of a type. -/
def segments (src : Source) (t : Cst) : List (List Char) :=
  ((t.children.map RoseTree.label).filter fun r => r.named && r.isIdentifier).map src.rowText

/-- Whether a tree is a type with a dotted name: identifiers, between them tokens and comments, and
type arguments with whatever is in them. -/
structure IsUserType (src : Source) (name : String) (t : Cst) : Prop where
  type : t.label.IsConstruct "user_type"
  parts : ∀ u : Cst, u ∈ t.children →
    u.IsFiller ∨ u.label.kind = "type_arguments" ∨ u.label.isIdentifier = true
  name_eq : name.toList = List.intercalate ['.'] (t.segments src)

/-- The forms of a supertype. A constructor call is a type and what follows it, arguments included.
A delegation is a type and what follows it, `by` and the expression included. -/
inductive IsSupertype (src : Source) : Supertype → Cst → Prop
  | call {entry invocation : Row} {type : Cst} {before after front back : List Cst} {name : String}
      (hentry : entry.IsConstruct "delegation_specifier")
      (hinvocation : invocation.IsConstruct "constructor_invocation")
      (htype : type.IsUserType src name) (hfillers : ∀ t ∈ before ++ after ++ front, t.IsFiller) :
      IsSupertype src ⟨true, name⟩
        (.node entry (before ++ .node invocation (front ++ type :: back) :: after))
  | plain {entry : Row} {type : Cst} {before after : List Cst} {name : String}
      (hentry : entry.IsConstruct "delegation_specifier") (htype : type.IsUserType src name)
      (hfillers : ∀ t ∈ before ++ after, t.IsFiller) :
      IsSupertype src ⟨false, name⟩ (.node entry (before ++ type :: after))
  | delegated {entry delegation : Row} {type : Cst} {before after front back : List Cst}
      {name : String} (hentry : entry.IsConstruct "delegation_specifier")
      (hdelegation : delegation.IsConstruct "explicit_delegation")
      (htype : type.IsUserType src name) (hfillers : ∀ t ∈ before ++ after ++ front, t.IsFiller) :
      IsSupertype src ⟨false, name⟩
        (.node entry (before ++ .node delegation (front ++ type :: back) :: after))

/-- The supertypes among the children of a tree. -/
def supertypeRows (t : Cst) : List Cst :=
  t.children.filter fun u => u.label.kind == "delegation_specifier" && u.label.named

/-- Whether a class or an object is written with some supertypes, all in one row. -/
structure HasHeader (src : Source) (supertypes : List Supertype) (t header : Cst) : Prop where
  declaration : t.label.IsConstruct "class_declaration" ∨ t.label.IsConstruct "object_declaration"
  delegation : t.children.filter isDelegation = [header]
  row : header.label.IsConstruct "delegation_specifiers"
  supertypes : List.Forall₂ (IsSupertype src) supertypes header.supertypeRows

/-- Whether a supertype is a constructor call. -/
def isConstructed (t : Cst) : Bool :=
  t.children.any fun u => u.label.named && u.label.kind == "constructor_invocation"

/-- Whether no supertype before the first constructor call has such a call inside. -/
def HidesNoCall (supertypes : List Cst) : Prop :=
  ∀ t ∈ supertypes.takeWhile (!·.isConstructed),
    ∀ u ∈ RoseTree.preorder t, u.label.kind ≠ "constructor_invocation"

instance (supertypes : List Cst) : Decidable (HidesNoCall supertypes) :=
  inferInstanceAs (Decidable (∀ t ∈ supertypes.takeWhile (!·.isConstructed),
    ∀ u ∈ RoseTree.preorder t, u.label.kind ≠ "constructor_invocation"))

/-! ### Search past tokens and comments -/

variable {t : Cst} {kind : String}

/-- A token or a comment is not taken for a row of another kind. -/
theorem IsFiller.find_eq_false (h : t.IsFiller) (hkind : kind ∉ KindNames.comments) :
    (t.label.named && t.label.kind == kind) = false := by
  rcases h with hnamed | ⟨hcomment, -⟩
  · rw [hnamed, Bool.false_and]
  · rw [Bool.and_eq_false_iff]
    refine Or.inr (beq_eq_false_iff_ne.2 ?_)
    rintro rfl
    exact hkind (List.contains_iff_mem.1 hcomment)

/-- There is nothing in a token or a comment. -/
theorem IsFiller.findBelow?_eq_none (h : t.IsFiller) :
    (if Part.isNamed (toPart src t) then Part.findBelow? kind (toPart src t) else none) = none := by
  rw [isNamed_toPart]
  rcases h with hnamed | ⟨-, hchildren⟩
  · rw [hnamed, if_neg Bool.false_ne_true]
  · split_ifs
    · obtain ⟨row, ts⟩ := t
      rw [RoseTree.children_node] at hchildren
      subst hchildren
      rfl
    · rfl

/-- No child is found among tokens and comments. -/
theorem find?_fillers {ts : List Cst} (h : ∀ t ∈ ts, t.IsFiller)
    (hkind : kind ∉ KindNames.comments) :
    ((ts.map (toPart src)).filter Part.isNamed).find? (Part.isKind · kind) = none := by
  rw [List.find?_filter, List.find?_eq_none]
  intro p hp
  obtain ⟨t, ht, rfl⟩ := List.mem_map.1 hp
  have hne := (h t ht).find_eq_false hkind
  simpa [isNamed_toPart, isKind_toPart] using hne

/-- Nothing is found below tokens and comments. -/
theorem findDeeper?_fillers {ts : List Cst} (h : ∀ t ∈ ts, t.IsFiller) (ps : List Part) :
    Part.findDeeper? kind (ts.map (toPart src) ++ ps) = Part.findDeeper? kind ps := by
  induction ts with
  | nil => rfl
  | cons t ts ih =>
    obtain ⟨ht, hts⟩ := List.forall_mem_cons.1 h
    rw [List.map_cons, List.cons_append, Part.findDeeper?, ht.findBelow?_eq_none, Option.none_or,
      ih hts]

/-- The first child that is neither token nor comment is found. -/
theorem findBelow?_of_child {row : Row} {before after : List Cst}
    (hbefore : ∀ u ∈ before, u.IsFiller) (ht : t.label.IsConstruct kind)
    (hkind : kind ∉ KindNames.comments) :
    Part.findBelow? kind (toPart src (.node row (before ++ t :: after))) =
      some (toPart src t) := by
  rw [toPart_node]
  apply Part.findBelow?_of_children
  rw [List.map_append, List.filter_append, List.find?_append, find?_fillers hbefore hkind,
    Option.none_or]
  simp [isNamed_toPart, isKind_toPart, ht.named, ht.kind_eq]

/-- A hit in the only child that is neither token nor comment is found, unless it is this child. -/
theorem findBelow?_of_inner {row : Row} {before after : List Cst} {u : Cst}
    (hfillers : ∀ t ∈ before ++ after, t.IsFiller) (hnamed : u.label.named = true)
    (hne : u.label.kind ≠ kind) (hkind : kind ∉ KindNames.comments) {p : Part}
    (hfound : Part.findBelow? kind (toPart src u) = some p) :
    Part.findBelow? kind (toPart src (.node row (before ++ u :: after))) = some p := by
  rw [List.forall_mem_append] at hfillers
  have hchild : (((before ++ u :: after).map (toPart src)).filter Part.isNamed).find?
      (Part.isKind · kind) = none := by
    have hkind' : Part.isKind (toPart src u) kind = false := by
      rw [isKind_toPart]
      exact beq_eq_false_iff_ne.2 hne
    rw [List.map_append, List.filter_append, List.find?_append, find?_fillers hfillers.1 hkind,
      Option.none_or, List.map_cons, List.filter_cons, isNamed_toPart, if_pos hnamed,
      List.find?_cons, hkind']
    exact find?_fillers hfillers.2 hkind
  rw [toPart_node, Part.findBelow?, hchild, Option.none_or, List.map_append,
    findDeeper?_fillers hfillers.1, List.map_cons, Part.findDeeper?, isNamed_toPart, if_pos hnamed,
    hfound, Option.some_or]

/-! ### Names of types -/

/-- The row of a comment is no identifier. -/
theorem isIdentifier_eq_false_of_isComment {row : Row} (h : row.isComment = true) :
    row.isIdentifier = false := by
  have hall : ∀ kind ∈ KindNames.comments, KindNames.identifiers.contains kind = false := by decide
  exact hall row.kind (List.contains_iff_mem.1 h)

/-- Type arguments, tokens and comments add nothing to the identifiers of a type. -/
theorem identifiersAmong_toPart (src : Source) {ts : List Cst} (h : ∀ u ∈ ts,
      IsFiller u ∨ u.label.kind = "type_arguments" ∨ u.label.isIdentifier = true) :
    Part.identifiersAmong src (ts.map (toPart src)) =
      ((ts.map RoseTree.label).filter fun r => r.named && r.isIdentifier).map src.rowText := by
  induction ts with
  | nil => rfl
  | cons t ts ih =>
    obtain ⟨ht, hts⟩ := List.forall_mem_cons.1 h
    rw [List.map_cons, Part.identifiersAmong, ih hts, List.map_cons, List.filter_cons,
      isNamed_toPart, isKind_toPart, isKind_toPart, row_toPart]
    cases hnamed : t.label.named with
    | false => rfl
    | true =>
      rcases ht with (hunnamed | ⟨hcomment, hchildren⟩) | harguments | hidentifier
      · rw [hnamed] at hunnamed
        cases hunnamed
      · have hbelow : Part.identifiersBelow src (toPart src t) = [] := by
          obtain ⟨row, us⟩ := t
          rw [RoseTree.children_node] at hchildren
          subst hchildren
          rfl
        simp [isIdentifier_eq_false_of_isComment hcomment, hbelow]
      · have hidentifier : t.label.isIdentifier = false := by
          rw [Row.isIdentifier, harguments]
          decide
        simp [harguments, hidentifier]
      · have hother : ∀ kind ∉ KindNames.identifiers, (t.label.kind == kind) = false :=
          Row.kind_ne_of_isIdentifier hidentifier
        simp [hother, KindNames.identifiers, hidentifier]

/-- The dotted name of a type is read off it. -/
theorem IsUserType.typeName_eq {name : String} (h : t.IsUserType src name) :
    Part.typeName src (toPart src t) = name.toList := by
  have hamong := identifiersAmong_toPart src h.parts
  obtain ⟨row, ts⟩ := t
  rw [h.name_eq, segments, ← hamong, toPart_node]
  rfl

/-! ### Entries -/

/-- A supertype with a type makes one entry, a constructor call exactly if one is found. -/
theorem exists_superTypeEntry {type : Part}
    (htype : Part.superType? (toPart src t) = some type) :
    ∃ entry : Sketch, Part.superTypeEntry src (toPart src t) = [entry] ∧
      entry.IsEntryOf (Part.typeName src type) ∧ entry.label.kind =
        if (Part.findBelow? "constructor_invocation" (toPart src t)).isSome then
          .superTypeCallEntry else .superTypeEntry := by
  rcases Part.superTypeEntry_cases src (toPart src t) with ⟨hnone, -⟩ |
    ⟨type', rest, htype', heq, hrest⟩
  · rw [htype] at hnone
    cases hnone
  · obtain rfl : type = type' := Option.some.inj (htype.symm.trans htype')
    refine ⟨_, heq, ⟨_, rest, rfl, ?_⟩, rfl⟩
    intro s hs
    obtain ⟨q, hq, hs⟩ := hrest s hs
    obtain ⟨u, -, rfl⟩ := exists_of_mem_preorder_toPart hq
    exact isSuperTypeList_of_mem_sketches src u s hs

/-- Among tokens and comments there is no construct. -/
theorem any_fillers {ts : List Cst} (h : ∀ t ∈ ts, t.IsFiller) (kind : String)
    (hkind : kind ∉ KindNames.comments) :
    (ts.any fun u => u.label.named && u.label.kind == kind) = false := by
  rw [List.any_eq_false]
  intro t ht
  rw [(h t ht).find_eq_false hkind]
  exact Bool.false_ne_true

/-- A search finds nothing where no row has the kind. -/
theorem findBelow?_eq_none (src : Source) (h : ∀ u ∈ t.preorder, u.label.kind ≠ kind) :
    Part.findBelow? kind (toPart src t) = none := by
  apply Part.findBelow?_eq_none
  intro q hq _
  obtain ⟨u, hu, rfl⟩ := exists_of_mem_preorder_toPart hq
  rw [row_toPart]
  exact h u hu

namespace IsSupertype

variable {s : Supertype}

/-- The form of a supertype tells whether it is a constructor call. -/
theorem isConstructed_eq (h : IsSupertype src s t) : t.isConstructed = s.isCall := by
  have hother : ∀ {entry : Row} {before after : List Cst} {u : Cst},
      (∀ t ∈ before ++ after, IsFiller t) → u.label.kind ≠ "constructor_invocation" →
        isConstructed (.node entry (before ++ u :: after)) = false := by
    intro entry before after u hfillers hne
    have hnone := any_fillers hfillers "constructor_invocation" (by decide)
    rw [List.any_append] at hnone
    rw [isConstructed, RoseTree.children_node, List.any_append, List.any_cons,
      beq_eq_false_iff_ne.2 hne, Bool.and_false, Bool.false_or, hnone]
  cases h with
  | call hentry hinvocation htype hfillers =>
    simp [isConstructed, hinvocation.named, hinvocation.kind_eq]
  | plain hentry htype hfillers =>
    exact hother hfillers (by rw [htype.type.kind_eq]; decide)
  | delegated hentry hdelegation htype hfillers =>
    refine hother (fun t ht => hfillers t (List.mem_append_left _ ht)) ?_
    rw [RoseTree.label_node, hdelegation.kind_eq]
    decide

/-- The type of a supertype is found: in the constructor call if it is one, else anywhere in it. -/
theorem exists_type (h : IsSupertype src s t) :
    ∃ type : Cst, type.IsUserType src s.name ∧
      if s.isCall then
        ∃ call, Part.findBelow? "constructor_invocation" (toPart src t) = some call ∧
          Part.findBelow? "user_type" call = some (toPart src type)
      else Part.findBelow? "user_type" (toPart src t) = some (toPart src type) := by
  cases h with
  | @call entry invocation type before after front back name hentry hinvocation htype hfillers =>
    rw [List.forall_mem_append, List.forall_mem_append] at hfillers
    obtain ⟨⟨hbefore, -⟩, hfront⟩ := hfillers
    refine ⟨type, htype, toPart src (.node invocation (front ++ type :: back)), ?_, ?_⟩
    · exact findBelow?_of_child hbefore hinvocation (by decide)
    · exact findBelow?_of_child hfront htype.type (by decide)
  | @plain entry type before after name hentry htype hfillers =>
    rw [List.forall_mem_append] at hfillers
    exact ⟨type, htype, findBelow?_of_child hfillers.1 htype.type (by decide)⟩
  | @delegated entry delegation type before after front back name hentry hdelegation htype
      hfillers =>
    rw [List.forall_mem_append] at hfillers
    obtain ⟨houter, hfront⟩ := hfillers
    have hkind : delegation.kind ≠ "user_type" := by
      rw [hdelegation.kind_eq]
      decide
    have hnamed : (RoseTree.node delegation (front ++ type :: back)).label.named = true :=
      hdelegation.named
    refine ⟨type, htype, findBelow?_of_inner houter hnamed hkind (by decide) ?_⟩
    exact findBelow?_of_child hfront htype.type (by decide)

/-- A supertype makes the entry that it is written as, unless it hides a constructor call. -/
theorem exists_entry (h : IsSupertype src s t)
    (hhidden : s.isCall = false → ∀ u ∈ t.preorder, u.label.kind ≠ "constructor_invocation") :
    ∃ entry : Sketch, Part.superTypeEntry src (toPart src t) = [entry] ∧
      entry.IsEntryOf s.name.toList ∧ entry.label.kind =
        if s.isCall then .superTypeCallEntry else .superTypeEntry := by
  obtain ⟨type, htype, hfound⟩ := h.exists_type
  rw [← htype.typeName_eq]
  cases hcall : s.isCall with
  | true =>
    rw [hcall, if_pos rfl] at hfound
    obtain ⟨call, hinvocation, hfound⟩ := hfound
    have hsuper : Part.superType? (toPart src t) = some (toPart src type) := by
      rw [Part.superType?, hinvocation, Option.getD_some, hfound]
    have hentry := exists_superTypeEntry hsuper
    rwa [hinvocation] at hentry
  | false =>
    rw [hcall, if_neg Bool.false_ne_true] at hfound
    have hnone := findBelow?_eq_none src (hhidden hcall)
    have hsuper : Part.superType? (toPart src t) = some (toPart src type) := by
      rw [Part.superType?, hnone, Option.getD_none, hfound]
    have hentry := exists_superTypeEntry hsuper
    rwa [hnone] at hentry

end IsSupertype

/-! ### Lists of supertypes -/

/-- The entries of a list of supertypes. -/
def entries (src : Source) (ts : List Cst) : List Sketch :=
  ts.flatMap fun t => Part.superTypeEntry src (toPart src t)

variable {supertypes : List Supertype} {ts : List Cst} {s : Supertype}

/-- If no call is hidden and the first supertype is none, it holds no call either, and none is
hidden behind it. -/
theorem HidesNoCall.of_cons (h : HidesNoCall (t :: ts)) (ht : t.isConstructed = false) :
    (∀ u ∈ t.preorder, u.label.kind ≠ "constructor_invocation") ∧ HidesNoCall ts := by
  rw [HidesNoCall, List.takeWhile_cons_of_pos (by rw [ht]; rfl)] at h
  exact List.forall_mem_cons.1 h

/-- The first constructor call among the supertypes is the first among the entries. By induction on
the supertypes: those before it make other entries. -/
theorem find?_entries_of_call (h : List.Forall₂ (IsSupertype src) supertypes ts)
    (hhidden : HidesNoCall ts) :
    Option.Rel (fun (s : Supertype) (e : Sketch) => e.IsEntryOf s.name.toList)
      (supertypes.find? Supertype.isCall)
      ((entries src ts).find? (·.label.kind == .superTypeCallEntry)) := by
  induction h with
  | nil => exact .none
  | @cons s t supertypes ts ht _ ih =>
    rw [entries, List.flatMap_cons, List.find?_append, List.find?_cons]
    cases hcall : s.isCall with
    | true =>
      obtain ⟨entry, hentry, hname, hkind⟩ := ht.exists_entry
        fun hnot => by rw [hcall] at hnot; cases hnot
      rw [hcall, if_pos rfl] at hkind
      rw [hentry, List.find?_cons_of_pos (by rw [hkind]; rfl), Option.some_or]
      exact .some hname
    | false =>
      obtain ⟨hhead, htail⟩ := hhidden.of_cons (ht.isConstructed_eq.trans hcall)
      obtain ⟨entry, hentry, -, hkind⟩ := ht.exists_entry fun _ => hhead
      rw [hcall, if_neg Bool.false_ne_true] at hkind
      rw [hentry, List.find?_cons_of_neg (by rw [hkind]; decide), List.find?_nil, Option.none_or]
      exact ih htail

/-- The entry that names the superclass is that of the superclass. -/
theorem rel_superEntry? (h : List.Forall₂ (IsSupertype src) supertypes ts)
    (hhidden : HidesNoCall ts) :
    Option.Rel (fun (s : Supertype) (e : Sketch) => e.IsEntryOf s.name.toList)
      (Supertype.superclass? supertypes) (Sketch.superEntry? (entries src ts)) := by
  have hfind := find?_entries_of_call h hhidden
  unfold Supertype.superclass? Sketch.superEntry?
  cases h with
  | nil => exact .none
  | @cons s t supertypes ts ht _ =>
    generalize hcall : (s :: supertypes).find? Supertype.isCall = call at hfind ⊢
    generalize (entries src (t :: ts)).find? (·.label.kind == .superTypeCallEntry) = found
      at hfind ⊢
    cases hfind with
    | some hname => exact .some hname
    | none =>
      -- no constructor call at all, so the first entry is that of the first supertype
      have hnot : s.isCall = false := by
        simpa using List.find?_eq_none.1 hcall s List.mem_cons_self
      obtain ⟨hhead, -⟩ := hhidden.of_cons (ht.isConstructed_eq.trans hnot)
      obtain ⟨entry, hentry, hname, hkind⟩ := ht.exists_entry fun _ => hhead
      rw [hnot, if_neg Bool.false_ne_true] at hkind
      rw [Option.none_or, Option.none_or, entries, List.flatMap_cons, hentry,
        List.singleton_append, List.find?_cons_of_pos (by rw [hkind]; rfl)]
      exact .some hname

/-! ### Classes -/

/-- A class and an object lower to a node over what their children lower to there. -/
theorem exists_sketches_of_declaration {row : Row}
    (h : row.IsConstruct "class_declaration" ∨ row.IsConstruct "object_declaration") (src : Source)
    (ts : List Cst) :
    ∃ kind : NodeKind, kind.isClassOrObject = true ∧ sketches src (.node row ts) =
      [.composite kind (src.rowSpan row) (ts.flatMap (memberSketches src))] := by
  rcases h with h | h
  · exact ⟨.classDeclaration, rfl, sketches_of_class h src ts⟩
  · refine ⟨.objectDeclaration, rfl, ?_⟩
    rw [h.sketches_eq (by decide)]
    unfold Part.constructNodes
    rw [h.kind_eq, List.flatMap_map]
    rfl

/-- The members of a class beside its header bring no supertype list. -/
theorem isSuperTypeList_of_mem_memberSketches (h : ∀ t ∈ ts, t.isDelegation = false) :
    ∀ s ∈ ts.flatMap (memberSketches src), s.isSuperTypeList = false := by
  have hnone : ts.countP isDelegation = 0 := List.countP_eq_zero.2 (by simpa using h)
  have hcount := countP_flatMap_memberSketches_le src ts
  rw [hnone, Nat.le_zero, List.countP_eq_zero] at hcount
  simpa using hcount

/-- The supertypes in one row lower to a list of their entries, if there are any. -/
theorem memberSketches_of_header {header : Cst}
    (h : header.label.IsConstruct "delegation_specifiers") :
    memberSketches src header =
      if header.supertypeRows = [] then []
      else [.composite .superTypeList (src.rowSpan header.label)
        (entries src header.supertypeRows)] := by
  obtain ⟨row, ts⟩ := header
  have hrow : row.IsConstruct "delegation_specifiers" := h
  have hparts : superTypeParts src ts =
      (supertypeRows (.node row ts)).map (toPart src) := by
    simp only [superTypeParts, supertypeRows, List.filter_map, Function.comp_def, isKind_toPart,
      isNamed_toPart, RoseTree.children_node]
  rw [memberSketches_of_superTypes src ts hrow, hparts, Part.superTypeList, List.isEmpty_map,
    List.flatMap_map]
  simp only [List.isEmpty_iff]
  rfl

/-- The entries of a supertype list are no supertype lists. -/
theorem isSuperTypeList_of_mem_entries : ∀ s ∈ entries src ts, s.isSuperTypeList = false := by
  intro s hs
  obtain ⟨t, -, hs⟩ := List.mem_flatMap.1 hs
  exact isSuperTypeList_of_mem_superTypeEntry hs

end Cst

/-- **The declared superclass is kept.** A class or an object whose supertypes stand in one row
lowers to one node. The superclass that is read off it is the first supertype written as a
constructor call, or else the first of all, if no supertype before that call has a call inside. -/
theorem superTypeName?_of_hasHeader {supertypes : List Supertype} {header t : Cst}
    (h : t.HasHeader src supertypes header) (hhidden : Cst.HidesNoCall header.supertypeRows) :
    ∃ s, Cst.sketches src t = [s] ∧ ∀ n : Node, n.Shows s →
      n.kind.isClassOrObject = true ∧ superTypeName? n =
        ((Supertype.superclass? supertypes).map Supertype.name).filter (!·.isEmpty) := by
  obtain ⟨hrow, honly, hheader, hsupertypes⟩ := h
  obtain ⟨row, ts⟩ := t
  obtain ⟨kind, hkind, hsketches⟩ := Cst.exists_sketches_of_declaration hrow src ts
  refine ⟨_, hsketches, fun n hshow => ⟨hshow.kind_eq ▸ hkind, ?_⟩⟩
  obtain ⟨before, after, rfl, hbefore, -, hafter⟩ := List.filter_eq_cons_iff.1 honly
  -- the header is the only row with supertypes, so its list is the first one of the class
  have hother : ∀ s ∈ before.flatMap (Cst.memberSketches src) ++
      after.flatMap (Cst.memberSketches src), s.isSuperTypeList = false := by
    rw [← List.flatMap_append]
    apply Cst.isSuperTypeList_of_mem_memberSketches
    intro t ht
    rcases List.mem_append.1 ht with ht | ht
    · simpa using hbefore t ht
    · simpa using List.filter_eq_nil_iff.1 hafter t ht
  have hrel := Cst.rel_superEntry? hsupertypes hhidden
  rw [List.flatMap_append, List.flatMap_cons, Cst.memberSketches_of_header hheader] at hshow
  generalize hclass : Supertype.superclass? supertypes = found at hrel
  generalize hentry : Sketch.superEntry? _ = entry at hrel
  cases hrel with
  | none =>
    rw [Supertype.superclass?_eq_none_iff.1 hclass, List.forall₂_nil_left_iff] at hsupertypes
    rw [if_pos hsupertypes, List.nil_append] at hshow
    exact superTypeName?_eq_none_of_shows hshow hother
  | @some s entry hname =>
    have hne : header.supertypeRows ≠ [] := by
      intro hnil
      rw [hnil] at hentry
      cases hentry
    rw [if_neg hne, List.singleton_append] at hshow
    have hread := superTypeName?_of_shows _ _ hshow hother Cst.isSuperTypeList_of_mem_entries
      hentry hname
    rw [hread, String.ofList_toList, Option.map_some, Option.filter_some]
    cases s.name.isEmpty <;> rfl

/-! ### Two files -/

namespace HeaderSample

open FunSpecSample (construct token isConstruct)

/-- A type with one segment. -/
def simpleType (start stop : UInt32) : Cst :=
  construct "user_type" start stop [construct "identifier" start stop []]

/-- A constructor call without arguments, as the only supertype in a row. -/
def bareHeader (start mid stop : UInt32) : Cst :=
  construct "delegation_specifiers" start stop [construct "delegation_specifier" start stop
    [construct "constructor_invocation" start stop [simpleType start mid,
      construct "value_arguments" mid stop [token "(" mid (mid + 1), token ")" (stop - 1) stop]]]]

/-- A delegation to some expression. -/
def delegation (start mid stop : UInt32) (expression : Cst) : Cst :=
  construct "delegation_specifier" start stop [construct "explicit_delegation" start stop
    [simpleType start mid, token "by" (mid + 1) (mid + 3), expression]]

/-- A class with a delegation and a constructor call that has an object among its arguments. -/
def mixedSource : Source := .ofString "class S : Tag by t, b.Base<A>(object : C())"

/-- The supertypes of that class. -/
def mixedHeader : Cst :=
  construct "delegation_specifiers" 10 43 [delegation 10 13 18 (construct "identifier" 17 18 []),
    token "," 18 19, construct "delegation_specifier" 20 43
      [construct "constructor_invocation" 20 43
        [construct "user_type" 20 29 [construct "identifier" 20 21 [], token "." 21 22,
            construct "identifier" 22 26 [], construct "type_arguments" 26 29
              [token "<" 26 27, construct "type_projection" 27 28 [simpleType 27 28],
                token ">" 28 29]],
          construct "value_arguments" 29 43 [token "(" 29 30, construct "value_argument" 30 42
            [construct "object_literal" 30 42
              [token "object" 30 36, token ":" 37 38, bareHeader 39 40 42]], token ")" 42 43]]]]

/-- A class that delegates to an object with a superclass of its own. -/
def delegatingSource : Source := .ofString "class S : Runner by (object : FunSpec() \x7b \x7d)"

/-- The supertypes of that class. -/
def delegatingHeader : Cst :=
  construct "delegation_specifiers" 10 44 [delegation 10 16 44
    (construct "parenthesized_expression" 20 44 [token "(" 20 21,
      construct "object_literal" 21 43 [token "object" 21 27, token ":" 28 29, bareHeader 30 37 39,
        construct "class_body" 40 43 [token "\x7b" 40 41, token "\x7d" 42 43]], token ")" 43 44])]

/-- A class with a header. -/
def declare (stop : UInt32) (header : Cst) : Cst :=
  construct "class_declaration" 0 stop [token "class" 0 5, construct "identifier" 6 7 [],
    token ":" 8 9, header]

/-- An identifier as the only child of a type is its name. -/
theorem isUserType_simpleType {src : Source} {start stop : UInt32} {name : String}
    (h : name.toList = src.rowText ⟨"identifier", true, false, false, start, stop⟩) :
    (simpleType start stop).IsUserType src name where
  type := isConstruct _ start stop
  parts := by
    intro u hu
    obtain rfl := List.mem_singleton.1 hu
    have hkind : "identifier" ∈ KindNames.identifiers := by decide
    exact Or.inr (Or.inr (List.contains_iff_mem.2 hkind))
  name_eq := by
    rw [h]
    exact List.intercalate_singleton.symm

/-- A type in front of `by` and an expression is a supertype that is no constructor call. -/
theorem isSupertype_delegation {src : Source} {start mid stop : UInt32} {name : String}
    (expression : Cst)
    (h : name.toList = src.rowText ⟨"identifier", true, false, false, start, mid⟩) :
    Cst.IsSupertype src ⟨false, name⟩ (delegation start mid stop expression) :=
  @Cst.IsSupertype.delegated _ _ _ _ [] [] [] _ name (isConstruct _ start stop)
    (isConstruct _ start stop) (isUserType_simpleType h) (by simp)

/-- The class that delegates to an object is written with one supertype. -/
theorem hasHeader_delegatingHeader : Cst.HasHeader delegatingSource [⟨false, "Runner"⟩]
    (declare 44 delegatingHeader) delegatingHeader where
  declaration := Or.inl (isConstruct _ 0 44)
  delegation := by rfl
  row := isConstruct _ 10 44
  supertypes := .cons (isSupertype_delegation _ (by decide)) .nil

/-- The class with a delegation and a constructor call is written with these two supertypes. -/
theorem hasHeader_mixedHeader : Cst.HasHeader mixedSource [⟨false, "Tag"⟩, ⟨true, "b.Base"⟩]
    (declare 43 mixedHeader) mixedHeader where
  declaration := Or.inl (isConstruct _ 0 43)
  delegation := by rfl
  row := isConstruct _ 10 43
  supertypes := by
    refine .cons (isSupertype_delegation _ (by decide)) (.cons ?_ .nil)
    refine @Cst.IsSupertype.call _ _ _ _ [] [] [] _ "b.Base" (isConstruct _ 20 43)
      (isConstruct _ 20 43) ⟨isConstruct _ 20 29, ?_, by decide⟩ (by simp)
    decide

end HeaderSample

open HeaderSample

/-- The class with two supertypes keeps the second one, which is a constructor call. -/
theorem superTypeName?_mixedHeader :
    Cst.HasHeader mixedSource [⟨false, "Tag"⟩, ⟨true, "b.Base"⟩] (declare 43 mixedHeader)
        mixedHeader ∧
      Cst.HidesNoCall mixedHeader.supertypeRows ∧
      ∃ s, Cst.sketches mixedSource (declare 43 mixedHeader) = [s] ∧
        ∀ n : Node, n.Shows s → n.kind.isClassOrObject = true ∧ superTypeName? n = some "b.Base" :=
  ⟨hasHeader_mixedHeader, by decide,
    superTypeName?_of_hasHeader hasHeader_mixedHeader (by decide)⟩

/-- The class that delegates to an object has the superclass of that object instead of its own. -/
theorem not_forall_superTypeName?_of_hasHeader :
    ¬ ∀ (src : Source) (supertypes : List Supertype) (header t : Cst),
      t.HasHeader src supertypes header →
        ∃ s, Cst.sketches src t = [s] ∧ ∀ n : Node, n.Shows s →
          n.kind.isClassOrObject = true ∧ superTypeName? n =
            ((Supertype.superclass? supertypes).map Supertype.name).filter (!·.isEmpty) := by
  intro h
  obtain ⟨s, hs, hall⟩ := h _ _ _ _ hasHeader_delegatingHeader
  obtain ⟨-, hdeclared⟩ := hall (Node.ofTree s.number) (Sketch.numbersTo_number s)
  have hread : (Cst.sketches delegatingSource (declare 44 delegatingHeader)).map
      (fun s => superTypeName? (Node.ofTree s.number)) = [some "FunSpec"] := by decide
  rw [hs, List.map_singleton, hdeclared] at hread
  exact absurd hread (by decide)

end KotestOutline
