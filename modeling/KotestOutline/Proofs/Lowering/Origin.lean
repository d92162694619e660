import KotestOutline.Pattern
import KotestOutline.Proofs.Lowering.Constructs
import KotestOutline.Proofs.Suite.RoundTrip
import KotestOutline.Proofs.Syntax.Order
import KotestOutline.Symbol

/-!
# Where nodes come from

Every node of a lowered file stands for a row of the concrete tree, and a missing row, which is a
token that the parser invented, gives a missing node without text or none at all. So no name of the
lowered tree is one that the source does not have.

* `Part.picked` are the rows that a rule picks out by their kind, past the check for missing rows:
  the name of a class, the rows of its supertypes, dot and selector of a dotted access, the escape
  sequences in a row of content. Grammars invent identifiers, also at these places.
* `Sketch.IsFrom` is what a sketch says about the row that it stands for, `Node.StandsFor` the same
  for a node.
* `Part.isTraced_rowNodes` is one step: from the parts below a row to the row.
* `Cst.hasOrigins_of_picksPresent` is the whole file, if no picked row is missing
  (`Cst.PicksPresent`), and `Cst.not_forall_hasOrigins` is a class without a name, which has an
  empty one.
-/

namespace KotestOutline

variable {src : Source}

/-! ### Rows that are picked out -/

namespace Part

mutual
/-- The rows of the identifiers that the dotted name of a type is made of. -/
def nameRows : RoseTree (Row × List Sketch) → List Row
  | .node _ children => nameRowsAmong children

/-- The rows of the identifiers that a list of rows holds. -/
def nameRowsAmong : List (RoseTree (Row × List Sketch)) → List Row
  | [] => []
  | p :: ps =>
    let later := nameRowsAmong ps
    if !isNamed p || isKind p "type_arguments" || isKind p "type_projection" then later
    else if (row p).isIdentifier then row p :: later
    else nameRows p ++ later
end

mutual

/-- The names below a part are the texts of the rows they are read off. -/
theorem identifiersBelow_eq (src : Source) : (p : RoseTree (Row × List Sketch)) →
    identifiersBelow src p = (nameRows p).map src.rowText
  | .node _ children => by
    rw [identifiersBelow, nameRows, identifiersAmong_eq src children]

/-- The names among some parts are the texts of the rows they are read off. -/
theorem identifiersAmong_eq (src : Source) : (ps : List (RoseTree (Row × List Sketch))) →
    identifiersAmong src ps = (nameRowsAmong ps).map src.rowText
  | [] => rfl
  | p :: ps => by
    rw [identifiersAmong, nameRowsAmong, identifiersBelow_eq src p, identifiersAmong_eq src ps]
    split_ifs
    · rfl
    · rfl
    · rw [List.map_append]

end

/-- The rows that the entry of a supertype is read off. -/
def pickedBySupertype (p : Part) : List Row :=
  match superType? p with
  | none => []
  | some type => p.row :: type.row :: nameRows type

/-- The rows that a supertype list is read off. -/
def pickedByList (row : Row) (supertypes : List Part) : List Row :=
  if supertypes.isEmpty then [] else row :: supertypes.flatMap pickedBySupertype

/-- The rows that one child of a class is read off, if it is its name or holds supertypes. -/
def pickedByMember (p : Part) : List Row :=
  if p.isNamed && p.row.isIdentifier then [p.row]
  else if p.isKind "delegation_specifiers" then
    pickedByList p.row (p.namedChildren.filter (·.isKind "delegation_specifier"))
  else if p.isKind "delegation_specifier" then pickedByList p.row [p]
  else []

/-- Dot and selector of a dotted access. -/
def pickedByNavigation (src : Source) (children : List Part) : List Row :=
  match dotToken? src children with
  | none => []
  | some dot => dot.row :: ((selector? children).map row).toList

/-- The escape sequences in a row of content. -/
def pickedByContent (p : Part) : List Row :=
  if p.row.isContent then (p.namedChildren.filter (·.row.isEscape)).map row else []

/-- The rows that the rule for a row picks out by their kind, without a check for missing ones. -/
def picked (src : Source) (row : Row) (children : List Part) : List Row :=
  match Role.ofKind row.kind with
  | .classDeclaration | .objectDeclaration => children.flatMap pickedByMember
  | .navigation => pickedByNavigation src children
  | .string => children.flatMap pickedByContent
  | _ => []

end Part

/-! ### Origins -/

/-- The kinds of node that say more about their row than its span. -/
def NodeKind.isTold : NodeKind → Bool
  | .missing | .identifier | .nameReference | .typeReference => true
  | _ => false

/-- Whether a span is that of a row. The call of a selector only ends with the row of the call. -/
def Row.HasSpan (src : Source) (row : Row) (kind : NodeKind) (span : Span) : Prop :=
  span = src.rowSpan row ∨ kind = .callExpression ∧ span.stop = (src.rowSpan row).stop

namespace Sketch

/-- What a sketch says about the row of a part that it stands for. -/
structure IsFrom (src : Source) (p : Part) (s : Sketch) : Prop where
  span : p.row.HasSpan src s.label.kind s.label.span
  missing : p.row.missing = true → s = .leaf .missing [] (src.rowSpan p.row)
  present : s.label.kind = .missing → p.row.missing = true
  name : s.label.kind = .identifier →
    p.row.isIdentifier = true ∧ s = .leaf .identifier (src.rowText p.row) (src.rowSpan p.row)
  reference : s.label.kind = .nameReference →
    p.row.isIdentifier = true ∧ s = Part.nameReference src p.row
  type : s.label.kind = .typeReference →
    p.row.kind = "user_type" ∧ (∀ r ∈ Part.nameRows p, r.missing = false) ∧
      s = .leaf .typeReference (Part.typeName src p) (src.rowSpan p.row)

/-- Whether every node of a sketch stands for a row of some parts. -/
def IsTraced (src : Source) (parts : List Part) (s : Sketch) : Prop :=
  ∀ v ∈ s.preorder, ∃ p ∈ parts, IsFrom src p v

variable {parts : List Part} {p : Part} {s : Sketch}

/-- The token for what is missing stands for the missing row. -/
theorem isFrom_missing (h : p.row.missing = true) :
    IsFrom src p (.leaf .missing [] (src.rowSpan p.row)) where
  span := Or.inl rfl
  missing _ := rfl
  present _ := h
  name := by rintro ⟨⟩
  reference := by rintro ⟨⟩
  type := by rintro ⟨⟩

/-- A sketch whose kind says nothing but a span stands for a row that is there. -/
theorem isFrom_of_present (hrow : p.row.missing = false) (hkind : s.label.kind.isTold = false)
    (hspan : p.row.HasSpan src s.label.kind s.label.span) : IsFrom src p s where
  span := hspan
  missing hmissing := by rw [hrow] at hmissing; cases hmissing
  present hmissing := by rw [hmissing] at hkind; cases hkind
  name hname := by rw [hname] at hkind; cases hkind
  reference href := by rw [href] at hkind; cases hkind
  type htype := by rw [htype] at hkind; cases hkind

/-- A sketch is traced if its root stands for one of the parts and what is below it is traced. -/
theorem isTraced_node {content : Content} {children : List Sketch} (hp : p ∈ parts)
    (h : IsFrom src p (.node content children)) (hc : ∀ c ∈ children, IsTraced src parts c) :
    IsTraced src parts (.node content children) := by
  intro v hv
  rcases RoseTree.mem_preorder_iff.1 hv with rfl | ⟨c, hmem, hv⟩
  · exact ⟨p, hp, h⟩
  · exact hc c hmem v hv

/-- A leaf is traced if it stands for one of the parts. -/
theorem isTraced_leaf {kind : NodeKind} {text : List Char} {span : Span} (hp : p ∈ parts)
    (h : IsFrom src p (.leaf kind text span)) : IsTraced src parts (.leaf kind text span) :=
  isTraced_node hp h (by simp)

/-- A leaf of a kind that says nothing more. -/
theorem isTraced_plainLeaf {kind : NodeKind} (text : List Char) (hp : p ∈ parts)
    (hrow : p.row.missing = false) (hkind : kind.isTold = false) :
    IsTraced src parts (.leaf kind text (src.rowSpan p.row)) :=
  isTraced_leaf hp (isFrom_of_present hrow hkind (Or.inl rfl))

/-- A node over traced sketches is traced to the part that it has the span of. -/
theorem isTraced_composite {kind : NodeKind} {children : List Sketch} (hp : p ∈ parts)
    (hrow : p.row.missing = false) (hkind : kind.isTold = false)
    (hc : ∀ c ∈ children, IsTraced src parts c) :
    IsTraced src parts (.composite kind (src.rowSpan p.row) children) :=
  isTraced_node hp (isFrom_of_present hrow hkind (Or.inl rfl)) hc

end Sketch

/-! ### Parts -/

namespace Part

open Sketch

variable {parts : List Part} {p q : Part} {row : Row} {ps : List Part}

/-- Whether a part and all below it are among some parts, pick no missing row and have sketches
whose nodes stand for rows of these parts. -/
def IsKnown (src : Source) (parts : List Part) (p : Part) : Prop :=
  ∀ q : Part, q ∈ p.preorder → q ∈ parts ∧ (∀ r ∈ picked src q.row q.children, r.missing = false) ∧
    ∀ s ∈ q.sketches, IsTraced src parts s

/-- A known part is among the parts. -/
theorem IsKnown.mem (h : IsKnown src parts p) : p ∈ parts :=
  (h p (RoseTree.self_mem_preorder p)).1

/-- The rule for a known part picks no missing row. -/
theorem IsKnown.picked (h : IsKnown src parts p) :
    ∀ r ∈ Part.picked src p.row p.children, r.missing = false :=
  (h p (RoseTree.self_mem_preorder p)).2.1

/-- What a known part lowers to is traced. -/
theorem IsKnown.sketches (h : IsKnown src parts p) : ∀ s ∈ p.sketches, IsTraced src parts s :=
  (h p (RoseTree.self_mem_preorder p)).2.2

/-- Every part below a known one is known. -/
theorem IsKnown.of_mem_preorder (h : IsKnown src parts p) (hq : q ∈ p.preorder) :
    IsKnown src parts q :=
  fun r hr => h r (RoseTree.mem_preorder_trans hr hq)

/-- The children of a known part are known. -/
theorem IsKnown.of_mem_children (h : IsKnown src parts p) (hq : q ∈ p.children) :
    IsKnown src parts q :=
  h.of_mem_preorder (RoseTree.mem_preorder_of_mem_children hq)

/-- What known parts lower to is traced. -/
theorem isTraced_sketchAll (h : ∀ p ∈ ps, IsKnown src parts p) :
    ∀ s ∈ sketchAll ps, IsTraced src parts s := by
  intro s hs
  obtain ⟨p, hp, hs⟩ := mem_sketchAll.1 hs
  exact (h p hp).sketches s hs

/-- A leaf with the name of an identifier, and a reference with such a leaf. -/
theorem isTraced_identifier (hp : p ∈ parts) (hrow : p.row.missing = false)
    (hidentifier : p.row.isIdentifier = true) :
    IsTraced src parts (.leaf .identifier (src.rowText p.row) (src.rowSpan p.row)) := by
  refine isTraced_leaf hp ?_
  exact {
    span := Or.inl rfl
    missing := fun h => by rw [hrow] at h; cases h
    present := by rintro ⟨⟩
    name := fun _ => ⟨hidentifier, rfl⟩
    reference := by rintro ⟨⟩
    type := by rintro ⟨⟩ }

/-- The reference of an identifier that is there is traced to the row of the identifier. -/
theorem isTraced_nameReference (hp : p ∈ parts) (hrow : p.row.missing = false)
    (hidentifier : p.row.isIdentifier = true) :
    IsTraced src parts (nameReference src p.row) := by
  refine isTraced_node hp ?_ ?_
  · exact {
      span := Or.inl rfl
      missing := fun h => by rw [hrow] at h; cases h
      present := by rintro ⟨⟩
      name := by rintro ⟨⟩
      reference := fun _ => ⟨hidentifier, rfl⟩
      type := by rintro ⟨⟩ }
  · intro c hc
    rw [List.mem_singleton.1 hc]
    exact isTraced_identifier hp hrow hidentifier

/-- The reference to a type is traced to the row of the type, if none of the rows of its name is
missing. -/
theorem isTraced_typeReference (hp : p ∈ parts) (hrow : p.row.missing = false)
    (htype : p.isKind "user_type" = true) (hnames : ∀ r ∈ nameRows p, r.missing = false) :
    IsTraced src parts (.leaf .typeReference (typeName src p) (src.rowSpan p.row)) := by
  refine isTraced_leaf hp ?_
  exact {
    span := Or.inl rfl
    missing := fun h => by rw [hrow] at h; cases h
    present := by rintro ⟨⟩
    name := by rintro ⟨⟩
    reference := by rintro ⟨⟩
    type := fun _ => ⟨beq_iff_eq.1 htype, hnames, rfl⟩ }

/-! ### Classes -/

/-- The entry of a supertype is traced, if no row it is read off is missing. -/
theorem isTraced_superTypeEntry (h : IsKnown src parts p)
    (hpicked : ∀ r ∈ pickedBySupertype p, r.missing = false) :
    ∀ s ∈ superTypeEntry src p, IsTraced src parts s := by
  intro s hs
  rcases superTypeEntry_cases src p with ⟨-, heq⟩ | ⟨type, rest, htype, heq, hrest⟩
  · rw [heq] at hs
    cases hs
  rw [heq, List.mem_singleton] at hs
  rw [pickedBySupertype, htype] at hpicked
  simp only [List.mem_cons, forall_eq_or_imp] at hpicked
  obtain ⟨hentry, hrow, hnames⟩ := hpicked
  rw [hs]
  refine isTraced_composite h.mem hentry (by split_ifs <;> rfl) ?_
  intro c hc
  rcases List.mem_cons.1 hc with rfl | hc
  · exact isTraced_typeReference (h.of_mem_preorder (mem_preorder_of_superType? htype)).mem hrow
      (isKind_of_superType? htype) hnames
  · obtain ⟨q, hq, hc⟩ := hrest c hc
    exact (h.of_mem_preorder hq).sketches c hc

/-- A supertype list is traced, if no row it is read off is missing. -/
theorem isTraced_superTypeList (hp : p ∈ parts) (h : ∀ q ∈ ps, IsKnown src parts q)
    (hpicked : ∀ r ∈ pickedByList p.row ps, r.missing = false) :
    ∀ s ∈ superTypeList src p.row ps, IsTraced src parts s := by
  intro s hs
  obtain ⟨hne, rfl⟩ := eq_of_mem_superTypeList hs
  rw [pickedByList, if_neg (by simpa using hne), List.forall_mem_cons] at hpicked
  refine isTraced_composite hp hpicked.1 rfl ?_
  intro c hc
  obtain ⟨q, hq, hc⟩ := List.mem_flatMap.1 hc
  refine isTraced_superTypeEntry (h q hq) ?_ c hc
  exact fun r hr => hpicked.2 r (List.mem_flatMap.2 ⟨q, hq, hr⟩)

/-- The nodes of a child of a class are traced, if no row they are read off is missing. -/
theorem isTraced_classMember (h : IsKnown src parts p)
    (hpicked : ∀ r ∈ pickedByMember p, r.missing = false) :
    ∀ s ∈ classMember src p, IsTraced src parts s := by
  intro s hs
  unfold classMember at hs
  unfold pickedByMember at hpicked
  split_ifs at hs hpicked with hname
  · rw [List.mem_singleton.1 hs]
    rw [Bool.and_eq_true] at hname
    exact isTraced_identifier h.mem (hpicked _ List.mem_cons_self) hname.2
  · refine isTraced_superTypeList h.mem ?_ hpicked s hs
    intro q hq
    exact h.of_mem_children (mem_children_of_mem_namedChildren (List.mem_of_mem_filter hq))
  · refine isTraced_superTypeList h.mem ?_ hpicked s hs
    intro q hq
    rwa [List.mem_singleton.1 hq]
  · exact h.sketches s hs

/-- The body of an initializer is traced, the block around it to the row of the initializer. -/
theorem isTraced_initializerBody (hp : p ∈ parts) (hrow : p.row.missing = false)
    (h : ∀ q ∈ ps, IsKnown src parts q) :
    ∀ s ∈ initializerBody (src.rowSpan p.row) ps, IsTraced src parts s := by
  intro s hs
  unfold initializerBody at hs
  split_ifs at hs
  · exact isTraced_sketchAll h s hs
  · rw [List.mem_singleton.1 hs]
    exact isTraced_composite hp hrow rfl (isTraced_sketchAll h)

/-! ### Calls -/

/-- Receiver and dot are traced, if the row of the dot is not missing. -/
theorem isTraced_receiverAndDot (h : ∀ q ∈ ps, IsKnown src parts q)
    (hpicked : ∀ r ∈ pickedByNavigation src ps, r.missing = false) :
    ∀ s ∈ receiverAndDot src ps, IsTraced src parts s := by
  intro s hs
  rcases mem_receiverAndDot hs with ⟨q, hq, hs⟩ | ⟨dot, hdot, rfl⟩
  · exact (h q hq).sketches s hs
  · rw [pickedByNavigation, hdot] at hpicked
    obtain ⟨q, hq, hmem⟩ := exists_mem_preorder_of_dotToken? hdot
    exact isTraced_plainLeaf _ ((h q hq).of_mem_preorder hmem).mem
      (hpicked _ List.mem_cons_self) rfl

/-- The selector of a dotted access is traced, if its row is not missing. -/
theorem isTraced_selector (h : ∀ q ∈ ps, IsKnown src parts q)
    (hpicked : ∀ r ∈ pickedByNavigation src ps, r.missing = false)
    (hdot : (dotToken? src ps).isSome = true) :
    ∀ s ∈ ((selector? ps).map (nameReference src ·.row)).toList, IsTraced src parts s := by
  intro s hs
  obtain ⟨dot, hdot⟩ := Option.isSome_iff_exists.1 hdot
  rw [Option.mem_toList, Option.map_eq_some_iff] at hs
  obtain ⟨name, hname, rfl⟩ := hs
  rw [pickedByNavigation, hdot, hname] at hpicked
  obtain ⟨q, hq, hmem⟩ := exists_mem_preorder_of_selector? hname
  exact isTraced_nameReference ((h q hq).of_mem_preorder hmem).mem
    (hpicked _ (List.mem_cons_of_mem _ List.mem_cons_self)) (isIdentifier_of_selector? hname)

/-- A dotted access is traced, if neither its dot nor its selector is missing. -/
theorem isTraced_navigationNode (hp : p ∈ parts) (hrow : p.row.missing = false)
    (h : ∀ q ∈ ps, IsKnown src parts q)
    (hpicked : ∀ r ∈ pickedByNavigation src ps, r.missing = false) :
    IsTraced src parts (navigationNode src p.row ps) := by
  rcases navigationNode_cases src p.row ps with ⟨-, heq⟩ | ⟨hdot, heq⟩
  · rw [heq]
    exact isTraced_composite hp hrow rfl (isTraced_sketchAll h)
  · rw [heq]
    refine isTraced_composite hp hrow rfl ?_
    intro s hs
    rcases List.mem_append.1 hs with hs | hs
    · exact isTraced_receiverAndDot h hpicked s hs
    · exact isTraced_selector h hpicked hdot s hs

/-- The navigation that is called picks its dot and its selector. -/
theorem isTraced_callNode (hp : p ∈ parts) (hrow : p.row.missing = false)
    (h : ∀ q ∈ ps, IsKnown src parts q) : IsTraced src parts (callNode src p.row ps) := by
  have hbelow : ∀ parts' : List Part, (∀ q ∈ parts', ∃ r ∈ ps, q ∈ r.preorder) →
      ∀ q ∈ parts', IsKnown src parts q := by
    intro parts' hparts q hq
    obtain ⟨r, hr, hmem⟩ := hparts q hq
    exact (h r hr).of_mem_preorder hmem
  rcases callNode_cases src p.row ps with ⟨parts', hparts, heq⟩ |
    ⟨callee, rest, start, hparts, hkind, hdot, heq⟩
  · rw [heq]
    exact isTraced_composite hp hrow rfl (isTraced_sketchAll (hbelow parts' hparts))
  · rw [heq]
    obtain ⟨hcallee, hrest⟩ := List.forall_mem_cons.1 (hbelow _ hparts)
    have hinside : ∀ q ∈ callee.children, IsKnown src parts q :=
      fun q hq => hcallee.of_mem_children hq
    have hpicked : ∀ r ∈ pickedByNavigation src callee.children, r.missing = false := by
      have hpicked := hcallee.picked
      rwa [Part.picked, show callee.row.kind = "navigation_expression" from beq_iff_eq.1 hkind]
        at hpicked
    refine isTraced_composite hp hrow rfl ?_
    intro s hs
    rcases List.mem_append.1 hs with hs | hs
    · exact isTraced_receiverAndDot hinside hpicked s hs
    · rw [List.mem_singleton.1 hs]
      refine isTraced_node hp (isFrom_of_present hrow rfl (Or.inr ⟨rfl, rfl⟩)) ?_
      intro c hc
      rcases List.mem_append.1 hc with hc | hc
      · exact isTraced_selector hinside hpicked hdot c hc
      · exact isTraced_sketchAll hrest c hc

/-! ### String content -/

/-- The entries of a child of a string are traced, if no escape row in it is missing. -/
theorem isTraced_stringEntries (isFirst isLast : Bool) (h : IsKnown src parts p)
    (hpicked : ∀ r ∈ pickedByContent p, r.missing = false) :
    ∀ s ∈ stringEntries src isFirst isLast p, IsTraced src parts s := by
  intro s hs
  unfold stringEntries at hs
  dsimp only at hs
  split_ifs at hs with hmissing hnamed hopen hclose hescape hcontent
  · rw [List.mem_singleton.1 hs]
    exact isTraced_leaf h.mem (isFrom_missing hmissing)
  all_goals rw [Bool.not_eq_true] at hmissing
  -- a token or an escape sequence
  iterate 4
    · rw [List.mem_singleton.1 hs]
      exact isTraced_plainLeaf _ h.mem hmissing rfl
  · rcases exists_of_mem_contentLeaves hs with ⟨kind, text, hkind, rfl⟩ | ⟨escape, hescape, rfl⟩
    · exact isTraced_plainLeaf _ h.mem hmissing (by rcases hkind with rfl | rfl <;> rfl)
    · rw [pickedByContent, if_pos hcontent] at hpicked
      have hchild := mem_children_of_mem_namedChildren (List.mem_of_mem_filter hescape)
      exact isTraced_plainLeaf _ (h.of_mem_children hchild).mem
        (hpicked _ (List.mem_map_of_mem hescape)) rfl
  · rw [List.mem_singleton.1 hs]
    exact isTraced_composite h.mem hmissing rfl
      (isTraced_sketchAll fun q hq => h.of_mem_children hq)

/-- The entries of a string are traced, if no escape row in it is missing. -/
theorem isTraced_stringEntriesAll (h : ∀ q ∈ ps, IsKnown src parts q)
    (hpicked : ∀ r ∈ ps.flatMap pickedByContent, r.missing = false) (isFirst : Bool) :
    ∀ s ∈ stringEntriesAll src isFirst ps, IsTraced src parts s := by
  induction ps generalizing isFirst with
  | nil =>
    intro s hs
    cases hs
  | cons p ps ih =>
    rw [List.flatMap_cons, List.forall_mem_append] at hpicked
    obtain ⟨hp, hps⟩ := List.forall_mem_cons.1 h
    intro s hs
    rw [stringEntriesAll, List.mem_append] at hs
    rcases hs with hs | hs
    · exact isTraced_stringEntries isFirst ps.isEmpty hp hpicked.1 s hs
    · exact ih hps hpicked.2 false s hs

/-! ### Rows -/

/-- The nodes of a construct are traced, if its rule picks no missing row. -/
theorem isTraced_constructNodes (hp : p ∈ parts) (hrow : p.row.missing = false)
    (h : ∀ q ∈ ps, IsKnown src parts q) (hpicked : ∀ r ∈ picked src p.row ps, r.missing = false) :
    ∀ s ∈ constructNodes src p.row ps, IsTraced src parts s := by
  have hall := isTraced_sketchAll h
  have hmembers : (∀ r ∈ ps.flatMap pickedByMember, r.missing = false) →
      ∀ s ∈ ps.flatMap (classMember src), IsTraced src parts s := by
    intro hpicked s hs
    obtain ⟨q, hq, hs⟩ := List.mem_flatMap.1 hs
    refine isTraced_classMember (h q hq) ?_ s hs
    exact fun r hr => hpicked r (List.mem_flatMap.2 ⟨q, hq, hr⟩)
  intro s hs
  simp only [constructNodes] at hs
  simp only [picked] at hpicked
  cases hrole : Role.ofKind p.row.kind <;> simp only [hrole, List.mem_singleton] at hs hpicked
  case wrapper => exact hall s hs
  case packageHeader => exact hs ▸ isTraced_plainLeaf _ hp hrow rfl
  case importHeader => exact hs ▸ isTraced_plainLeaf _ hp hrow rfl
  case classDeclaration => exact hs ▸ isTraced_composite hp hrow rfl (hmembers hpicked)
  case objectDeclaration => exact hs ▸ isTraced_composite hp hrow rfl (hmembers hpicked)
  case initializer =>
    exact hs ▸ isTraced_composite hp hrow rfl (isTraced_initializerBody hp hrow h)
  case call => exact hs ▸ isTraced_callNode hp hrow h
  case navigation => exact hs ▸ isTraced_navigationNode hp hrow h hpicked
  case string =>
    exact hs ▸ isTraced_composite hp hrow rfl (isTraced_stringEntriesAll h hpicked true)
  case identifier =>
    have hidentifier : p.row.isIdentifier = true :=
      List.contains_iff_mem.2 (Role.mem_kinds_of_ofKind_eq hrole (by decide))
    exact hs ▸ isTraced_nameReference hp hrow hidentifier
  all_goals exact hs ▸ isTraced_composite hp hrow rfl hall

/-- One step: where everything below a row is known, all that the row lowers to is traced. -/
theorem isTraced_rowNodes (hp : p ∈ parts) (h : ∀ q ∈ ps, IsKnown src parts q)
    (hpicked : ∀ r ∈ picked src p.row ps, r.missing = false) :
    ∀ s ∈ rowNodes src p.row ps, IsTraced src parts s := by
  intro s hs
  unfold rowNodes at hs
  split_ifs at hs with hmissing
  · rw [List.mem_singleton.1 hs]
    exact isTraced_leaf hp (isFrom_missing hmissing)
  all_goals rw [Bool.not_eq_true] at hmissing
  · rw [List.mem_singleton.1 hs]
    exact isTraced_composite hp hmissing rfl (isTraced_sketchAll h)
  · cases hs
  · rw [List.mem_singleton.1 hs]
    exact isTraced_plainLeaf _ hp hmissing (by split_ifs <;> rfl)
  · exact isTraced_constructNodes hp hmissing h hpicked s hs

end Part

/-! ### Nodes -/

/-- What a node says about the row of a part that it stands for. -/
structure Node.StandsFor (src : Source) (n : Node) (p : Part) : Prop where
  span : p.row.HasSpan src n.kind n.span
  missing : p.row.missing = true → n.kind = .missing ∧ n.text = "" ∧ n.children = []
  present : n.kind = .missing → p.row.missing = true
  name : n.kind = .identifier ∨ n.kind = .nameReference →
    p.row.isIdentifier = true ∧ n.text = String.ofList (src.rowText p.row)
  type : n.kind = .typeReference →
    p.row.kind = "user_type" ∧ (∀ r ∈ Part.nameRows p, r.missing = false) ∧
      n.text = String.ofList (List.intercalate ['.'] ((Part.nameRows p).map src.rowText))

/-- A node for a leaf has nothing below it. -/
theorem Node.Shows.children_leaf {n : Node} {kind : NodeKind} {text : List Char} {span : Span}
    (h : n.Shows (.leaf kind text span)) : n.children = [] :=
  List.forall₂_nil_right_iff.1 (h.children (Nat.zero_le 1))

/-- A node stands for the row that its sketch stands for. -/
theorem Sketch.IsFrom.standsFor {n : Node} {p : Part} {s : Sketch} (h : s.IsFrom src p)
    (hstem : StemsFrom n.tree s) : n.StandsFor src p := by
  obtain ⟨hcontent, hnumbers⟩ := hstem
  have hkind : n.kind = s.label.kind := congrArg Content.kind hcontent
  have hshow : n.kind ≠ .superTypeList → n.Shows s := hnumbers
  constructor
  case span =>
    rw [hkind, show n.span = s.label.span from congrArg Content.span hcontent]
    exact h.span
  case missing =>
    intro hmissing
    have hleaf := h.missing hmissing
    have hmissingKind : n.kind = .missing := by rw [hkind, hleaf]; rfl
    have hn := hshow (by rw [hmissingKind]; decide)
    rw [hleaf] at hn
    exact ⟨hmissingKind, hn.text_leaf, hn.children_leaf⟩
  case present => exact fun hmissing => h.present (hkind ▸ hmissing)
  case name =>
    rintro (hname | hname)
    · obtain ⟨hidentifier, hleaf⟩ := h.name (hkind ▸ hname)
      have hn := hshow (by rw [hname]; decide)
      rw [hleaf] at hn
      exact ⟨hidentifier, hn.text_leaf⟩
    · obtain ⟨hidentifier, hreference⟩ := h.reference (hkind ▸ hname)
      have hn := hshow (by rw [hname]; decide)
      rw [hreference] at hn
      exact ⟨hidentifier, hn.text_nameReference⟩
  case type =>
    intro htype
    obtain ⟨hrow, hnames, hleaf⟩ := h.type (hkind ▸ htype)
    have hn := hshow (by rw [htype]; decide)
    rw [hleaf, Part.typeName, Part.identifiersBelow_eq] at hn
    exact ⟨hrow, hnames, hn.text_leaf⟩

/-- Where every node stands for a row, names are texts of rows that are not missing. -/
theorem Node.StandsFor.missing_eq_false {n : Node} {p : Part} (h : n.StandsFor src p)
    (hkind : n.kind ≠ .missing) : p.row.missing = false := by
  rw [← Bool.not_eq_true]
  exact fun hmissing => hkind (h.missing hmissing).1

/-! ### Files -/

namespace Cst

variable {t : Cst} {n : Node} {name : String}

/-- Whether none of the rows that a rule picks out by their kind is missing. -/
def PicksPresent (src : Source) (t : Cst) : Prop :=
  ∀ p ∈ (toPart src t).preorder, ∀ r ∈ Part.picked src (Part.row p) p.children, r.missing = false

instance (src : Source) (t : Cst) : Decidable (PicksPresent src t) :=
  inferInstanceAs (Decidable (∀ p ∈ (toPart src t).preorder,
    ∀ r ∈ Part.picked src (Part.row p) p.children, r.missing = false))

/-- Whether a name is the text of an identifier of the source. -/
def HasName (src : Source) (t : Cst) (name : String) : Prop :=
  ∃ p : Part, p ∈ (toPart src t).preorder ∧ p.row.missing = false ∧ p.row.isIdentifier = true ∧
    name = String.ofList (src.rowText p.row)

/-- Whether a name is the dotted name of a type of the source. -/
def HasTypeName (src : Source) (t : Cst) (name : String) : Prop :=
  ∃ p : Part, p ∈ (toPart src t).preorder ∧ p.row.missing = false ∧ p.row.kind = "user_type" ∧
    (∀ r ∈ Part.nameRows p, r.missing = false) ∧
    name = String.ofList (List.intercalate ['.'] ((Part.nameRows p).map src.rowText))

/-- By induction on the concrete tree: every part is known. -/
theorem isKnown_toPart {parts : List Part} (src : Source) (u : Cst)
    (hparts : ∀ p ∈ (toPart src u).preorder, p ∈ parts)
    (hpicked : ∀ p ∈ parts, ∀ r ∈ Part.picked src (Part.row p) p.children, r.missing = false) :
    Part.IsKnown src parts (toPart src u) := by
  induction u using RoseTree.induction with
  | node row ts ih =>
    rw [toPart_node] at hparts ⊢
    have hself := hparts _ (RoseTree.self_mem_preorder _)
    have hbelow : ∀ p ∈ ts.map (toPart src), Part.IsKnown src parts p := by
      intro p hp
      obtain ⟨u, hu, rfl⟩ := List.mem_map.1 hp
      exact ih u hu fun q hq => hparts q (RoseTree.mem_preorder_iff.2 (Or.inr ⟨_, hp, hq⟩))
    intro q hq
    rcases RoseTree.mem_preorder_iff.1 hq with rfl | ⟨p, hp, hq⟩
    · exact ⟨hself, hpicked _ hself, Part.isTraced_rowNodes hself hbelow (hpicked _ hself)⟩
    · exact hbelow p hp q hq

/-- Every node below the root stands for a row. -/
theorem exists_standsFor (h : t.PicksPresent src)
    (hn : n ∈ (Node.ofTree (lower src t)).descendants) :
    ∃ p ∈ (toPart src t).preorder, n.StandsFor src p := by
  have hknown := isKnown_toPart src t (fun p hp => hp) h
  have hroot : (toSketch src t).NumbersTo (lower src t) := Sketch.numbersTo_number _
  obtain ⟨c, hc, -, hn⟩ := Node.mem_below_iff.1 hn
  obtain ⟨u, hu, rfl⟩ := List.mem_map.1 hc
  have htree : n.tree ∈ RoseTree.preorder u := by
    rcases hn with rfl | hn
    · exact RoseTree.self_mem_preorder u
    · exact Node.tree_mem_preorder hn
  obtain ⟨s, hs, v, hv, hstem⟩ := hroot.exists_stemsFrom hu htree
  obtain ⟨q, hq, hs⟩ := Part.mem_sketchAll.1 hs
  obtain ⟨p, hp, hfrom⟩ := (hknown.of_mem_children hq).sketches s hs v hv
  exact ⟨p, hp, hfrom.standsFor hstem⟩

/-- A child of a node of a file is below the root of the file. -/
theorem mem_descendants_of_mem_children {c : Node} (hn : n ∈ (lower src t).nodes)
    (hc : c ∈ n.children) : c ∈ (Node.ofTree (lower src t)).descendants := by
  have hmem := (SyntaxTree.descendants_sublist_nodes hn).subset
    (Node.mem_descendants_of_mem_children hc)
  refine (List.mem_cons.1 hmem).resolve_left ?_
  rintro rfl
  obtain ⟨u, -, hu⟩ := List.mem_map.1 hc
  cases congrArg Node.above hu

/-- An identifier or a reference has a name of the source. -/
theorem hasName_text (h : t.PicksPresent src) (hn : n ∈ (Node.ofTree (lower src t)).descendants)
    (hkind : n.kind = .identifier ∨ n.kind = .nameReference) : t.HasName src n.text := by
  obtain ⟨p, hp, hfrom⟩ := exists_standsFor h hn
  obtain ⟨hidentifier, htext⟩ := hfrom.name hkind
  refine ⟨p, hp, hfrom.missing_eq_false ?_, hidentifier, htext⟩
  rcases hkind with hkind | hkind <;> rw [hkind] <;> decide

/-- The text of a reference to a type is the dotted name of a type of the source. -/
theorem hasTypeName_text (h : t.PicksPresent src)
    (hn : n ∈ (Node.ofTree (lower src t)).descendants) (hkind : n.kind = .typeReference) :
    t.HasTypeName src n.text := by
  obtain ⟨p, hp, hfrom⟩ := exists_standsFor h hn
  obtain ⟨hrow, hnames, htext⟩ := hfrom.type hkind
  refine ⟨p, hp, hfrom.missing_eq_false ?_, hrow, hnames, htext⟩
  rw [hkind]
  decide

/-- The name of a class is that of an identifier of the source. -/
theorem hasName_of_className? (h : t.PicksPresent src) (hn : n ∈ (lower src t).nodes)
    (hname : className? n = some name) : t.HasName src name := by
  obtain ⟨c, hc, rfl⟩ := Option.map_eq_some_iff.1 hname
  have hkind : c.kind = .identifier := by simpa [Node.is] using List.find?_some hc
  exact hasName_text h (mem_descendants_of_mem_children hn (List.mem_of_find?_eq_some hc))
    (Or.inl hkind)

/-- The name of a called function is that of an identifier of the source. -/
theorem hasName_of_calleeName? (h : t.PicksPresent src) (hn : n ∈ (lower src t).nodes)
    (hname : calleeName? n = some name) : t.HasName src name := by
  unfold calleeName? at hname
  split_ifs at hname
  obtain ⟨c, hc, rfl⟩ := Option.map_eq_some_iff.1 hname
  obtain ⟨hfirst, hkind⟩ := Option.filter_eq_some_iff.1 hc
  have hmem := Node.mem_children_of_mem_elements (List.mem_of_head? hfirst)
  exact hasName_text h (mem_descendants_of_mem_children hn hmem)
    (Or.inr (by simpa [Node.is] using hkind))

/-- The name of a superclass is the dotted name of a type of the source. -/
theorem hasTypeName_of_superTypeName? (h : t.PicksPresent src) (hn : n ∈ (lower src t).nodes)
    (hname : superTypeName? n = some name) : t.HasTypeName src name := by
  simp only [superTypeName?, Option.bind_eq_bind, Option.bind_eq_some_iff] at hname
  obtain ⟨list, hlist, entry, hentry, text, htext, hname⟩ := hname
  obtain rfl : text = name := by
    split_ifs at hname
    exact Option.some.inj hname
  obtain ⟨type, htype, rfl⟩ := Option.map_eq_some_iff.1 htext
  have hnode : ∀ {m c : Node} {kind : NodeKind}, m ∈ (lower src t).nodes →
      m.firstChild? kind = some c → c ∈ (lower src t).nodes := fun hm hc =>
    List.mem_cons_of_mem _ (mem_descendants_of_mem_children hm (List.mem_of_find?_eq_some hc))
  have hentryNode : entry ∈ (lower src t).nodes := by
    rcases Option.or_eq_some_iff.1 hentry with hentry | ⟨-, hentry⟩
    · exact hnode (hnode hn hlist) hentry
    · exact hnode (hnode hn hlist) hentry
  have hkind : type.kind = .typeReference := by simpa [Node.is] using List.find?_some htype
  exact hasTypeName_text h
    (mem_descendants_of_mem_children hentryNode (List.mem_of_find?_eq_some htype)) hkind

/-- Whether every node below the root stands for a row, and every name is one of the source: those
of classes, of called functions and of all that is referred to, selectors included, and those of
superclasses. -/
structure HasOrigins (src : Source) (t : Cst) : Prop where
  nodes : ∀ n ∈ (Node.ofTree (lower src t)).descendants,
    ∃ p ∈ (toPart src t).preorder, n.StandsFor src p
  classes : ∀ n ∈ (lower src t).nodes, ∀ name, className? n = some name → t.HasName src name
  callees : ∀ n ∈ (lower src t).nodes, ∀ name, calleeName? n = some name → t.HasName src name
  references : ∀ n ∈ (lower src t).nodes, n.kind = .nameReference → t.HasName src n.text
  superclasses : ∀ n ∈ (lower src t).nodes,
    ∀ name, superTypeName? n = some name → t.HasTypeName src name

/-- **Missing rows never become names.** Where no picked row is missing, every node below the root
stands for a row, and it is a missing node without text exactly if the row is missing. So all names
are texts of identifiers of the source, or are made of such texts. -/
theorem hasOrigins_of_picksPresent (h : t.PicksPresent src) : t.HasOrigins src where
  nodes := fun _ hn => exists_standsFor h hn
  classes := fun _ hn _ hname => hasName_of_className? h hn hname
  callees := fun _ hn _ hname => hasName_of_calleeName? h hn hname
  references := by
    intro n hn hkind
    rcases List.mem_cons.1 hn with rfl | hn
    · cases hkind
    · exact hasName_text h hn (Or.inr hkind)
  superclasses := fun _ hn _ hname => hasTypeName_of_superTypeName? h hn hname

/-! ### Two files -/

namespace MissingSample

open FunSpecSample (construct token)

/-- A row that the parser invented. -/
def invented (kind : String) (named : Bool) (offset : UInt32) : Cst :=
  .node ⟨kind, named, true, false, offset, offset⟩ []

/-- A class with an open constructor call. -/
def openSource : Source := .ofString "class S : B("

/-- The rows of that class. The call lacks its argument and the closing parenthesis. -/
def openFile : Cst :=
  construct "source_file" 0 12 [construct "class_declaration" 0 12 [token "class" 0 5,
    construct "identifier" 6 7 [], token ":" 8 9, construct "delegation_specifiers" 10 12
      [construct "delegation_specifier" 10 12 [construct "constructor_invocation" 10 12
        [construct "user_type" 10 11 [construct "identifier" 10 11 []],
          construct "value_arguments" 11 12 [token "(" 11 12,
            construct "value_argument" 12 12 [invented "identifier" true 12],
            invented ")" false 12]]]]]]

/-- A class without a name. -/
def namelessFile : Cst :=
  construct "source_file" 0 5
    [construct "class_declaration" 0 5 [token "class" 0 5, invented "identifier" true 5]]

end MissingSample

open MissingSample

/-- The names that are there are names of the source, and both missing rows are missing nodes. -/
theorem hasOrigins_openFile : openFile.PicksPresent openSource ∧ openFile.HasOrigins openSource ∧
    (lower openSource openFile).nodes.countP (·.is .missing) = 2 := by
  have hpicks : openFile.PicksPresent openSource := by decide
  exact ⟨hpicks, hasOrigins_of_picksPresent hpicks, by decide⟩

/-- The class without a name has the text of the missing row for its name. -/
theorem not_forall_hasOrigins : ¬ ∀ (src : Source) (t : Cst), t.HasOrigins src := by
  intro h
  let src : Source := .ofString "class"
  have hclass : ((lower src namelessFile).nodes.map className?)[1]? = some (some "") := by decide
  obtain ⟨n, hn, hname⟩ : ∃ n ∈ (lower src namelessFile).nodes, className? n = some "" :=
    List.mem_map.1 (List.mem_of_getElem? hclass)
  obtain ⟨p, hp, hpresent, hidentifier, -⟩ := (h src namelessFile).classes n hn "" hname
  have hnone : ∀ p ∈ (toPart src namelessFile).preorder,
      (Part.row p).missing = false → (Part.row p).isIdentifier = false := by decide
  rw [hnone p hp hpresent] at hidentifier
  cases hidentifier

end Cst

end KotestOutline
