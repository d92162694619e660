import KotestOutline.Lowering
import KotestOutline.Proofs.Syntax.Walk
import Mathlib.Data.List.Basic

/-!
# What constructs are made of

The parts that the rules of the lowering pick, and the sketches they make of them.
-/

namespace KotestOutline

/-!
## Parts of parts

Whatever the rules for single constructs pick out of a part lies in its pre-order: the hit of a
search, the parts of a call, the dot and the selector of a dotted access. A property of all the
rows below a part so holds of what is picked.
-/

namespace Part

variable {src : Source} {p q : Part} {ps : List Part}

/-- A named child is a child. -/
theorem mem_children_of_mem_namedChildren (h : q ∈ p.namedChildren) : q ∈ p.children :=
  List.mem_of_mem_filter h

/-- What a list of parts lowers to is what some part of it lowers to. -/
theorem mem_sketchAll {ps : List Part} {s : Sketch} :
    s ∈ sketchAll ps ↔ ∃ p ∈ ps, s ∈ p.sketches :=
  List.mem_flatMap

/-! ### Search -/

mutual

/-- A part that is found below another lies in it. -/
theorem mem_preorder_of_findBelow? (kind : String) : (p : RoseTree (Row × List Sketch)) →
    ∀ q, findBelow? kind p = some q → q ∈ p.preorder
  | .node label children, q, h => by
    rw [findBelow?, Option.or_eq_some_iff] at h
    rcases h with h | ⟨-, h⟩
    · exact RoseTree.mem_preorder_of_mem_children
        (List.mem_of_mem_filter (List.mem_of_find?_eq_some h))
    · obtain ⟨r, hr, hq⟩ := mem_preorder_of_findDeeper? kind children q h
      exact RoseTree.mem_preorder_iff.2 (Or.inr ⟨r, hr, hq⟩)

/-- A part that is found below some others lies in one of them. -/
theorem mem_preorder_of_findDeeper? (kind : String) : (ps : List (RoseTree (Row × List Sketch))) →
    ∀ q, findDeeper? kind ps = some q → ∃ r ∈ ps, q ∈ r.preorder
  | [], q, h => by cases h
  | p :: ps, q, h => by
    rw [findDeeper?, Option.or_eq_some_iff] at h
    rcases h with h | ⟨-, h⟩
    · split at h
      · exact ⟨p, List.mem_cons_self, mem_preorder_of_findBelow? kind p q h⟩
      · cases h
    · obtain ⟨r, hr, hq⟩ := mem_preorder_of_findDeeper? kind ps q h
      exact ⟨r, List.mem_cons_of_mem p hr, hq⟩

end

mutual

/-- A search finds rows of its kind. -/
theorem isKind_of_findBelow? (kind : String) : (p : RoseTree (Row × List Sketch)) →
    ∀ q, findBelow? kind p = some q → isKind q kind = true
  | .node label children, q, h => by
    rw [findBelow?, Option.or_eq_some_iff] at h
    rcases h with h | ⟨-, h⟩
    · exact List.find?_some (p := (isKind · kind)) h
    · exact isKind_of_findDeeper? kind children q h

/-- A part that is found has the kind that was looked for. -/
theorem isKind_of_findDeeper? (kind : String) : (ps : List (RoseTree (Row × List Sketch))) →
    ∀ q, findDeeper? kind ps = some q → isKind q kind = true
  | [], q, h => by cases h
  | p :: ps, q, h => by
    rw [findDeeper?, Option.or_eq_some_iff] at h
    rcases h with h | ⟨-, h⟩
    · split at h
      · exact isKind_of_findBelow? kind p q h
      · cases h
    · exact isKind_of_findDeeper? kind ps q h

end

/-! ### Dotted access -/

/-- The dot of a dotted access lies in one of its children. -/
theorem exists_mem_preorder_of_dotToken? (h : dotToken? src ps = some q) :
    ∃ p ∈ ps, q ∈ p.preorder := by
  obtain ⟨p, hp, hq⟩ := List.exists_of_findSome?_eq_some h
  refine ⟨p, hp, ?_⟩
  split_ifs at hq
  · obtain rfl := Option.some.inj hq
    exact RoseTree.self_mem_preorder p
  · exact RoseTree.mem_preorder_of_mem_children (List.mem_of_find?_eq_some hq)

/-- The name of a dotted access lies in one of its children. -/
theorem exists_mem_preorder_of_selector? (h : selector? ps = some q) :
    ∃ p ∈ ps, q ∈ p.preorder := by
  unfold selector? at h
  cases hnamed : ps.filter isNamed with
  | nil => simp [hnamed] at h
  | cons receiver more =>
    simp only [hnamed, Option.bind_eq_bind, Option.bind_eq_some_iff] at h
    obtain ⟨last, hlast, h⟩ := h
    have hmore : last ∈ ps.filter isNamed := by
      rw [hnamed]
      exact List.mem_cons_of_mem receiver (List.mem_of_getLast? hlast)
    refine ⟨last, List.mem_of_mem_filter hmore, ?_⟩
    by_cases hsuffix : last.isKind "navigation_suffix" = true
    · rw [if_pos hsuffix, Option.bind_eq_some_iff] at h
      obtain ⟨name, hname, h⟩ := h
      obtain rfl : name = q := by simpa using (Option.ite_none_right_eq_some.1 h).2
      exact RoseTree.mem_preorder_of_mem_children
        (mem_children_of_mem_namedChildren (List.mem_of_getLast? hname))
    · rw [if_neg hsuffix, Option.bind_some] at h
      obtain rfl : last = q := by simpa using (Option.ite_none_right_eq_some.1 h).2
      exact RoseTree.self_mem_preorder last

/-- The name of a dotted access is an identifier. -/
theorem isIdentifier_of_selector? (h : selector? ps = some q) : q.row.isIdentifier = true := by
  unfold selector? at h
  split at h
  · simp only [Option.bind_eq_bind, Option.bind_eq_some_iff] at h
    obtain ⟨last, -, h⟩ := h
    split at h <;>
    · obtain ⟨name, -, h⟩ := Option.bind_eq_some_iff.1 h
      obtain ⟨hidentifier, hq⟩ := Option.ite_none_right_eq_some.1 h
      obtain rfl : name = q := by simpa using hq
      exact hidentifier
  · cases h

/-! ### Calls -/

/-- A part of a call without its suffixes lies in one of the children of the call. -/
theorem mem_preorder_of_mem_unwrapSuffixes {children : List Part}
    (h : q ∈ unwrapSuffixes children) : ∃ r ∈ children, q ∈ r.preorder := by
  obtain ⟨r, hr, hq⟩ := List.mem_flatMap.1 h
  refine ⟨r, hr, ?_⟩
  split_ifs at hq
  · exact RoseTree.mem_preorder_of_mem_children hq
  · rw [List.mem_singleton.1 hq]
    exact RoseTree.self_mem_preorder r

mutual

/-- The parts of a call lie in its children, also those that it took in. -/
theorem mem_preorder_of_mem_callParts : (p : RoseTree (Row × List Sketch)) →
    ∀ q ∈ callParts p, ∃ r ∈ p.children, q ∈ r.preorder
  | .node label children, q, h => by
    have hparts : ∀ q ∈ unwrapSuffixes children, ∃ r ∈ children, q ∈ r.preorder :=
      fun _ => mem_preorder_of_mem_unwrapSuffixes
    simp only [callParts] at h
    split at h
    · exact hparts q h
    next callee rest hdrop =>
      split_ifs at h
      · rcases List.mem_append.1 h with h | h
        · rcases List.mem_append.1 h with h | h
          · exact hparts q (List.takeWhile_subset _ h)
          · exact mem_preorder_of_mem_calleeParts children q h
        · have hrest : q ∈ callee :: rest := List.mem_cons_of_mem callee h
          rw [← hdrop] at hrest
          exact hparts q (List.mem_of_mem_drop hrest)
      · exact hparts q h
      · exact hparts q h

/-- The parts of a callee lie in the rows it is found in. -/
theorem mem_preorder_of_mem_calleeParts : (ps : List (RoseTree (Row × List Sketch))) →
    ∀ q ∈ calleeParts ps, ∃ r ∈ ps, q ∈ r.preorder
  | [], q, h => by simp [calleeParts] at h
  | .node label inner :: rest, q, h => by
    have hlater : q ∈ calleeParts rest → ∃ r ∈ .node label inner :: rest, q ∈ r.preorder := by
      intro h
      obtain ⟨r, hr, hq⟩ := mem_preorder_of_mem_calleeParts rest q h
      exact ⟨r, List.mem_cons_of_mem _ hr, hq⟩
    rw [calleeParts] at h
    split_ifs at h
    · obtain ⟨r, hr, hq⟩ := mem_preorder_of_mem_suffixCalleeParts inner q h
      exact ⟨_, List.mem_cons_self, RoseTree.mem_preorder_iff.2 (Or.inr ⟨r, hr, hq⟩)⟩
    · exact hlater h
    · obtain ⟨r, hr, hq⟩ := mem_preorder_of_mem_callParts (.node label inner) q h
      exact ⟨_, List.mem_cons_self, RoseTree.mem_preorder_iff.2 (Or.inr ⟨r, hr, hq⟩)⟩
    · exact hlater h

/-- The parts of a callee inside a suffix lie in the rows of the suffix. -/
theorem mem_preorder_of_mem_suffixCalleeParts : (ps : List (RoseTree (Row × List Sketch))) →
    ∀ q ∈ suffixCalleeParts ps, ∃ r ∈ ps, q ∈ r.preorder
  | [], q, h => by simp [suffixCalleeParts] at h
  | p :: ps, q, h => by
    rw [suffixCalleeParts] at h
    split_ifs at h
    · obtain ⟨r, hr, hq⟩ := mem_preorder_of_mem_callParts p q h
      exact ⟨p, List.mem_cons_self, RoseTree.mem_preorder_iff.2 (Or.inr ⟨r, hr, hq⟩)⟩
    · obtain ⟨r, hr, hq⟩ := mem_preorder_of_mem_suffixCalleeParts ps q h
      exact ⟨r, List.mem_cons_of_mem p hr, hq⟩

end

end Part

/-!
## What constructs are made of

The rules for single constructs, read backwards: which forms a sketch that a rule makes can have,
and which of the parts below the row it is made of. Whatever is proved of all sketches of a file,
one construct after the other, goes by these forms.
-/

namespace Part

variable {src : Source} {row : Row} {ps : List Part} {p q : Part} {s : Sketch}

/-! ### Supertypes -/

/-- The type that a supertype names: the one that is constructed, or else the first in it. -/
def superType? (p : Part) : Option Part :=
  findBelow? "user_type" ((findBelow? "constructor_invocation" p).getD p)

/-- The type of a supertype is a row for a type. -/
theorem isKind_of_superType? (h : superType? p = some q) : q.isKind "user_type" = true :=
  isKind_of_findBelow? _ _ q h

/-- The type of a supertype lies in the row of the supertype. -/
theorem mem_preorder_of_superType? (h : superType? p = some q) : q ∈ p.preorder := by
  unfold superType? at h
  cases hcall : findBelow? "constructor_invocation" p with
  | none =>
    rw [hcall] at h
    exact mem_preorder_of_findBelow? _ p q h
  | some call =>
    rw [hcall] at h
    exact RoseTree.mem_preorder_trans (mem_preorder_of_findBelow? _ call q h)
      (mem_preorder_of_findBelow? _ p call hcall)

/-- A supertype with a type makes one entry: the reference to the type and the sketches of the
constructor arguments, if it has any. -/
theorem superTypeEntry_cases (src : Source) (p : Part) :
    (superType? p = none ∧ superTypeEntry src p = []) ∨
    ∃ type rest, superType? p = some type ∧
      superTypeEntry src p = [.composite
        (if (findBelow? "constructor_invocation" p).isSome then .superTypeCallEntry
          else .superTypeEntry) (src.rowSpan p.row)
        (.leaf .typeReference (typeName src type) (src.rowSpan type.row) :: rest)] ∧
      ∀ u ∈ rest, ∃ q : Part, q ∈ p.preorder ∧ u ∈ q.sketches := by
  simp only [superTypeEntry]
  split
  next htype => exact Or.inl ⟨htype, rfl⟩
  next type htype =>
    refine Or.inr ⟨type, _, htype, rfl, fun u hu => ?_⟩
    cases hcall : findBelow? "constructor_invocation" p with
    | none => simp [hcall] at hu
    | some call =>
      cases harguments : findBelow? "value_arguments" call with
      | none => simp [hcall, harguments] at hu
      | some arguments =>
        simp only [hcall, harguments, Option.bind_some, Option.map_some, Option.getD_some] at hu
        exact ⟨arguments, RoseTree.mem_preorder_trans
          (mem_preorder_of_findBelow? _ call arguments harguments)
          (mem_preorder_of_findBelow? _ p call hcall), hu⟩

/-- A supertype list comes from at least one row, and holds an entry for each row with a type. -/
theorem eq_of_mem_superTypeList (h : s ∈ superTypeList src row ps) :
    ps ≠ [] ∧
      s = .composite .superTypeList (src.rowSpan row) (ps.flatMap (superTypeEntry src)) := by
  unfold superTypeList at h
  split_ifs at h with hempty
  · cases h
  · exact ⟨by simpa using hempty, List.mem_singleton.1 h⟩

/-! ### Calls -/

/-- Receiver and dot of a dotted access are the sketches of one part and the leaf of one token. -/
theorem mem_receiverAndDot (h : s ∈ receiverAndDot src ps) :
    (∃ p ∈ ps, s ∈ p.sketches) ∨
      ∃ dot, dotToken? src ps = some dot ∧ s = .leaf .dot ['.'] (src.rowSpan dot.row) := by
  rw [receiverAndDot, List.mem_append] at h
  rcases h with h | h
  · cases hreceiver : (ps.filter isNamed).head? with
    | none => simp [hreceiver] at h
    | some receiver =>
      rw [hreceiver, Option.map_some, Option.getD_some] at h
      exact Or.inl ⟨receiver, List.mem_of_mem_filter (List.mem_of_mem_head? hreceiver), h⟩
  · rw [Option.mem_toList, Option.map_eq_some_iff] at h
    obtain ⟨dot, hdot, rfl⟩ := h
    exact Or.inr ⟨dot, hdot, rfl⟩

/-- The parts of a call from the callee on lie below the call. -/
theorem exists_mem_preorder_of_callee {callee : Part} {rest : List Part}
    (h : (callParts (.node (row, []) ps)).dropWhile (!isNamed ·) = callee :: rest) :
    ∀ p ∈ callee :: rest, ∃ r ∈ ps, p ∈ r.preorder := by
  intro p hp
  rw [← h] at hp
  exact mem_preorder_of_mem_callParts _ p (List.dropWhile_subset _ hp)

/-- A call is a call expression over parts of it, or it is a dotted expression that ends in one. -/
theorem callNode_cases (src : Source) (row : Row) (ps : List Part) :
    (∃ parts, (∀ p ∈ parts, ∃ r ∈ ps, p ∈ r.preorder) ∧
      callNode src row ps = .composite .callExpression (src.rowSpan row) (sketchAll parts)) ∨
    ∃ (callee : Part) (rest : List Part) (start : Position),
      (∀ p ∈ callee :: rest, ∃ r ∈ ps, p ∈ r.preorder) ∧
      callee.isKind "navigation_expression" = true ∧
      (dotToken? src callee.children).isSome = true ∧
      callNode src row ps = .composite .dotQualifiedExpression (src.rowSpan row)
        (receiverAndDot src callee.children ++
          [.composite .callExpression ⟨start, (src.rowSpan row).stop⟩
            (((selector? callee.children).map (nameReference src ·.row)).toList ++
              sketchAll rest)]) := by
  simp only [callNode]
  split
  · exact Or.inl ⟨ps, fun p hp => ⟨p, hp, RoseTree.self_mem_preorder p⟩, rfl⟩
  next callee rest hcallee =>
    split
    next hdotted =>
      rw [Bool.and_eq_true] at hdotted
      have hmem := exists_mem_preorder_of_callee hcallee
      have hselector : ((selector? callee.children).map Part.row).map (nameReference src) =
          (selector? callee.children).map (nameReference src ·.row) := by
        rw [Option.map_map]
        rfl
      exact Or.inr ⟨callee, rest, _, hmem, hdotted.1, hdotted.2, by rw [hselector]⟩
    · exact Or.inl ⟨_, mem_preorder_of_mem_callParts _, rfl⟩

/-- A dotted access with a dot is receiver, dot and name, and any other is what its rows lower
to. -/
theorem navigationNode_cases (src : Source) (row : Row) (ps : List Part) :
    (dotToken? src ps = none ∧
      navigationNode src row ps = .composite .other (src.rowSpan row) (sketchAll ps)) ∨
    ((dotToken? src ps).isSome = true ∧
      navigationNode src row ps = .composite .dotQualifiedExpression (src.rowSpan row)
        (receiverAndDot src ps ++ ((selector? ps).map (nameReference src ·.row)).toList)) := by
  simp only [navigationNode]
  split
  next hdot => exact Or.inr ⟨hdot, rfl⟩
  next hdot => exact Or.inl ⟨by simpa using hdot, rfl⟩

/-! ### String content -/

/-- The leaves of plain content are literal text and interpolations, each with the span of the
content. -/
theorem exists_of_mem_runLeaves {span : Span} {start stop : Nat}
    (h : s ∈ runLeaves src span start stop) :
    ∃ kind text, (kind = .literalStringEntry ∨ kind = .templateEntry) ∧
      s = .leaf kind text span := by
  unfold runLeaves at h
  split at h
  · split at h
    · cases h
    · obtain ⟨piece, -, rfl⟩ := List.mem_map.1 h
      cases piece with
      | literal text => exact ⟨_, text, Or.inl rfl, rfl⟩
      | template text => exact ⟨_, text, Or.inr rfl, rfl⟩
  · cases h

/-- The leaves of content are runs of text and the escape sequences between them. -/
theorem exists_of_mem_contentLeaves {span : Span} {stop position : Nat} {escapes : List Part}
    (h : s ∈ contentLeaves src span stop position escapes) :
    (∃ kind text, (kind = .literalStringEntry ∨ kind = .templateEntry) ∧
      s = .leaf kind text span) ∨
    ∃ escape ∈ escapes,
      s = .leaf .escapeStringEntry (src.rowText escape.row) (src.rowSpan escape.row) := by
  induction escapes generalizing position with
  | nil => exact Or.inl (exists_of_mem_runLeaves h)
  | cons escape rest ih =>
    rw [contentLeaves, List.mem_append, List.mem_cons] at h
    rcases h with h | rfl | h
    · exact Or.inl (exists_of_mem_runLeaves h)
    · exact Or.inr ⟨escape, List.mem_cons_self, rfl⟩
    · refine (ih h).imp_right ?_
      rintro ⟨escape', hmem, rfl⟩
      exact ⟨escape', List.mem_cons_of_mem escape hmem, rfl⟩

end Part

end KotestOutline
