import KotestOutline.Proofs.Lowering.Row
import KotestOutline.Proofs.Suite.Written

/-!
# Rows of a suite

What the rows of a written suite lower to, and those around them.
-/

namespace KotestOutline

/-!
## Quiet rows

Lowering makes calls only of call rows and missing tokens only of missing rows, so quiet rows lower
to sketches without both.

* `Sketch.IsCallFree` is the property of one content.
* `lowers_isCallFree`: lowering preserves it, from quiet rows on.
* `Cst.everywhere_of_isQuiet`: it holds all over what quiet trees lower to.
* `Row.IsConstruct.isQuiet` and its like put quiet trees together.
-/

section

variable {src : Source}

/-! ### Lowering -/

/-- Whether a content is neither a call nor a missing token. -/
def Sketch.IsCallFree (content : Content) (_ : List Sketch) : Prop :=
  content.kind ≠ .callExpression ∧ content.kind ≠ .missing

/-- Lowering makes calls and missing tokens only of rows that are such. -/
theorem lowers_isCallFree : Lowers Row.IsQuiet Sketch.IsCallFree := by
  have hfree : ∀ kind : NodeKind, ∀ text span children, kind.isConstrained = false →
      Sketch.IsCallFree ⟨kind, text, span⟩ children := by
    intro kind text span children hkind
    constructor
    · rintro rfl
      cases hkind
    · rintro rfl
      cases hkind
  constructor
  case leaf =>
    intro kind text span hkind
    exact hfree kind _ span [] hkind
  case plain =>
    intro kind span children hkind
    exact hfree kind _ span children hkind
  case missing =>
    intro row span hr hmissing
    rw [hr.2] at hmissing
    cases hmissing
  case call =>
    intro row span children hr hcall
    exact absurd (Role.eq_of_ofKind_eq hcall rfl) hr.1
  case reference =>
    intro text span
    exact ⟨by rintro ⟨⟩, by rintro ⟨⟩⟩
  case dotted =>
    intro span dotSpan receiver selector
    exact ⟨by rintro ⟨⟩, by rintro ⟨⟩⟩

namespace Cst

variable {t : Cst} {ts : List Cst}

/-- In a tree without calls and missing tokens, no part lowers to one. -/
theorem IsQuiet.sound (h : t.IsQuiet) :
    Part.Sound Row.IsQuiet Sketch.IsCallFree (toPart src t) :=
  sound_toPart lowers_isCallFree t h

/-- A tree without calls and missing tokens lowers to no call. -/
theorem IsQuiet.everywhere (h : t.IsQuiet) :
    ∀ s ∈ sketches src t, s.Everywhere Sketch.IsCallFree :=
  h.sound.sketches

/-- Quiet trees lower to sketches without calls. -/
theorem everywhere_of_isQuiet (h : ∀ t ∈ ts, t.IsQuiet) :
    ∀ s ∈ ts.flatMap (sketches src), s.Everywhere Sketch.IsCallFree := by
  intro s hs
  obtain ⟨t, ht, hs⟩ := List.mem_flatMap.1 hs
  exact (h t ht).everywhere s hs

/-- A tree without calls and missing tokens lowers to no missing token. -/
theorem IsQuiet.kind_ne_missing (h : t.IsQuiet) :
    ∀ s ∈ sketches src t, s.label.kind ≠ .missing := by
  intro s hs
  exact (h.everywhere s hs s (RoseTree.self_mem_preorder s)).2

/-- Trees without calls and missing tokens lower to no missing token. -/
theorem kind_ne_missing_of_isQuiet (h : ∀ t ∈ ts, t.IsQuiet) :
    ∀ s ∈ ts.flatMap (sketches src), s.label.kind ≠ .missing := by
  intro s hs
  obtain ⟨t, ht, hs⟩ := List.mem_flatMap.1 hs
  exact (h t ht).kind_ne_missing s hs

end Cst

/-! ### Quiet trees -/

/-- A row that is neither a call nor missing, over trees without such rows, makes a tree without
them. -/
theorem Cst.isQuiet_node {row : Row} {ts : List Cst} (h : row.IsQuiet) (hts : ∀ t ∈ ts, t.IsQuiet) :
    IsQuiet (.node row ts) := by
  intro q hq
  rcases RoseTree.mem_preorder_iff.1 hq with rfl | ⟨t, ht, hq⟩
  · exact h
  · exact hts t ht q hq

/-- A construct other than a call makes a tree without calls, if those inside are. -/
theorem Row.IsConstruct.isQuiet {row : Row} {kind : String} {ts : List Cst}
    (h : row.IsConstruct kind) (hcall : kind ≠ "call_expression") (hts : ∀ t ∈ ts, t.IsQuiet) :
    Cst.IsQuiet (.node row ts) :=
  Cst.isQuiet_node ⟨by rwa [h.kind_eq], h.missing⟩ hts

/-- A token is a tree without calls. -/
theorem Row.IsMark.isQuiet {row : Row} {text : String} (h : row.IsMark src text)
    (hcall : text ≠ "call_expression") : Cst.IsQuiet (.node row []) :=
  Cst.isQuiet_node ⟨by rwa [h.kind_eq], h.missing⟩ (by simp)

/-- An identifier is a tree without calls. -/
theorem Row.IsIdentifier.isQuiet {row : Row} {text : String} (h : row.IsIdentifier src text) :
    Cst.IsQuiet (.node row []) := by
  obtain ⟨kind, hkind, hrow⟩ := h.construct
  have hcall : kind ≠ "call_expression" := by
    rintro rfl
    exact absurd hkind (by decide)
  exact hrow.isQuiet hcall (by simp)

end

/-!
## What written rows lower to

The rows that a written suite is made of, one by one.

* `Row.IsConstruct.sketches_of_plain`: most constructs lower to one node over their children.
* `Row.IsToken.sketches_eq`, `Row.IsIdentifier.sketches_eq`: tokens and identifiers.
* `Cst.sketches_of_string`: a string, whose rows between the quotes lower to `Cst.entryLeaves`.
* `Cst.sketches_of_arguments`: an argument list with one argument.
-/

section

variable {src : Source} {row : Row} {kind text : String}

/-! ### Constructs -/

/-- The kind of node that a row of a role makes over all that its children lower to. -/
def Role.plainKind? : Role → Option NodeKind
  | .classBody => some .classBody
  | .block => some .blockExpression
  | .arguments => some .valueArgumentList
  | .argument => some .valueArgument
  | .lambdaArgument => some .lambdaArgument
  | .lambda => some .lambdaExpression
  | _ => none

/-- A comment has no role of its own. -/
theorem Role.ofKind_of_mem_comments (h : kind ∈ KindNames.comments) :
    Role.ofKind kind = .other := by
  simp only [KindNames.comments, List.mem_cons, List.not_mem_nil, or_false] at h
  rcases h with rfl | rfl | rfl | rfl | rfl <;> decide

/-- An identifier has the role of one. -/
theorem Role.ofKind_of_mem_identifiers (h : kind ∈ KindNames.identifiers) :
    Role.ofKind kind = .identifier := by
  simp only [KindNames.identifiers, List.mem_cons, List.not_mem_nil, or_false] at h
  rcases h with rfl | rfl | rfl <;> decide

/-- A string has the role of one. -/
theorem Role.ofKind_of_mem_strings (h : kind ∈ KindNames.strings) :
    Role.ofKind kind = .string := by
  simp only [KindNames.strings, List.mem_cons, List.not_mem_nil, or_false] at h
  rcases h with rfl | rfl | rfl | rfl <;> decide

namespace Row

/-- A construct with a role of its own lowers by that role. -/
theorem IsConstruct.sketches_eq (h : row.IsConstruct kind) (hrole : Role.ofKind kind ≠ .other)
    (src : Source) (ts : List Cst) :
    Cst.sketches src (.node row ts) = Part.constructNodes src row (ts.map (Cst.toPart src)) := by
  apply Cst.sketches_of_construct src ts h.named h.missing h.error
  unfold isComment
  rw [h.kind_eq]
  by_contra hcomment
  apply hrole
  exact Role.ofKind_of_mem_comments (by simpa using hcomment)

/-- A construct that keeps its children lowers to one node over what they lower to. -/
theorem IsConstruct.sketches_of_plain {nodeKind : NodeKind} (h : row.IsConstruct kind)
    (hkind : (Role.ofKind kind).plainKind? = some nodeKind) (src : Source) (ts : List Cst) :
    Cst.sketches src (.node row ts) =
      [.composite nodeKind (src.rowSpan row) (ts.flatMap (Cst.sketches src))] := by
  have hrole : Role.ofKind kind ≠ .other := by
    intro hother
    rw [hother] at hkind
    cases hkind
  rw [h.sketches_eq hrole]
  unfold Part.constructNodes
  rw [h.kind_eq, Cst.sketchAll_map_toPart]
  cases hofKind : Role.ofKind kind <;> rw [hofKind] at hkind <;> cases hkind <;> rfl

/-- A call lowers to a call node. -/
theorem IsConstruct.sketches_of_call (h : row.IsConstruct "call_expression") (src : Source)
    (ts : List Cst) :
    Cst.sketches src (.node row ts) = [Part.callNode src row (ts.map (Cst.toPart src))] := by
  rw [h.sketches_eq (by decide)]
  unfold Part.constructNodes
  rw [h.kind_eq]
  rfl

/-- A dotted access lowers to the node of one. -/
theorem IsConstruct.sketches_of_navigation (h : row.IsConstruct "navigation_expression")
    (src : Source) (ts : List Cst) :
    Cst.sketches src (.node row ts) = [Part.navigationNode src row (ts.map (Cst.toPart src))] := by
  rw [h.sketches_eq (by decide)]
  unfold Part.constructNodes
  rw [h.kind_eq]
  rfl

/-! ### Tokens and identifiers -/

/-- A token other than the dot lowers to punctuation. -/
theorem IsToken.sketches_eq (h : row.IsToken src text) (hdot : text ≠ ".") (ts : List Cst) :
    Cst.sketches src (.node row ts) = [.leaf .punctuation text.toList (src.rowSpan row)] := by
  have hne : text.toList ≠ ['.'] := by
    intro heq
    exact hdot (String.toList_inj.1 heq)
  rw [Cst.sketches_node]
  unfold Part.rowNodes
  rw [h.missing, h.error, h.comment, h.named]
  simp [Part.tokenLeaf, h.text_eq, hne]

/-- An identifier lowers to a reference. -/
theorem IsIdentifier.sketches_eq (h : row.IsIdentifier src text) (ts : List Cst) :
    Cst.sketches src (.node row ts) = [Part.nameReference src row] := by
  obtain ⟨⟨kind, hkind, hrow⟩, -⟩ := h
  have hrole := Role.ofKind_of_mem_identifiers hkind
  rw [hrow.sketches_eq (by rw [hrole]; decide)]
  unfold Part.constructNodes
  rw [hrow.kind_eq, hrole]

/-- An identifier is a named row. -/
theorem IsIdentifier.named (h : row.IsIdentifier src text) : row.named = true := by
  obtain ⟨⟨kind, -, hrow⟩, -⟩ := h
  exact hrow.named

/-- An identifier is taken for one by its kind. -/
theorem IsIdentifier.isIdentifier (h : row.IsIdentifier src text) : row.isIdentifier = true := by
  obtain ⟨⟨kind, hkind, hrow⟩, -⟩ := h
  rw [Row.isIdentifier, hrow.kind_eq]
  exact List.contains_iff_mem.2 hkind

/-- A row that is taken for an identifier is of no other kind. -/
theorem kind_ne_of_isIdentifier (h : row.isIdentifier = true) (kind : String)
    (hkind : kind ∉ KindNames.identifiers) : (row.kind == kind) = false := by
  apply beq_eq_false_iff_ne.2
  rintro rfl
  exact hkind (List.contains_iff_mem.1 h)

/-- An identifier is of no other kind. -/
theorem IsIdentifier.kind_ne (h : row.IsIdentifier src text) (kind : String)
    (hkind : kind ∉ KindNames.identifiers) : (row.kind == kind) = false :=
  kind_ne_of_isIdentifier h.isIdentifier kind hkind

end Row

/-! ### Strings -/

/-- Whether a row is an escape sequence or plain content of a string. -/
structure Row.IsEntry (row : Row) : Prop where
  named : row.named = true
  missing : row.missing = false
  kind : row.isEscape = true ∨ row.isContent = true

instance (row : Row) : Decidable row.IsEntry :=
  decidable_of_iff (row.named = true ∧ row.missing = false ∧
      (row.isEscape = true ∨ row.isContent = true))
    ⟨fun ⟨hnamed, hmissing, hkind⟩ => ⟨hnamed, hmissing, hkind⟩,
      fun ⟨hnamed, hmissing, hkind⟩ => ⟨hnamed, hmissing, hkind⟩⟩

namespace Cst

variable {t opening closing : Cst} {items : List Cst}

/-- The escape rows in a row of content. -/
def escapes (t : Cst) : List Row :=
  (t.children.map RoseTree.label).filter fun r => r.named && r.isEscape

/-- The parts of the escape rows in a row of content. -/
def escapeParts (src : Source) (t : Cst) : List Part :=
  (Part.namedChildren (toPart src t)).filter (·.row.isEscape)

/-- The parts of the escapes in a row of content have the rows of these escapes. -/
theorem map_row_escapeParts (src : Source) (t : Cst) :
    (escapeParts src t).map Part.row = t.escapes := by
  rw [escapeParts, Part.namedChildren, children_toPart, escapes]
  simp only [List.filter_map, List.filter_filter, List.map_map, Function.comp_def, row_toPart,
    isNamed_toPart, Bool.and_comm]

/-- What an escape sequence or a row of content lowers to in a string. -/
def entryLeaves (src : Source) (t : Cst) : List Sketch :=
  if t.label.isEscape then [.leaf .escapeStringEntry (src.rowText t.label) (src.rowSpan t.label)]
  else Part.contentLeaves src (src.rowSpan t.label) t.label.stop.toNat t.label.start.toNat
    (escapeParts src t)

/-- In whatever place it stands, an escape or a row of content lowers to its leaves. -/
theorem stringEntries_of_isEntry (h : t.label.IsEntry) (isFirst isLast : Bool) :
    Part.stringEntries src isFirst isLast (toPart src t) = entryLeaves src t := by
  unfold Part.stringEntries entryLeaves
  dsimp only
  rw [row_toPart, isNamed_toPart, h.missing, h.named]
  cases hescape : t.label.isEscape with
  | true => rfl
  | false =>
    have hcontent : t.label.isContent = true := by simpa [hescape] using h.kind
    rw [hcontent]
    rfl

/-- The rows behind the opening quote, one after the other. -/
theorem stringEntriesAll_of_isEntry (hclosing : closing.label.IsQuote src)
    (hitems : ∀ t ∈ items, t.label.IsEntry) :
    Part.stringEntriesAll src false ((items ++ [closing]).map (toPart src)) =
      items.flatMap (entryLeaves src) ++
        [.leaf .closingQuote (src.rowText closing.label) (src.rowSpan closing.label)] := by
  induction items with
  | nil =>
    simp [Part.stringEntriesAll, Part.stringEntries, row_toPart, isNamed_toPart, hclosing.missing,
      hclosing.named, hclosing.text_eq]
  | cons t items ih =>
    obtain ⟨ht, hitems⟩ := List.forall_mem_cons.1 hitems
    rw [List.cons_append, List.map_cons, Part.stringEntriesAll, stringEntries_of_isEntry ht,
      ih hitems, List.flatMap_cons, List.append_assoc]

/-- A string lowers to a template of the entries of its children. -/
theorem sketches_of_isString (hkind : kind ∈ KindNames.strings) (hrow : row.IsConstruct kind)
    (ts : List Cst) :
    sketches src (.node row ts) = [.composite .stringTemplate (src.rowSpan row)
      (Part.stringEntriesAll src true (ts.map (toPart src)))] := by
  have hrole := Role.ofKind_of_mem_strings hkind
  rw [hrow.sketches_eq (by rw [hrole]; decide)]
  unfold Part.constructNodes
  rw [hrow.kind_eq, hrole]

/-- A string of content and escapes lowers to a template of their entries, quotes around them. -/
theorem sketches_of_string (hkind : kind ∈ KindNames.strings) (hrow : row.IsConstruct kind)
    (hopening : opening.label.IsQuote src) (hclosing : closing.label.IsQuote src)
    (hitems : ∀ t ∈ items, t.label.IsEntry) :
    sketches src (.node row (opening :: items ++ [closing])) =
      [.composite .stringTemplate (src.rowSpan row)
        (.leaf .openQuote (src.rowText opening.label) (src.rowSpan opening.label) ::
          (items.flatMap (entryLeaves src) ++
            [.leaf .closingQuote (src.rowText closing.label) (src.rowSpan closing.label)]))] := by
  have hopen : Part.stringEntries src true false (toPart src opening) =
      [.leaf .openQuote (src.rowText opening.label) (src.rowSpan opening.label)] := by
    simp [Part.stringEntries, row_toPart, isNamed_toPart, hopening.missing, hopening.named,
      hopening.text_eq]
  have hmore : ((items ++ [closing]).map (toPart src)).isEmpty = false := by simp
  rw [sketches_of_isString hkind hrow, List.cons_append, List.map_cons, Part.stringEntriesAll,
    hmore, hopen,
    stringEntriesAll_of_isEntry hclosing hitems, List.singleton_append]

end Cst

/-! ### Argument lists -/

/-- A parenthesized argument lowers to an argument list with this argument. -/
theorem Cst.sketches_of_arguments {arguments opening argument closing : Row} {t : Cst} {s : Sketch}
    (harguments : arguments.IsConstruct "value_arguments") (hopening : opening.IsToken src "(")
    (hargument : argument.IsConstruct "value_argument") (hclosing : closing.IsToken src ")")
    (ht : sketches src t = [s]) :
    sketches src (.node arguments [.node opening [], .node argument [t], .node closing []]) =
      [.composite .valueArgumentList (src.rowSpan arguments)
        [.leaf .punctuation ['('] (src.rowSpan opening),
          .composite .valueArgument (src.rowSpan argument) [s],
          .leaf .punctuation [')'] (src.rowSpan closing)]] := by
  have hinner : sketches src (.node argument [t]) =
      [.composite .valueArgument (src.rowSpan argument) [s]] := by
    rw [hargument.sketches_of_plain rfl, List.flatMap_singleton, ht]
  rw [harguments.sketches_of_plain rfl, List.flatMap_cons, List.flatMap_cons,
    List.flatMap_singleton, hopening.sketches_eq (by decide), hinner,
    hclosing.sketches_eq (by decide)]
  rfl

end

end KotestOutline
