import KotestOutline.Proofs.Lowering.Interpolation
import KotestOutline.Proofs.Lowering.Origin
import KotestOutline.Proofs.Syntax.Missing

/-!
# Text of a string

A string of tokens, content and escapes keeps its text when it is lowered: the entries of the
template, one after the other, hold just the characters of the row.

* `Cst.IsTiledString` is such a string, whose children follow each other without gaps.
* `Source.Spells`: leaves that hold just the characters of a range. Ranges that follow each other
  are spelled by the leaves of one behind those of the other.
* `Cst.HasLeaves` and `Cst.hasLeaves_stringEntries`: the leaves of one child.
* `Cst.text_template_of_isTiledString`: the text of the template, and what each child is cut into.
-/

namespace KotestOutline

variable {src : Source} {row : Row} {start middle stop : Nat} {t : Cst} {ts : List Cst}

/-! ### Strings without gaps -/

namespace Row

/-- Whether rows follow each other without gaps, from the offset `start` to the offset `stop`. -/
def Tile (start stop : UInt32) : List Row → Prop
  | [] => start = stop
  | row :: rows => row.start = start ∧ row.start ≤ row.stop ∧ Tile row.stop stop rows

instance decidableTile : ∀ (start stop : UInt32) (rows : List Row), Decidable (Tile start stop rows)
  | start, stop, [] => inferInstanceAs (Decidable (start = stop))
  | start, stop, row :: rows =>
    have := decidableTile row.stop stop rows
    inferInstanceAs (Decidable (row.start = start ∧ row.start ≤ row.stop ∧
      Tile row.stop stop rows))

/-- Whether a row is plain content of a string. -/
structure IsPlainContent (row : Row) : Prop where
  named : row.named = true
  escape : row.isEscape = false
  content : row.isContent = true

instance (row : Row) : Decidable row.IsPlainContent :=
  decidable_of_iff (row.named = true ∧ row.isEscape = false ∧ row.isContent = true)
    ⟨fun ⟨hnamed, hescape, hcontent⟩ => ⟨hnamed, hescape, hcontent⟩,
      fun ⟨hnamed, hescape, hcontent⟩ => ⟨hnamed, hescape, hcontent⟩⟩

/-- Whether a row may stand in a string: a token, plain content or an escape sequence. -/
structure IsStringPart (row : Row) : Prop where
  missing : row.missing = false
  kind : row.named = false ∨ row.isEscape = true ∨ row.isContent = true

instance (row : Row) : Decidable row.IsStringPart :=
  decidable_of_iff (row.missing = false ∧
      (row.named = false ∨ row.isEscape = true ∨ row.isContent = true))
    ⟨fun ⟨hmissing, hkind⟩ => ⟨hmissing, hkind⟩, fun ⟨hmissing, hkind⟩ => ⟨hmissing, hkind⟩⟩

end Row

namespace Cst

/-- Whether a tree is a string whose children, tokens, content and escapes, follow each other
without gaps and make up the row. -/
structure IsTiledString (src : Source) (t : Cst) : Prop where
  construct : ∃ kind ∈ KindNames.strings, t.label.IsConstruct kind
  parts : ∀ c ∈ t.children, c.label.IsStringPart
  tile : Row.Tile t.label.start t.label.stop (t.children.map RoseTree.label)
  aligned : ∀ r ∈ t.label :: t.children.map RoseTree.label, r.IsAligned src
  escapes : ∀ c ∈ t.children, c.label.IsPlainContent → HasApartEscapes src c

end Cst

/-! ### Leaves that spell a range -/

namespace Sketch

/-- The characters that a sketch has of its own. -/
def ownText (s : Sketch) : List Char := (s.label.text.getD "").toList

/-- A leaf has its text of its own. -/
theorem ownText_leaf (kind : NodeKind) (text : List Char) (span : Span) :
    (leaf kind text span).ownText = text := String.toList_ofList

/-- Whether a sketch is a leaf with a text. -/
def IsTextLeaf (s : Sketch) : Prop :=
  ∃ kind text span, kind ≠ .superTypeList ∧ s = leaf kind text span

/-- A leaf is a leaf with a text. -/
theorem isTextLeaf_leaf {kind : NodeKind} (hkind : kind ≠ .superTypeList) (text : List Char)
    (span : Span) : (leaf kind text span).IsTextLeaf :=
  ⟨kind, text, span, hkind, rfl⟩

/-- A leaf with a text is no supertype list. -/
theorem IsTextLeaf.isSuperTypeList_eq_false {s : Sketch} (h : s.IsTextLeaf) :
    s.isSuperTypeList = false := by
  obtain ⟨kind, text, span, hkind, rfl⟩ := h
  exact (isLone_leaf hkind text span).other

end Sketch

namespace Source

/-- Whether sketches, one after the other, hold just the characters from `start` to `stop`. -/
def Spells (src : Source) (start stop : Nat) (ss : List Sketch) : Prop :=
  ∃ rest, src.HasAt start (ss.flatMap Sketch.ownText) rest ∧
    stop = start + utf8Length (ss.flatMap Sketch.ownText)

/-- Sketches that spell a stretch of the source have its characters. -/
theorem Spells.slice_eq {ss : List Sketch} (h : src.Spells start stop ss) :
    src.slice start stop = some (ss.flatMap Sketch.ownText) := by
  obtain ⟨rest, hat, rfl⟩ := h
  exact hat.slice_eq

/-- No sketches spell nothing. -/
theorem spells_nil (h : src.IsBoundary start) : src.Spells start start [] := by
  obtain ⟨text, rest, hat, hlength⟩ := exists_hasAt h h (Nat.le_refl start)
  obtain rfl : text = [] := utf8Length_eq_zero_iff.1 (by omega)
  exact ⟨rest, hat, rfl⟩

/-- Sketches that spell two stretches, one behind the other, spell both together. -/
theorem Spells.append {ss ss' : List Sketch} (h : src.Spells start middle ss)
    (h' : src.Spells middle stop ss') : src.Spells start stop (ss ++ ss') := by
  obtain ⟨rest, hat, rfl⟩ := h
  obtain ⟨rest', hat', rfl⟩ := h'
  refine ⟨rest', ?_, ?_⟩
  · rw [List.flatMap_append]
    exact hat.append hat'
  · rw [List.flatMap_append, utf8Length_append, Nat.add_assoc]

/-- A row is spelled by a leaf with its text. -/
theorem spells_rowText (kind : NodeKind) (span : Span) (haligned : row.IsAligned src)
    (hrange : row.start.toNat ≤ row.stop.toNat) :
    src.Spells row.start.toNat row.stop.toNat [.leaf kind (src.rowText row) span] := by
  obtain ⟨text, rest, hat, hlength⟩ := exists_hasAt haligned.1 haligned.2 hrange
  have htext : src.rowText row = text := Row.Covers.rowText_eq ⟨rfl, hlength⟩ hat
  refine ⟨rest, ?_, ?_⟩
  · rwa [List.flatMap_singleton, Sketch.ownText_leaf, htext]
  · rwa [List.flatMap_singleton, Sketch.ownText_leaf, htext]

/-- Content that consists of runs begins between two characters. -/
theorem HasRuns.isBoundary {rows : List Row} (h : src.HasRuns stop start rows) :
    src.IsBoundary start := by
  cases h with
  | last hrun => exact hrun.isBoundary
  | next hrun => exact hrun.isBoundary

end Source

/-- The leaf of a piece has the characters of the piece. -/
theorem Piece.ownText_leaf (span : Span) (piece : Piece) :
    (piece.leaf span).ownText = piece.text := by
  cases piece with
  | literal text => exact Sketch.ownText_leaf _ text span
  | template text => exact Sketch.ownText_leaf _ text span

/-- The pieces of a run spell it. -/
theorem spells_runLeaves {text rest : List Char} (h : src.HasAt start text rest) (span : Span) :
    src.Spells start (start + utf8Length text)
      (Part.runLeaves src span start (start + utf8Length text)) := by
  have htext : (Part.runLeaves src span start (start + utf8Length text)).flatMap Sketch.ownText =
      text := by
    rw [runLeaves_eq h, List.flatMap_map]
    simp only [Piece.ownText_leaf]
    exact flatMap_text_pieces rest.head? 0 false text
  refine ⟨rest, ?_, ?_⟩
  · rwa [htext]
  · rw [htext]

/-- The leaves of content spell it. By induction on the escapes. -/
theorem spells_contentLeaves {rows : List Row} (h : src.HasRuns stop start rows) (span : Span)
    (escapes : List Part) (hrows : escapes.map Part.row = rows) :
    src.Spells start stop (Part.contentLeaves src span stop start escapes) := by
  induction h generalizing escapes with
  | last hrun hstop =>
    obtain rfl := List.map_eq_nil_iff.1 hrows
    rw [Part.contentLeaves, hstop]
    exact spells_runLeaves hrun span
  | @next start row rows text rest hrun hrow hrange hrest ih =>
    obtain ⟨p, ps, rfl, rfl, hps⟩ := List.map_eq_cons_iff.1 hrows
    have haligned : p.row.IsAligned src := ⟨hrow ▸ hrun.isBoundary_stop, hrest.isBoundary⟩
    have hescape := Source.spells_rowText .escapeStringEntry (src.rowSpan p.row) haligned hrange
    rw [Part.contentLeaves]
    refine Source.Spells.append ?_ (hescape.append (ih ps hps))
    rw [hrow]
    exact spells_runLeaves hrun span

/-! ### What content is cut into -/

/-- Whether literal text and interpolations are cut as they should be: none is empty, and
interpolations begin with a dollar sign. -/
structure IsWellCut (kind : NodeKind) (text : List Char) : Prop where
  ne_nil : kind = .literalStringEntry ∨ kind = .templateEntry → text ≠ []
  dollar : kind = .templateEntry → text.head? = some '$'

/-- A piece that is cut as it should be makes a leaf that is. -/
theorem Piece.IsCut.isWellCut {piece : Piece} (h : piece.IsCut) (span : Span) :
    IsWellCut (piece.leaf span).label.kind (piece.leaf span).ownText := by
  rw [Piece.ownText_leaf]
  exact ⟨fun _ => h.text_ne_nil, fun hkind => h.dollar (Piece.kind_leaf_eq_iff.1 hkind)⟩

/-- The leaves of a run of content are cut as they should be. -/
theorem isWellCut_of_mem_runLeaves {span : Span} :
    ∀ s ∈ Part.runLeaves src span start stop, IsWellCut s.label.kind s.ownText := by
  intro s hs
  unfold Part.runLeaves at hs
  split_ifs at hs
  · split at hs
    · cases hs
    · obtain ⟨piece, hpiece, rfl⟩ := List.mem_map.1 hs
      have hcut := (isCut_of_mem_pieces _ _ _ _ piece hpiece).isWellCut span
      cases piece with
      | literal text => exact hcut
      | template text => exact hcut
  · cases hs

/-- The leaves of string content are cut as they should be. -/
theorem isWellCut_of_mem_contentLeaves {span : Span} {escapes : List Part} :
    ∀ s ∈ Part.contentLeaves src span stop start escapes, IsWellCut s.label.kind s.ownText := by
  induction escapes generalizing start with
  | nil => exact isWellCut_of_mem_runLeaves
  | cons escape rest ih =>
    have hescape : IsWellCut .escapeStringEntry (src.rowText escape.row) :=
      ⟨fun h => absurd h (by decide), fun h => absurd h (by decide)⟩
    intro s hs
    rw [Part.contentLeaves, List.mem_append, List.mem_cons] at hs
    rcases hs with hs | rfl | hs
    · exact isWellCut_of_mem_runLeaves s hs
    · rwa [Sketch.ownText_leaf]
    · exact ih s hs

namespace Cst

/-! ### The leaves of one child -/

/-- Whether leaves are what a child of a string is cut into: they spell it, and if it is content,
they are cut as they should be. -/
structure HasLeaves (src : Source) (t : Cst) (ss : List Sketch) : Prop where
  leaf : ∀ s ∈ ss, s.IsTextLeaf
  spells : src.Spells t.label.start.toNat t.label.stop.toNat ss
  cut : t.label.IsPlainContent → ∀ s ∈ ss, IsWellCut s.label.kind s.ownText

/-- A token stays in one piece, whatever its place in the string. -/
theorem exists_stringEntries_eq_leaf (src : Source) (hmissing : t.label.missing = false)
    (hnamed : t.label.named = false) (isFirst isLast : Bool) :
    ∃ kind, kind ≠ .superTypeList ∧ Part.stringEntries src isFirst isLast (toPart src t) =
      [.leaf kind (src.rowText t.label) (src.rowSpan t.label)] := by
  unfold Part.stringEntries
  dsimp only
  rw [row_toPart, isNamed_toPart, hmissing, hnamed]
  simp only [Bool.false_eq_true, if_false, Bool.not_false, if_true]
  split_ifs
  · exact ⟨.openQuote, by decide, rfl⟩
  · exact ⟨.closingQuote, by decide, rfl⟩
  · exact ⟨.templateEntry, by decide, rfl⟩

/-- One leaf with the text of its row is what a token or an escape sequence becomes. -/
theorem hasLeaves_rowText {kind : NodeKind} (hkind : kind ≠ .superTypeList)
    (haligned : t.label.IsAligned src) (hrange : t.label.start ≤ t.label.stop)
    (hplain : ¬ t.label.IsPlainContent) :
    HasLeaves src t [.leaf kind (src.rowText t.label) (src.rowSpan t.label)] where
  leaf := List.forall_mem_singleton.2 (Sketch.isTextLeaf_leaf hkind _ _)
  spells := Source.spells_rowText kind _ haligned (UInt32.le_iff_toNat_le.1 hrange)
  cut h := absurd h hplain

/-- The leaves of a content row are what the row is cut into. -/
theorem hasLeaves_contentLeaves (haligned : t.label.IsAligned src)
    (hrange : t.label.start ≤ t.label.stop) (hescapes : t.HasApartEscapes src) :
    HasLeaves src t (Part.contentLeaves src (src.rowSpan t.label) t.label.stop.toNat
      t.label.start.toNat (escapeParts src t)) where
  leaf s hs := by
    rcases Part.exists_of_mem_contentLeaves hs with ⟨kind, text, hkind, rfl⟩ | ⟨escape, -, rfl⟩
    · exact Sketch.isTextLeaf_leaf (by rcases hkind with rfl | rfl <;> decide) _ _
    · exact Sketch.isTextLeaf_leaf (by decide) _ _
  spells := spells_contentLeaves (hescapes.hasRuns haligned hrange) _ _
    (map_row_escapeParts src t)
  cut _ := isWellCut_of_mem_contentLeaves

/-- The entries of a child of a string spell it. -/
theorem hasLeaves_stringEntries (hpart : t.label.IsStringPart) (haligned : t.label.IsAligned src)
    (hrange : t.label.start ≤ t.label.stop)
    (hescapes : t.label.IsPlainContent → t.HasApartEscapes src) (isFirst isLast : Bool) :
    HasLeaves src t (Part.stringEntries src isFirst isLast (toPart src t)) := by
  cases hnamed : t.label.named with
  | false =>
    obtain ⟨kind, hkind, heq⟩ :=
      exists_stringEntries_eq_leaf src hpart.missing hnamed isFirst isLast
    rw [heq]
    exact hasLeaves_rowText hkind haligned hrange fun h => by simp [h.named] at hnamed
  | true =>
    have hkind : t.label.isEscape = true ∨ t.label.isContent = true := by
      simpa [hnamed] using hpart.kind
    rw [stringEntries_of_isEntry ⟨hnamed, hpart.missing, hkind⟩]
    cases hescape : t.label.isEscape with
    | true =>
      rw [entryLeaves_of_isEscape hescape]
      exact hasLeaves_rowText (by decide) haligned hrange fun h => by simp [h.escape] at hescape
    | false =>
      have hcontent : t.label.isContent = true := by simpa [hescape] using hkind
      rw [entryLeaves_of_not_isEscape hescape]
      exact hasLeaves_contentLeaves haligned hrange (hescapes ⟨hnamed, hescape, hcontent⟩)

/-! ### The leaves of a string -/

/-- The entries of a string are those of its children. By induction on these. -/
theorem exists_hasLeaves_stringEntriesAll {start stop : UInt32}
    (htile : Row.Tile start stop (ts.map RoseTree.label))
    (hparts : ∀ t ∈ ts, t.label.IsStringPart) (haligned : ∀ t ∈ ts, t.label.IsAligned src)
    (hescapes : ∀ t ∈ ts, t.label.IsPlainContent → t.HasApartEscapes src) (isFirst : Bool) :
    ∃ groups, Part.stringEntriesAll src isFirst (ts.map (toPart src)) = groups.flatten ∧
      List.Forall₂ (HasLeaves src) ts groups := by
  induction ts generalizing start isFirst with
  | nil => exact ⟨[], rfl, .nil⟩
  | cons t ts ih =>
    obtain ⟨-, hrange, htile⟩ := htile
    obtain ⟨hpart, hparts⟩ := List.forall_mem_cons.1 hparts
    obtain ⟨ht, hts⟩ := List.forall_mem_cons.1 haligned
    obtain ⟨hescape, hescapes⟩ := List.forall_mem_cons.1 hescapes
    obtain ⟨groups, heq, hgroups⟩ := ih htile hparts hts hescapes false
    refine ⟨_ :: groups, ?_, .cons (hasLeaves_stringEntries hpart ht hrange hescape isFirst
      (ts.map (toPart src)).isEmpty) hgroups⟩
    rw [List.map_cons, Part.stringEntriesAll, heq, List.flatten_cons]

/-- The leaves of children that follow each other spell the range that these cover. By induction on
the children. -/
theorem spells_flatten {start stop : UInt32} {groups : List (List Sketch)}
    (htile : Row.Tile start stop (ts.map RoseTree.label)) (hstop : src.IsBoundary stop.toNat)
    (h : List.Forall₂ (HasLeaves src) ts groups) :
    src.Spells start.toNat stop.toNat groups.flatten := by
  induction h generalizing start with
  | nil =>
    obtain rfl : start = stop := htile
    exact Source.spells_nil hstop
  | cons hleaves _ ih =>
    obtain ⟨hstart, -, htile⟩ := htile
    rw [List.flatten_cons]
    exact (hstart ▸ hleaves.spells).append (ih htile)

end Cst

/-! ### Nodes -/

namespace Node

variable {n : Node}

/-- A node of a leaf has the text of the leaf. -/
theorem Shows.text_eq {s : Sketch} (h : n.Shows s) (hleaf : s.IsTextLeaf) :
    n.text.toList = s.ownText := by
  obtain ⟨kind, text, span, -, rfl⟩ := hleaf
  rw [h.text_leaf, String.toList_ofList, Sketch.ownText_leaf]

/-- Nodes of leaves have the texts of these. -/
theorem flatMap_text_of_shows {ns : List Node} {ss : List Sketch}
    (h : List.Forall₂ Shows ns ss) (hleaf : ∀ s ∈ ss, s.IsTextLeaf) :
    ns.flatMap (fun n => n.text.toList) = ss.flatMap Sketch.ownText := by
  induction h with
  | nil => rfl
  | cons hshow _ ih =>
    obtain ⟨hs, hss⟩ := List.forall_mem_cons.1 hleaf
    rw [List.flatMap_cons, List.flatMap_cons, hshow.text_eq hs, ih hss]

/-- The own texts of the tree of a leaf are its text. -/
theorem Shows.ownTexts_eq {s : Sketch} (h : n.Shows s) (hleaf : s.IsTextLeaf) :
    SyntaxTree.ownTexts n.tree = [n.text] := by
  obtain ⟨kind, text, span, -, rfl⟩ := hleaf
  have htext : n.tree.label.text = some (String.ofList text) := congrArg Content.text h.content_eq
  have hchildren : n.tree.children = [] := List.map_eq_nil_iff.1 h.children_leaf
  rw [h.text_leaf]
  obtain ⟨⟨label, children⟩, above⟩ := n
  rw [RoseTree.label_node] at htext
  rw [RoseTree.children_node] at hchildren
  rw [SyntaxTree.ownTexts, htext, hchildren, SyntaxTree.ownTextsAll]
  rfl

/-- A node whose children are those of leaves has the texts of its children, one after the other. -/
theorem text_eq_of_shows_leaves {ss : List Sketch} (hnone : n.tree.label.text = none)
    (h : List.Forall₂ Shows n.children ss) (hleaf : ∀ s ∈ ss, s.IsTextLeaf) :
    n.text.toList = n.children.flatMap fun c => c.text.toList := by
  have hown : ∀ c ∈ n.children, SyntaxTree.ownTexts c.tree = [c.text] := by
    intro c hc
    obtain ⟨s, hs, hshow⟩ := exists_mem_of_forall₂ h hc
    exact hshow.ownTexts_eq (hleaf s hs)
  have htext : n.text = String.join (n.children.flatMap fun c => SyntaxTree.ownTexts c.tree) := by
    rw [text, SyntaxTree.text, hnone, Option.getD_none, SyntaxTree.ownTextsAll_eq_flatMap, children,
      List.flatMap_map]
  rw [htext, String.toList_join, List.flatMap_assoc]
  refine List.flatMap_congr fun c hc => ?_
  rw [hown c hc, List.flatMap_singleton]

end Node

/-- A list that is related to several ones, put together, is put together from parts related to
each. By induction on these. -/
theorem exists_flatten_of_forall₂ {α β : Type} {R : α → β → Prop} {groups : List (List β)}
    {as : List α} (h : List.Forall₂ R as groups.flatten) :
    ∃ blocks, as = blocks.flatten ∧ List.Forall₂ (List.Forall₂ R) blocks groups := by
  induction groups generalizing as with
  | nil => exact ⟨[], List.forall₂_nil_right_iff.1 h, .nil⟩
  | cons group groups ih =>
    rw [List.flatten_cons] at h
    obtain ⟨blocks, heq, hblocks⟩ := ih (List.forall₂_drop_append as group _ h)
    refine ⟨as.take group.length :: blocks, ?_,
      .cons (List.forall₂_take_append as group _ h) hblocks⟩
    rw [List.flatten_cons, ← heq, List.take_append_drop]

namespace Cst

/-- Whether nodes are what a child of a string becomes: they hold just its text, and if it is
content, they are cut as they should be. -/
structure IsCutInto (src : Source) (t : Cst) (ns : List Node) : Prop where
  text : src.slice t.label.start.toNat t.label.stop.toNat =
    some (ns.flatMap fun n => n.text.toList)
  cut : t.label.IsPlainContent → ∀ n ∈ ns, IsWellCut n.kind n.text.toList

/-- Nodes that show what a child of a string is cut into hold its text. -/
theorem HasLeaves.isCutInto {ss : List Sketch} {ns : List Node} (h : HasLeaves src t ss)
    (hshow : List.Forall₂ Node.Shows ns ss) : IsCutInto src t ns where
  text := by rw [Node.flatMap_text_of_shows hshow h.leaf, h.spells.slice_eq]
  cut hplain n hn := by
    obtain ⟨s, hs, hns⟩ := exists_mem_of_forall₂ hshow hn
    rw [Node.Shows.kind_eq hns, Node.Shows.text_eq hns (h.leaf s hs)]
    exact h.cut hplain s hs

/-- By induction on the children of the string. -/
theorem forall₂_isCutInto {groups : List (List Sketch)} {blocks : List (List Node)}
    (h : List.Forall₂ (HasLeaves src) ts groups)
    (hshow : List.Forall₂ (List.Forall₂ Node.Shows) blocks groups) :
    List.Forall₂ (IsCutInto src) ts blocks := by
  induction h generalizing blocks with
  | nil =>
    obtain rfl := List.forall₂_nil_right_iff.1 hshow
    exact .nil
  | cons hleaves _ ih =>
    obtain ⟨block, blocks, hblock, hblocks, rfl⟩ := List.forall₂_cons_right_iff.1 hshow
    exact .cons (hleaves.isCutInto hblock) (ih hblocks)

/-- **Text of a string.** A string of tokens, content and escapes, without gaps between them, is
lowered to one template that has just the text of the row. What a child of the row becomes in it has
the text of this child. Literal text from content is never empty, nor are interpolations, which
begin with a dollar sign. -/
theorem text_template_of_isTiledString (h : t.IsTiledString src) :
    ∃ s, sketches src t = [s] ∧ ∀ n : Node, n.Shows s → n.kind = .stringTemplate ∧
      src.slice t.label.start.toNat t.label.stop.toNat = some n.text.toList ∧
      ∃ blocks, n.children = blocks.flatten ∧ List.Forall₂ (IsCutInto src) t.children blocks := by
  obtain ⟨row, ts⟩ := t
  obtain ⟨kind, hkind, hrow⟩ := h.construct
  obtain ⟨hbound, haligned⟩ := List.forall_mem_cons.1 h.aligned
  obtain ⟨groups, hentries, hgroups⟩ := exists_hasLeaves_stringEntriesAll h.tile h.parts
    (fun c hc => haligned c.label (List.mem_map_of_mem hc)) h.escapes true
  have hleaf : ∀ s ∈ groups.flatten, s.IsTextLeaf := by
    intro s hs
    obtain ⟨group, hgroup, hs⟩ := List.mem_flatten.1 hs
    obtain ⟨c, -, hc⟩ := exists_mem_of_forall₂ hgroups.flip hgroup
    exact HasLeaves.leaf hc s hs
  refine ⟨_, sketches_of_isString hkind hrow ts, fun n hshow => ?_⟩
  rw [RoseTree.children_node] at hentries
  rw [hentries] at hshow
  have hchildren : List.Forall₂ Node.Shows n.children groups.flatten := by
    apply hshow.children
    rw [Sketch.composite, RoseTree.children_node, Sketch.countP_isSuperTypeList_eq_zero]
    · exact Nat.zero_le 1
    · exact fun s hs => (hleaf s hs).isSuperTypeList_eq_false
  obtain ⟨blocks, hblocks, hcut⟩ := exists_flatten_of_forall₂ hchildren
  have hnone : n.tree.label.text = none := congrArg Content.text hshow.content_eq
  refine ⟨hshow.kind_eq, ?_, blocks, hblocks, forall₂_isCutInto hgroups hcut⟩
  rw [Node.text_eq_of_shows_leaves hnone hchildren hleaf,
    Node.flatMap_text_of_shows hchildren hleaf]
  exact (spells_flatten h.tile hbound.2 hgroups).slice_eq

end Cst

namespace TabSample

/-- A string of content with an escape and an interpolation in it, and of an escape behind it. -/
def source : Source := .ofString "\"é\\t$a\\n\""

def quote (start stop : UInt32) : Cst := .node ⟨"\"", false, false, false, start, stop⟩ []

def escape (start stop : UInt32) : Cst :=
  .node ⟨"escape_sequence", true, false, false, start, stop⟩ []

def string : Cst :=
  .node ⟨"string_literal", true, false, false, 0, 10⟩
    [quote 0 1, .node ⟨"string_content", true, false, false, 1, 7⟩ [escape 3 5], escape 7 9,
      quote 9 10]

/-- The string with an escape in its content and one behind it is tiled. -/
theorem isTiledString : string.IsTiledString source where
  construct := ⟨"string_literal", by decide, rfl, rfl, rfl, rfl⟩
  parts := by decide
  tile := by decide
  aligned := by decide
  escapes := by decide

end TabSample

open TabSample in
/-- The node of this string has the whole string as its text. -/
theorem text_tabSample :
    string.IsTiledString source ∧ ∃ s, Cst.sketches source string = [s] ∧
      (Node.ofTree s.number).text = "\"é\\t$a\\n\"" := by
  obtain ⟨s, hs, hnodes⟩ := Cst.text_template_of_isTiledString isTiledString
  obtain ⟨-, htext, -⟩ := hnodes (Node.ofTree s.number) (Sketch.numbersTo_number s)
  have hslice : source.slice 0 10 = some "\"é\\t$a\\n\"".toList := by decide
  refine ⟨isTiledString, s, hs, String.toList_inj.1 ?_⟩
  exact Option.some.inj (htext.symm.trans hslice)

end KotestOutline
