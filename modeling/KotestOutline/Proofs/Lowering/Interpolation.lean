import KotestOutline.Proofs.Lowering.Content
import KotestOutline.Proofs.Lowering.Order
import KotestOutline.Proofs.Lowering.Preorder
import KotestOutline.Proofs.Recognition.LiteralGrammar

/-!
# Interpolations of a string

A string of plain content and escapes has an interpolation among its entries exactly if a dollar
sign of its content opens one, and then it has no value. All other dollar signs are literal text. A
raw string has no escapes, but a backslash in it keeps a dollar sign from opening an interpolation
all the same.

* `Cst.IsStringRow` is such a string, single-line or raw.
* `Cst.hasRuns`: what a row of content consists of.
* `Cst.template_entries_of_isStringRow`: what every dollar sign of the string is part of.
-/

namespace KotestOutline

variable {src : Source} {row : Row} {opening closing t : Cst} {items : List Cst} {offset : Nat}

/-! ### Rows of content -/

/-- Whether a row begins and ends between characters. -/
def Row.IsAligned (src : Source) (row : Row) : Prop :=
  src.IsBoundary row.start.toNat ∧ src.IsBoundary row.stop.toNat

instance (src : Source) (row : Row) : Decidable (row.IsAligned src) :=
  inferInstanceAs (Decidable (src.IsBoundary row.start.toNat ∧ src.IsBoundary row.stop.toNat))

namespace Cst

/-- Whether a row of content and the escapes in it begin and end between characters. -/
def IsAligned (src : Source) (t : Cst) : Prop :=
  ∀ r ∈ t.label :: t.escapes, src.IsBoundary r.start.toNat ∧ src.IsBoundary r.stop.toNat

instance (src : Source) (t : Cst) : Decidable (t.IsAligned src) :=
  inferInstanceAs (Decidable (∀ r ∈ t.label :: t.escapes,
    src.IsBoundary r.start.toNat ∧ src.IsBoundary r.stop.toNat))

/-- Whether the escapes in a row of content lie in it one after the other. -/
structure HasApartEscapes (src : Source) (t : Cst) : Prop where
  range : ∀ e ∈ t.escapes, e.start ≤ e.stop
  inside : ∀ e ∈ t.escapes, e.Within t.label
  apart : t.escapes.Pairwise fun a b => a.stop ≤ b.start
  aligned : ∀ e ∈ t.escapes, e.IsAligned src

instance (src : Source) (t : Cst) : Decidable (t.HasApartEscapes src) :=
  decidable_of_iff ((∀ e ∈ t.escapes, e.start ≤ e.stop) ∧
      (∀ e ∈ t.escapes, t.label.start ≤ e.start ∧ e.stop ≤ t.label.stop) ∧
      (t.escapes.Pairwise fun a b => a.stop ≤ b.start) ∧ ∀ e ∈ t.escapes, e.IsAligned src)
    ⟨fun ⟨hrange, hinside, hapart, haligned⟩ =>
        ⟨hrange, fun e he => ⟨(hinside e he).1, (hinside e he).2⟩, hapart, haligned⟩,
      fun ⟨hrange, hinside, hapart, haligned⟩ =>
        ⟨hrange, fun e he => ⟨(hinside e he).start, (hinside e he).stop⟩, hapart, haligned⟩⟩

/-- Whether an offset lies in a row of content, outside every escape row. -/
structure HoldsPlain (t : Cst) (offset : Nat) : Prop where
  content : t.label.isEscape = false
  start : t.label.start.toNat ≤ offset
  stop : offset < t.label.stop.toNat
  outside : IsOutside t.escapes offset

/-- An escape of a content row is the row of one of its children. -/
theorem exists_child_of_mem_escapes {e : Row} (he : e ∈ t.escapes) :
    ∃ c ∈ t.children, c.label = e :=
  List.mem_map.1 (List.mem_of_mem_filter he)

/-- Content with such escapes consists of runs with the escapes between them. -/
theorem HasApartEscapes.hasRuns (h : t.HasApartEscapes src) (haligned : t.label.IsAligned src)
    (hrange : t.label.start ≤ t.label.stop) :
    src.HasRuns t.label.stop.toNat t.label.start.toNat t.escapes := by
  refine Source.hasRuns_of_pairwise haligned.1 haligned.2 (UInt32.le_iff_toNat_le.1 hrange) ?_ ?_
    h.aligned ?_
  · exact fun e he => UInt32.le_iff_toNat_le.1 (h.range e he)
  · intro e he
    have hinside := h.inside e he
    exact ⟨UInt32.le_iff_toNat_le.1 hinside.start, UInt32.le_iff_toNat_le.1 hinside.stop⟩
  · exact h.apart.imp fun hle => UInt32.le_iff_toNat_le.1 hle

/-- In a tree whose rows are in order, the escapes of a content row lie one after the other. -/
theorem IsOrdered.hasApartEscapes (hordered : t.IsOrdered) (haligned : t.IsAligned src) :
    t.HasApartEscapes src := by
  obtain ⟨-, hinside, hapart⟩ := hordered t (RoseTree.self_mem_preorder t)
  constructor
  case range =>
    intro e he
    obtain ⟨c, hc, rfl⟩ := exists_child_of_mem_escapes he
    exact (hordered c (RoseTree.mem_preorder_of_mem_children hc)).1
  case inside =>
    intro e he
    obtain ⟨c, hc, rfl⟩ := exists_child_of_mem_escapes he
    exact ⟨(hinside c hc).1, (hinside c hc).2⟩
  case apart => exact (List.pairwise_map.2 hapart).filter _
  case aligned => exact (List.forall_mem_cons.1 haligned).2

/-- A row of content consists of runs with its escapes between them. -/
theorem hasRuns (hordered : t.IsOrdered) (haligned : t.IsAligned src) :
    src.HasRuns t.label.stop.toNat t.label.start.toNat t.escapes :=
  (hordered.hasApartEscapes haligned).hasRuns (haligned t.label List.mem_cons_self)
    (hordered t (RoseTree.self_mem_preorder t)).1

/-! ### Entries -/

/-- The entry of an escape row is one leaf with its text. -/
theorem entryLeaves_of_isEscape (h : t.label.isEscape = true) :
    entryLeaves src t =
      [.leaf .escapeStringEntry (src.rowText t.label) (src.rowSpan t.label)] := if_pos h

/-- The entries of a content row are the leaves of its text and of the escapes in it. -/
theorem entryLeaves_of_not_isEscape (h : t.label.isEscape = false) :
    entryLeaves src t = Part.contentLeaves src (src.rowSpan t.label) t.label.stop.toNat
      t.label.start.toNat (escapeParts src t) := if_neg (by simp [h])

/-- No entry of a content row is a supertype list, nor holds a child list with two of them. -/
theorem isLone_entryLeaves (src : Source) (t : Cst) : ∀ s ∈ entryLeaves src t, s.IsLone := by
  intro s hs
  cases hescape : t.label.isEscape with
  | true =>
    rw [entryLeaves_of_isEscape hescape, List.mem_singleton] at hs
    exact hs ▸ Sketch.isLone_leaf (by decide) _ _
  | false =>
    rw [entryLeaves_of_not_isEscape hescape] at hs
    exact Part.isLone_contentLeaves s hs

/-- A dollar sign of a row is in an interpolation if it opens one, and else in literal text. -/
theorem exists_entry_entryLeaves (hordered : t.IsOrdered) (haligned : t.IsAligned src)
    (hplain : t.HoldsPlain offset) (hdollar : src.charAt? offset = some '$') :
    ∃ s ∈ entryLeaves src t, s.label.IsEntryAround src (src.rowSpan t.label) offset
      (src.Opens t.label.start.toNat t.escapes offset) := by
  rw [entryLeaves_of_not_isEscape hplain.content]
  exact exists_entry_contentLeaves (hasRuns hordered haligned) _ (map_row_escapeParts src t)
    hplain.start hplain.stop hplain.outside hdollar

/-- A row has an interpolation exactly if a dollar sign of it opens one. -/
theorem exists_template_entryLeaves_iff (hordered : t.IsOrdered) (haligned : t.IsAligned src) :
    (∃ s ∈ entryLeaves src t, s.label.kind = .templateEntry) ↔
      ∃ offset, t.HoldsPlain offset ∧ src.Opens t.label.start.toNat t.escapes offset := by
  constructor
  · rintro ⟨s, hs, hkind⟩
    cases hescape : t.label.isEscape with
    | true =>
      rw [entryLeaves_of_isEscape hescape, List.mem_singleton] at hs
      rw [hs] at hkind
      cases hkind
    | false =>
      rw [entryLeaves_of_not_isEscape hescape] at hs
      obtain ⟨offset, hstart, hstop, houtside, hopens⟩ := exists_opens_of_mem_contentLeaves
        (hasRuns hordered haligned) _ (map_row_escapeParts src t) hs hkind
      exact ⟨offset, ⟨hescape, hstart, hstop, houtside⟩, hopens⟩
  · rintro ⟨offset, hplain, hopens⟩
    obtain ⟨s, hs, haround⟩ :=
      exists_entry_entryLeaves hordered haligned hplain hopens.1.dollar
    exact ⟨s, hs, haround.template hopens⟩

/-! ### Strings -/

/-- Whether rows are a string of plain content and escapes, with a quote on either side. The ranges
of the entries are as a parser gives them: in order, and between characters. -/
structure IsStringRow (src : Source) (row : Row) (opening closing : Cst) (items : List Cst) :
    Prop where
  construct : ∃ kind ∈ KindNames.strings, row.IsConstruct kind
  opened : opening.label.IsQuote src
  closed : closing.label.IsQuote src
  entries : ∀ t ∈ items, t.label.IsEntry
  ordered : ∀ t ∈ items, t.IsOrdered
  aligned : ∀ t ∈ items, t.IsAligned src

/-- The entries of a string, quotes included. -/
def stringLeaves (src : Source) (opening closing : Cst) (items : List Cst) : List Sketch :=
  .leaf .openQuote (src.rowText opening.label) (src.rowSpan opening.label) ::
    (items.flatMap (entryLeaves src) ++
      [.leaf .closingQuote (src.rowText closing.label) (src.rowSpan closing.label)])

/-- A string lowers to one template over the entries of its rows. -/
theorem IsStringRow.sketches_eq (h : IsStringRow src row opening closing items) :
    sketches src (.node row (opening :: items ++ [closing])) =
      [.composite .stringTemplate (src.rowSpan row)
        (stringLeaves src opening closing items)] := by
  obtain ⟨kind, hkind, hrow⟩ := h.construct
  exact sketches_of_string hkind hrow h.opened h.closed h.entries

/-- What one row of a string lowers to is among the entries of the string. -/
theorem mem_stringLeaves_of_mem {s : Sketch} (ht : t ∈ items) (hs : s ∈ entryLeaves src t) :
    s ∈ stringLeaves src opening closing items :=
  List.mem_cons_of_mem _ (List.mem_append_left _ (List.mem_flatMap.2 ⟨t, ht, hs⟩))

/-- An interpolation of a string comes from a row between the quotes. -/
theorem exists_template_stringLeaves_iff :
    (∃ s ∈ stringLeaves src opening closing items, s.label.kind = .templateEntry) ↔
      ∃ t ∈ items, ∃ s ∈ entryLeaves src t, s.label.kind = .templateEntry := by
  constructor
  · rintro ⟨s, hs, hkind⟩
    simp only [stringLeaves, List.mem_cons, List.mem_append, List.mem_flatMap, List.not_mem_nil,
      or_false] at hs
    rcases hs with rfl | ⟨t, ht, hs⟩ | rfl
    · cases hkind
    · exact ⟨t, ht, s, hs, hkind⟩
    · cases hkind
  · rintro ⟨t, ht, s, hs, hkind⟩
    exact ⟨s, mem_stringLeaves_of_mem ht hs, hkind⟩

/-- The children of a string's node show its entries. -/
theorem shows_stringLeaves {n : Node} {span : Span}
    (hshow : n.Shows (.composite .stringTemplate span (stringLeaves src opening closing items))) :
    List.Forall₂ Node.Shows n.children (stringLeaves src opening closing items) := by
  apply hshow.children
  rw [Sketch.composite, RoseTree.children_node, Sketch.countP_isSuperTypeList_eq_zero]
  · exact Nat.zero_le 1
  · intro s hs
    simp only [stringLeaves, List.mem_cons, List.mem_append, List.mem_flatMap, List.not_mem_nil,
      or_false] at hs
    rcases hs with rfl | ⟨t, -, hs⟩ | rfl
    · rfl
    · exact (isLone_entryLeaves src t s hs).other
    · rfl

end Cst

/-! ### Nodes -/

/-- Nodes that show sketches have an interpolation among them exactly if these have. -/
theorem exists_template_iff_of_shows {ns : List Node} {ss : List Sketch}
    (h : List.Forall₂ Node.Shows ns ss) :
    (∃ c ∈ ns, c.kind = .templateEntry) ↔ ∃ s ∈ ss, s.label.kind = .templateEntry := by
  constructor
  · rintro ⟨c, hc, hkind⟩
    obtain ⟨s, hs, hshow⟩ := exists_mem_of_forall₂ h hc
    exact ⟨s, hs, by rw [← hshow.kind_eq, hkind]⟩
  · rintro ⟨s, hs, hkind⟩
    obtain ⟨c, hc, hshow⟩ := exists_mem_of_forall₂ h.flip hs
    exact ⟨c, hc, by rw [Node.Shows.kind_eq hshow, hkind]⟩

/-- A template with an interpolation has no value. -/
theorem stringLiteralValue_of_templateEntry {n c : Node} (hkind : n.kind = .stringTemplate)
    (hc : c ∈ n.children) (htemplate : c.kind = .templateEntry) :
    stringLiteralValue n = .error .literal := by
  refine stringLiteralValue_eq_literal_iff.2 ⟨hkind, fun value hvalue => ?_⟩
  obtain ⟨texts, hall, -⟩ := (stringLiteralValue_eq_ok_iff_isLiteralOf.1 hvalue).entries
  obtain ⟨text, -, hentry⟩ := exists_mem_of_forall₂ hall hc
  cases hentry with
  | quote hquote => rcases hquote with hquote | hquote <;> simp [hquote] at htemplate
  | literal hliteral => simp [hliteral] at htemplate
  | escape hescape _ => simp [hescape] at htemplate

/-- **Interpolations of a string.** A string of plain content and escapes, single-line or raw, is
lowered to one template. The template has an interpolation exactly if some dollar sign of the
content, outside the escapes, is followed by a character that can begin one and is not directly
behind a backslash of the same content; it has no value then. Every dollar sign of the content is
in an entry of its row: an interpolation if it opens one, and literal text otherwise. -/
theorem Cst.template_entries_of_isStringRow (h : IsStringRow src row opening closing items) :
    ∃ s, sketches src (.node row (opening :: items ++ [closing])) = [s] ∧
      ∀ n : Node, n.Shows s → n.kind = .stringTemplate ∧
        ((∃ c ∈ n.children, c.kind = .templateEntry) ↔ ∃ t ∈ items, ∃ offset,
          t.HoldsPlain offset ∧ src.Opens t.label.start.toNat t.escapes offset) ∧
        ((∃ t ∈ items, ∃ offset, t.HoldsPlain offset ∧
          src.Opens t.label.start.toNat t.escapes offset) →
            stringLiteralValue n = .error .literal) ∧
        ∀ t ∈ items, ∀ offset, t.HoldsPlain offset → src.charAt? offset = some '$' →
          ∃ c ∈ n.children, c.tree.label.toContent.IsEntryAround src (src.rowSpan t.label) offset
            (src.Opens t.label.start.toNat t.escapes offset) := by
  refine ⟨_, h.sketches_eq, fun n hshow => ?_⟩
  have hkind : n.kind = .stringTemplate := hshow.kind_eq
  have hchildren := shows_stringLeaves hshow
  have hiff : (∃ c ∈ n.children, c.kind = .templateEntry) ↔ ∃ t ∈ items, ∃ offset,
      t.HoldsPlain offset ∧ src.Opens t.label.start.toNat t.escapes offset := by
    rw [exists_template_iff_of_shows hchildren, exists_template_stringLeaves_iff]
    refine exists_congr fun t => and_congr_right fun ht => ?_
    exact exists_template_entryLeaves_iff (h.ordered t ht) (h.aligned t ht)
  refine ⟨hkind, hiff, fun hopens => ?_, fun t ht offset hplain hdollar => ?_⟩
  · obtain ⟨c, hc, htemplate⟩ := hiff.2 hopens
    exact stringLiteralValue_of_templateEntry hkind hc htemplate
  · obtain ⟨s, hs, haround⟩ :=
      exists_entry_entryLeaves (h.ordered t ht) (h.aligned t ht) hplain hdollar
    obtain ⟨c, hc, hcs⟩ := exists_mem_of_forall₂ hchildren.flip (mem_stringLeaves_of_mem ht hs)
    refine ⟨c, hc, ?_⟩
    rwa [Node.Shows.content_eq hcs]

/-! ### A backslash in a raw string -/

namespace RawSample

/-- A raw string in which a dollar sign stands behind a backslash and in front of a letter. -/
def source : Source := .ofString "\"\"\"\\$é\"\"\""

def stringRow : Row := ⟨"multiline_string_literal", true, false, false, 0, 10⟩

def quote (start stop : UInt32) : Cst := .node ⟨"\"\"\"", false, false, false, start, stop⟩ []

def content : Cst := .node ⟨"string_content", true, false, false, 3, 7⟩ []

/-- The raw string is a row of quotes and content. -/
theorem isStringRow :
    Cst.IsStringRow source stringRow (quote 0 3) (quote 7 10) [content] where
  construct := ⟨"multiline_string_literal", by decide, rfl, rfl, rfl, rfl⟩
  opened := ⟨rfl, rfl, rfl⟩
  closed := ⟨rfl, rfl, rfl⟩
  entries := by decide
  ordered := by decide
  aligned := by decide

/-- The dollar sign of the raw string lies in plain content. -/
theorem holdsPlain : content.HoldsPlain 4 :=
  ⟨by decide, by decide, by decide, List.forall_mem_nil _⟩

/-- The dollar sign of the raw string begins an interpolation. -/
theorem isOpening : source.IsOpening 4 := ⟨by decide, by decide⟩

/-- The dollar sign of the raw string stands behind a backslash. -/
theorem isShielded_raw : source.IsShielded 3 [] 4 := ⟨by decide, by decide, by decide⟩

end RawSample

open RawSample in
/-- The dollar sign is literal text. -/
theorem kind_entry_rawSample :
    Cst.IsStringRow source stringRow (quote 0 3) (quote 7 10) [content] ∧
      ∃ s, Cst.sketches source (.node stringRow [quote 0 3, content, quote 7 10]) = [s] ∧
        ∀ n : Node, n.Shows s → ∃ c ∈ n.children, c.kind = .literalStringEntry := by
  obtain ⟨s, hs, hnodes⟩ := Cst.template_entries_of_isStringRow isStringRow
  refine ⟨isStringRow, s, hs, fun n hshow => ?_⟩
  obtain ⟨-, -, -, hentries⟩ := hnodes n hshow
  obtain ⟨c, hc, hentry⟩ := hentries content List.mem_cons_self 4 holdsPlain isOpening.dollar
  exact ⟨c, hc, hentry.literal fun hopens => hopens.2 isShielded_raw⟩

open RawSample in
/-- So a dollar sign in front of a letter, outside the escapes, is not always part of an
interpolation. -/
theorem not_forall_template_entry_iff :
    ¬ ∀ src row opening closing items, Cst.IsStringRow src row opening closing items →
      ∀ s, Cst.sketches src (.node row (opening :: items ++ [closing])) = [s] →
        ∀ n : Node, n.Shows s → ((∃ c ∈ n.children, c.kind = .templateEntry) ↔
          ∃ t ∈ items, ∃ offset, t.HoldsPlain offset ∧ src.IsOpening offset) := by
  intro h
  let s : Sketch := .composite .stringTemplate (source.rowSpan stringRow)
    (Cst.stringLeaves source (quote 0 3) (quote 7 10) [content])
  have hshow : (Node.ofTree s.number).Shows s := Sketch.numbersTo_number s
  have hiff := h source stringRow _ _ _ isStringRow s isStringRow.sketches_eq _ hshow
  have htemplate := hiff.2 ⟨content, List.mem_cons_self, 4, holdsPlain, isOpening⟩
  rw [exists_template_iff_of_shows (Cst.shows_stringLeaves hshow)] at htemplate
  have hnone : ∀ u ∈ Cst.stringLeaves source (quote 0 3) (quote 7 10) [content],
      u.label.kind ≠ .templateEntry := by decide
  obtain ⟨u, hu, hkind⟩ := htemplate
  exact hnone u hu hkind

end KotestOutline
