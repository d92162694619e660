import KotestOutline.Proofs.Suite.Calls
import KotestOutline.Proofs.Suite.Rows

/-!
# Literals keep their value

A written string literal lowers to a string template from which its value is read back, whatever
mixture of plain content and escape sequences it is written in.

* `Sketch.ReadsAs` says that the entries of a template are read as a text, and
  `Sketch.ReadsAs.append` that they are read one after the other.
* `Cst.exists_sketch_of_isLiteral` is the result for whole literals.
-/

namespace KotestOutline

variable {src : Source}

/-! ### Plain text and escapes -/

/-- A character that begins no interpolation is literal text. -/
theorem pieces_cons_of_isPlain {after : Option Char} {c : Char} {cs : List Char} (escaped : Bool)
    (h : c = '$' → (cs.head?.or after).any startsTemplate = false) :
    pieces after 0 escaped (c :: cs) = consLiteral c (pieces after 0 (c == '\\') cs) := by
  rw [pieces]
  by_cases hdollar : c = '$'
  · rw [h hdollar, Bool.and_false, if_neg Bool.false_ne_true]
  · rw [beq_eq_false_iff_ne.2 hdollar, Bool.false_and, Bool.false_and, if_neg Bool.false_ne_true]

/-- Plain text is one piece, whether or not a backslash precedes it. -/
theorem pieces_of_isPlain {after : Option Char} {c : Char} {cs : List Char} (escaped : Bool)
    (h : IsPlain after (c :: cs)) : pieces after 0 escaped (c :: cs) = [.literal (c :: cs)] := by
  induction cs generalizing c escaped with
  | nil =>
    rw [pieces_cons_of_isPlain escaped h.1]
    rfl
  | cons d cs ih =>
    rw [pieces_cons_of_isPlain escaped h.1, ih _ h.2]
    rfl

/-- An escape sequence is decoded as the character that it stands for. -/
theorem unescape?_of_isEscapeOf {text : List Char} {c : Char} (h : IsEscapeOf text c) :
    unescape? text = some c := by
  cases h with
  | short h =>
    simp only [shortEscapes, List.mem_cons, List.not_mem_nil, or_false, Prod.mk.injEq] at h
    rcases h with ⟨rfl, rfl⟩ | ⟨rfl, rfl⟩ | ⟨rfl, rfl⟩ | ⟨rfl, rfl⟩ | ⟨rfl, rfl⟩ | ⟨rfl, rfl⟩ |
      ⟨rfl, rfl⟩ | ⟨rfl, rfl⟩ <;> rfl
  | @numeric a b c d unit hunit hvalid =>
    have hplus : a ≠ '+' := by
      rintro rfl
      have hnone : hexDigit? '+' = none := by decide
      simp [hexUnit?, hnone] at hunit
    simp [unescape?, numericEscape?, hplus, hunit, hvalid]

/-! ### Entries -/

namespace Sketch

/-- Whether a sketch is a leaf that holds a part of a string. -/
def IsEntryLeaf (s : Sketch) : Prop :=
  ∃ text span, s = .leaf .literalStringEntry text span ∨ s = .leaf .escapeStringEntry text span

/-- Whether sketches are parts of a string, read as a text in front of whatever follows. -/
structure ReadsAs (ss : List Sketch) (value : List Char) : Prop where
  leaves : ∀ s ∈ ss, s.IsEntryLeaf
  reads : ∀ ns rest v, List.Forall₂ Node.Shows ns ss → entriesValue rest = .ok v →
    entriesValue (ns ++ rest) = .ok (String.ofList value ++ v)

/-- No entries read as no text. -/
theorem readsAs_nil : ReadsAs [] [] where
  leaves := by simp
  reads := by
    intro ns rest v hshow hrest
    obtain rfl := List.forall₂_nil_right_iff.1 hshow
    simpa using hrest

/-- Entries in a row read as their texts in a row. -/
theorem ReadsAs.append {ss ss' : List Sketch} {front back : List Char} (hs : ReadsAs ss front)
    (hs' : ReadsAs ss' back) : ReadsAs (ss ++ ss') (front ++ back) where
  leaves := by
    intro s hmem
    rcases List.mem_append.1 hmem with hmem | hmem
    · exact hs.leaves s hmem
    · exact hs'.leaves s hmem
  reads := by
    intro ns rest v hshow hrest
    obtain ⟨ms, ms', hms, hms', rfl⟩ := exists_append_of_shows hshow
    rw [List.append_assoc, hs.reads ms (ms' ++ rest) _ hms (hs'.reads ms' rest v hms' hrest),
      String.ofList_append, String.append_assoc]

/-- Literal text reads as itself. -/
theorem readsAs_literal (text : List Char) (span : Span) :
    ReadsAs [.leaf .literalStringEntry text span] text where
  leaves := by
    intro s hs
    exact ⟨text, span, Or.inl (List.mem_singleton.1 hs)⟩
  reads := by
    intro ns rest v hshow hrest
    obtain ⟨n, rfl, hn⟩ := shows_singleton hshow
    have hkind : n.kind = .literalStringEntry := hn.kind_eq
    rw [List.singleton_append, entriesValue, hkind, hrest, hn.text_leaf]
    rfl

/-- An escape sequence reads as the character that it stands for. -/
theorem readsAs_escape {text : List Char} {c : Char} (h : IsEscapeOf text c) (span : Span) :
    ReadsAs [.leaf .escapeStringEntry text span] [c] where
  leaves := by
    intro s hs
    exact ⟨text, span, Or.inr (List.mem_singleton.1 hs)⟩
  reads := by
    intro ns rest v hshow hrest
    obtain ⟨n, rfl, hn⟩ := shows_singleton hshow
    have hkind : n.kind = .escapeStringEntry := hn.kind_eq
    rw [List.singleton_append, entriesValue, hkind, hrest, hn.text_leaf, String.toList_ofList,
      unescape?_of_isEscapeOf h]
    rfl

end Sketch

/-! ### Content rows -/

/-- The leaves of a run of plain content read as its text. -/
theorem readsAs_runLeaves {start stop : Nat} {text : List Char} (span : Span)
    (h : IsRun src start stop text) :
    Sketch.ReadsAs (Part.runLeaves src span start stop) text := by
  rcases h with ⟨hle, rfl⟩ | ⟨hlt, hslice, hplain⟩
  · rw [Part.runLeaves, if_neg (by omega)]
    exact Sketch.readsAs_nil
  · rw [Part.runLeaves, if_pos hlt, hslice]
    cases text with
    | nil => exact Sketch.readsAs_nil
    | cons c cs =>
      dsimp only
      rw [pieces_of_isPlain false hplain]
      exact Sketch.readsAs_literal (c :: cs) span

/-- By induction on the escape rows: runs and escapes are read in turn. -/
theorem readsAs_contentLeaves {start stop : Nat} {rows : List Row} {text : List Char} (span : Span)
    (h : IsContent src stop start rows text) (escapes : List Part)
    (hrows : escapes.map Part.row = rows) :
    Sketch.ReadsAs (Part.contentLeaves src span stop start escapes) text := by
  induction h generalizing escapes with
  | run hrun =>
    obtain rfl := List.map_eq_nil_iff.1 hrows
    exact readsAs_runLeaves span hrun
  | @escape start row rows text value c hrun hescape _ ih =>
    obtain ⟨p, ps, rfl, rfl, hps⟩ := List.map_eq_cons_iff.1 hrows
    rw [Part.contentLeaves]
    refine (readsAs_runLeaves span hrun).append ?_
    exact (Sketch.readsAs_escape hescape (src.rowSpan p.row)).append (ih ps hps)

/-- The rows between the quotes are content and escapes, read one after the other. -/
theorem readsAs_of_isEntries {rows : List Cst} {value : List Char} (h : IsEntries src rows value) :
    (∀ t ∈ rows, t.label.IsEntry) ∧
      Sketch.ReadsAs (rows.flatMap (Cst.entryLeaves src)) value := by
  induction h with
  | nil => exact ⟨by simp, Sketch.readsAs_nil⟩
  | @escape row ts rest c value hnamed hmissing hkind hescape _ ih =>
    have hleaves : Cst.entryLeaves src (.node row ts) =
        [.leaf .escapeStringEntry (src.rowText row) (src.rowSpan row)] := if_pos hkind
    refine ⟨List.forall_mem_cons.2 ⟨⟨hnamed, hmissing, Or.inl hkind⟩, ih.1⟩, ?_⟩
    rw [List.flatMap_cons, hleaves]
    exact (Sketch.readsAs_escape hescape (src.rowSpan row)).append ih.2
  | @content row ts rest text value hnamed hmissing hescape hkind hcontent _ ih =>
    have hleaves : Cst.entryLeaves src (.node row ts) =
        Part.contentLeaves src (src.rowSpan row) row.stop.toNat row.start.toNat
          (Cst.escapeParts src (.node row ts)) :=
      if_neg (by simp [hescape])
    refine ⟨List.forall_mem_cons.2 ⟨⟨hnamed, hmissing, Or.inr hkind⟩, ih.1⟩, ?_⟩
    rw [List.flatMap_cons, hleaves]
    exact (readsAs_contentLeaves (src.rowSpan row) hcontent _
      (Cst.map_row_escapeParts src (.node row ts))).append ih.2

/-! ### Literals -/

namespace Sketch

/-- There is no call in an entry of a string. -/
theorem IsEntryLeaf.everywhere {s : Sketch} (h : s.IsEntryLeaf) : s.Everywhere IsCallFree := by
  obtain ⟨text, span, rfl | rfl⟩ := h
  · exact lowers_isCallFree.everywhere_leaf _ _ rfl
  · exact lowers_isCallFree.everywhere_leaf _ _ rfl

/-- An entry of a string is no supertype list. -/
theorem IsEntryLeaf.isSuperTypeList {s : Sketch} (h : s.IsEntryLeaf) :
    s.isSuperTypeList = false := by
  obtain ⟨text, span, rfl | rfl⟩ := h
  · rfl
  · rfl

/-- A template of quotes and entries has no call in it. -/
theorem everywhere_template {ss : List Sketch} (h : ∀ s ∈ ss, s.IsEntryLeaf)
    (span openSpan closeSpan : Span) (opening closing : List Char) :
    Everywhere IsCallFree (.composite .stringTemplate span
      (.leaf .openQuote opening openSpan :: (ss ++ [.leaf .closingQuote closing closeSpan]))) := by
  apply lowers_isCallFree.everywhere_plain span rfl
  intro s hs
  simp only [List.mem_cons, List.mem_append, List.not_mem_nil, or_false] at hs
  rcases hs with rfl | hs | rfl
  · exact lowers_isCallFree.everywhere_leaf _ _ rfl
  · exact (h s hs).everywhere
  · exact lowers_isCallFree.everywhere_leaf _ _ rfl

/-- A template of quotes and entries is read as the value of the entries. -/
theorem isStringOf_of_readsAs {ss : List Sketch} {value : String} (h : ReadsAs ss value.toList)
    (span openSpan closeSpan : Span) (opening closing : List Char) :
    IsStringOf value (.composite .stringTemplate span
      (.leaf .openQuote opening openSpan :: (ss ++ [.leaf .closingQuote closing closeSpan]))) where
  kind_eq := rfl
  callFree := everywhere_template h.leaves span openSpan closeSpan opening closing
  holds := by
    intro n hshow
    have hone : ss.countP isSuperTypeList = 0 :=
      countP_isSuperTypeList_eq_zero fun s hs => (h.leaves s hs).isSuperTypeList
    have hchildren := hshow.children (by
      rw [composite, RoseTree.children_node, List.countP_cons, List.countP_append, hone]
      simp [leaf, isSuperTypeList])
    obtain ⟨a, rest, ha, hrest, hn⟩ := List.forall₂_cons_right_iff.1 hchildren
    obtain ⟨ms, ms', hms, hms', rfl⟩ := exists_append_of_shows hrest
    obtain ⟨b, rfl, hb⟩ := shows_singleton hms'
    have hopen : a.kind = .openQuote := ha.kind_eq
    have hclose : b.kind = .closingQuote := hb.kind_eq
    have hfree : n.hasMissingChild = false := hasMissingChild_of_shows
      (everywhere_template h.leaves span openSpan closeSpan opening closing) hshow
    have hvalue : entriesValue (ms ++ [b]) = .ok value := by
      have hb : entriesValue [b] = .ok "" := by rw [entriesValue, hclose]; rfl
      rw [h.reads ms [b] "" hms hb, String.ofList_toList, String.append_empty]
    refine stringLiteralValue_eq_ok_iff.2 ⟨hshow.kind_eq, ?_, ?_⟩
    · rw [isTerminated, hfree, Node.firstChild?, Node.firstChild?, hn]
      simp [Node.is, hopen, hclose]
    · rw [hn, entriesValue, hopen]
      exact hvalue

end Sketch

/-- A written literal lowers to one string with its value. -/
theorem Cst.exists_sketch_of_isLiteral {value : String} {t : Cst} (h : IsLiteral src value t) :
    ∃ s, sketches src t = [s] ∧ s.IsStringOf value := by
  cases h with
  | @intro kind row opening closing entries hkind hrow hopening hclosing hentries =>
    obtain ⟨hitems, hreads⟩ := readsAs_of_isEntries hentries
    exact ⟨_, sketches_of_string hkind hrow hopening hclosing hitems,
      Sketch.isStringOf_of_readsAs hreads (src.rowSpan row) (src.rowSpan opening.label)
        (src.rowSpan closing.label) (src.rowText opening.label) (src.rowText closing.label)⟩

end KotestOutline
