import KotestOutline.Pattern
import KotestOutline.Proofs.Suite.Written
import KotestOutline.Proofs.Text.Slice

/-!
# Written texts as Kotlin reads them

Between the quotes of a literal a backslash starts an escape of two characters, and what stands
between the escapes is plain content. The writer and the lowering each have a rule of their own;
this module joins them.

* `stretches` cuts a text at its escapes, and `IsReadLiteral` says that a tree is a literal over the
  rows of its stretches, the escapes inside of one content row or between content rows.
* `decodes_stretches_escape`: the stretches of an escaped text stand for the text.
* `IsReadLiteral.isLiteral`: so a literal over an escaped text has the text as its value.
-/

namespace KotestOutline

/-! ### Stretches -/

/-- A part of a text between quotes. -/
inductive Stretch where
  | plain (text : List Char)
  | escape (letter : Char)
  deriving DecidableEq

namespace Stretch

/-- The characters of a stretch. -/
def text : Stretch → List Char
  | plain text => text
  | escape letter => ['\\', letter]

@[simp] theorem text_plain (cs : List Char) : (plain cs).text = cs := rfl

@[simp] theorem text_escape (letter : Char) : (escape letter).text = ['\\', letter] := rfl

/-- Puts a character in front of stretches, into the plain content that they begin with. -/
def consPlain (c : Char) : List Stretch → List Stretch
  | plain text :: rest => plain (c :: text) :: rest
  | rest => plain [c] :: rest

/-- A character that is put in front of stretches is in front of their text. -/
theorem flatMap_text_consPlain (c : Char) (ss : List Stretch) :
    (consPlain c ss).flatMap text = c :: ss.flatMap text := by
  match ss with
  | [] => rfl
  | plain front :: rest => rfl
  | escape letter :: rest => rfl

end Stretch

/-- The stretches of a text: an escape at each backslash, and as much plain content as fits between
two escapes. -/
def stretches : List Char → List Stretch
  | [] => []
  | '\\' :: letter :: cs => .escape letter :: stretches cs
  | c :: cs => Stretch.consPlain c (stretches cs)

/-- A character other than a backslash belongs to plain content. -/
theorem stretches_cons_of_ne {c : Char} (h : c ≠ '\\') (cs : List Char) :
    stretches (c :: cs) = Stretch.consPlain c (stretches cs) := by
  rw [stretches]
  rintro letter rest rfl -
  exact h rfl

/-- The stretches make up the text. -/
theorem flatMap_text_stretches (cs : List Char) : (stretches cs).flatMap Stretch.text = cs := by
  fun_induction stretches cs with
  | case1 => rfl
  | case2 letter cs ih => rw [List.flatMap_cons, ih]; rfl
  | case3 c cs _ ih => rw [Stretch.flatMap_text_consPlain, ih]

example : stretches "a\\\\b\\$".toList =
    [.plain ['a'], .escape '\\', .plain ['b'], .escape '$'] := by
  decide

/-! ### What stretches stand for -/

/-- Whether stretches stand for a text: escapes for their characters, and plain content without a
dollar sign for itself. -/
inductive Decodes : List Stretch → List Char → Prop
  | nil : Decodes [] []
  | plain {text value : List Char} {ss : List Stretch} (hdollar : '$' ∉ text)
      (hrest : Decodes ss value) : Decodes (.plain text :: ss) (text ++ value)
  | escape {letter c : Char} {value : List Char} {ss : List Stretch}
      (hescape : (letter, c) ∈ shortEscapes) (hrest : Decodes ss value) :
      Decodes (.escape letter :: ss) (c :: value)

/-- A character other than the dollar sign stands for itself in front of stretches. -/
theorem Decodes.consPlain {c : Char} {ss : List Stretch} {value : List Char} (h : Decodes ss value)
    (hc : c ≠ '$') : Decodes (Stretch.consPlain c ss) (c :: value) := by
  have hsingle : '$' ∉ [c] := by simpa using hc.symm
  cases h with
  | nil => exact .plain hsingle .nil
  | plain hdollar hrest => exact .plain (List.not_mem_cons_of_ne_of_not_mem hc.symm hdollar) hrest
  | escape hescape hrest => exact .plain hsingle (.escape hescape hrest)

/-- A character is written as an escape, or as itself if it could not be taken for anything else. -/
theorem escapeLiteralChar_cases (c : Char) :
    (∃ letter, escapeLiteralChar c = ['\\', letter] ∧ (letter, c) ∈ shortEscapes) ∨
      (escapeLiteralChar c = [c] ∧ c ≠ '\\' ∧ c ≠ '$') := by
  unfold escapeLiteralChar
  split_ifs with hbackslash hquote hdollar hnewline hreturn htab
  · exact Or.inl ⟨'\\', rfl, by rw [hbackslash]; decide⟩
  · exact Or.inl ⟨'\"', rfl, by rw [hquote]; decide⟩
  · exact Or.inl ⟨'$', rfl, by rw [hdollar]; decide⟩
  · exact Or.inl ⟨'n', rfl, by rw [hnewline]; decide⟩
  · exact Or.inl ⟨'r', rfl, by rw [hreturn]; decide⟩
  · exact Or.inl ⟨'t', rfl, by rw [htab]; decide⟩
  · exact Or.inr ⟨rfl, hbackslash, hdollar⟩

/-- An escaped text is read back, whatever it holds. By induction on the text: each of its
characters is written as one escape or joins the plain content behind it. -/
theorem decodes_stretches_escape (cs : List Char) :
    Decodes (stretches (cs.flatMap escapeLiteralChar)) cs := by
  induction cs with
  | nil => exact .nil
  | cons c cs ih =>
    rw [List.flatMap_cons]
    rcases escapeLiteralChar_cases c with ⟨letter, hwritten, hmem⟩ | ⟨hwritten, hbackslash, hdollar⟩
    · rw [hwritten]
      exact .escape hmem ih
    · rw [hwritten, List.singleton_append, stretches_cons_of_ne hbackslash]
      exact ih.consPlain hdollar

/-! ### Rows of stretches -/

/-- Whether a row is the quote at an offset. -/
structure Row.IsQuoteAt (row : Row) (start : Nat) : Prop where
  named : row.named = false
  missing : row.missing = false
  covers : row.Covers start ['\"']

/-- Whether a row is a text of plain content at an offset. -/
structure Row.IsContentAt (row : Row) (start : Nat) (text : List Char) : Prop where
  named : row.named = true
  missing : row.missing = false
  escape : row.isEscape = false
  content : row.isContent = true
  covers : row.Covers start text

/-- Whether a row is an escape at an offset. -/
structure Row.IsEscapeAt (row : Row) (start : Nat) (letter : Char) : Prop where
  named : row.named = true
  missing : row.missing = false
  escape : row.isEscape = true
  covers : row.Covers start ['\\', letter]

/-- The escape rows among some trees. -/
def Cst.escapeRows (ts : List Cst) : List Row :=
  (ts.map RoseTree.label).filter fun row => row.named && row.isEscape

/-- Whether stretches have a row each, side by side from an offset on. -/
inductive IsSpread : Nat → List Stretch → List Cst → Prop
  | nil {start : Nat} : IsSpread start [] []
  | plain {start : Nat} {text : List Char} {row : Row} {inside ts : List Cst} {ss : List Stretch}
      (hrow : row.IsContentAt start text) (hinside : Cst.escapeRows inside = [])
      (hrest : IsSpread (start + utf8Length text) ss ts) :
      IsSpread start (.plain text :: ss) (.node row inside :: ts)
  | escape {start : Nat} {letter : Char} {row : Row} {inside ts : List Cst} {ss : List Stretch}
      (hrow : row.IsEscapeAt start letter)
      (hrest : IsSpread (start + utf8Length ['\\', letter]) ss ts) :
      IsSpread start (.escape letter :: ss) (.node row inside :: ts)

/-- Whether rows are the escapes among stretches from an offset on. -/
inductive HoldsEscapes : Nat → List Stretch → List Row → Prop
  | nil {start : Nat} : HoldsEscapes start [] []
  | plain {start : Nat} {text : List Char} {rows : List Row} {ss : List Stretch}
      (hrest : HoldsEscapes (start + utf8Length text) ss rows) :
      HoldsEscapes start (.plain text :: ss) rows
  | escape {start : Nat} {letter : Char} {row : Row} {rows : List Row} {ss : List Stretch}
      (hrow : row.Covers start ['\\', letter])
      (hrest : HoldsEscapes (start + utf8Length ['\\', letter]) ss rows) :
      HoldsEscapes start (.escape letter :: ss) (row :: rows)

/-- Whether trees are what stands between the quotes around a text: the escapes stand between
content rows, or in one content row around them all. -/
inductive IsReading (start : Nat) (text : List Char) : List Cst → Prop
  | spread {ts : List Cst} (h : IsSpread start (stretches text) ts) : IsReading start text ts
  | nested {row : Row} {ts : List Cst} (hne : text ≠ []) (hrow : row.IsContentAt start text)
      (h : HoldsEscapes start (stretches text) (Cst.escapeRows ts)) :
      IsReading start text [.node row ts]

/-- Whether a tree is a literal at an offset, with a text between its quotes. -/
inductive IsReadLiteral (start : Nat) (text : List Char) : Cst → Prop
  | intro {kind : String} {row : Row} {opening closing : Cst} {entries : List Cst}
      (hkind : kind ∈ KindNames.strings) (hrow : row.IsConstruct kind)
      (hopening : opening.label.IsQuoteAt start) (hentries : IsReading (start + 1) text entries)
      (hclosing : closing.label.IsQuoteAt (start + 1 + utf8Length text)) :
      IsReadLiteral start text (.node row (opening :: entries ++ [closing]))

/-! ### Values -/

variable {src : Source} {start : Nat} {ss : List Stretch} {text value rest : List Char}

/-- Text without a dollar sign is plain. -/
theorem isPlain_of_not_mem {after : Option Char} {cs : List Char} (h : '$' ∉ cs) :
    IsPlain after cs := by
  induction cs with
  | nil => trivial
  | cons c cs ih =>
    refine ⟨?_, ih (List.not_mem_of_not_mem_cons h)⟩
    rintro rfl
    exact absurd List.mem_cons_self h

/-- Text of the source without a dollar sign is a run of plain content. -/
theorem isRun_of_hasAt (h : src.HasAt start text rest) (hdollar : '$' ∉ text) :
    IsRun src start (start + utf8Length text) text := by
  by_cases hempty : text = []
  · rw [hempty]
    exact Or.inl ⟨Nat.le_refl _, rfl⟩
  · have hpos : utf8Length text ≠ 0 := fun hzero => hempty (utf8Length_eq_zero_iff.1 hzero)
    exact Or.inr ⟨by omega, h.slice_eq, isPlain_of_not_mem hdollar⟩

/-- A row over a short escape stands for the character of the escape. -/
theorem Row.Covers.isEscapeOf {row : Row} {letter c : Char} (h : row.Covers start ['\\', letter])
    (hsrc : src.HasAt start ['\\', letter] rest) (hescape : (letter, c) ∈ shortEscapes) :
    IsEscapeOf (src.rowText row) c := by
  rw [h.rowText_eq hsrc]
  exact .short hescape

/-- Rows side by side are read one after the other. -/
theorem IsSpread.isEntries {ts : List Cst} (h : IsSpread start ss ts) (hvalue : Decodes ss value)
    (hsrc : src.HasAt start (ss.flatMap Stretch.text) rest) : IsEntries src ts value := by
  induction h generalizing value with
  | nil =>
    cases hvalue
    exact .nil
  | @plain start text row inside ts ss hrow hinside _ ih =>
    cases hvalue with
    | plain hdollar hvalue =>
      rw [List.flatMap_cons, Stretch.text_plain] at hsrc
      have hrun := isRun_of_hasAt hsrc.left hdollar
      rw [← hrow.covers.stop_eq, ← hrow.covers.start_eq] at hrun
      have hcontent :
          IsContent src row.stop.toNat row.start.toNat (Cst.escapeRows inside) text := by
        rw [hinside]
        exact .run hrun
      exact .content hrow.named hrow.missing hrow.escape hrow.content hcontent
        (ih hvalue hsrc.right)
  | @escape start letter row inside ts ss hrow _ ih =>
    cases hvalue with
    | escape hescape hvalue =>
      exact .escape hrow.named hrow.missing hrow.escape
        (hrow.covers.isEscapeOf hsrc.left hescape) (ih hvalue hsrc.right)

/-- Escapes in one content row are read with the plain content between them. `pending` is the plain
content since the last escape, which stands at offset `before`. -/
theorem HoldsEscapes.isContent {rows : List Row} (h : HoldsEscapes start ss rows)
    (hvalue : Decodes ss value) {before : Nat} (pending : List Char)
    (hstart : before + utf8Length pending = start) (hpending : '$' ∉ pending)
    (hsrc : src.HasAt before (pending ++ ss.flatMap Stretch.text) rest) :
    IsContent src (start + utf8Length (ss.flatMap Stretch.text)) before rows
      (pending ++ value) := by
  induction h generalizing value before pending with
  | nil =>
    cases hvalue
    rw [List.append_nil, ← hstart]
    exact .run (isRun_of_hasAt hsrc.left hpending)
  | @plain start text rows ss _ ih =>
    cases hvalue with
    | @plain _ value _ hdollar hvalue =>
      -- plain content is kept until the next escape, as the content row has no cut here
      have hboth : '$' ∉ pending ++ text := by simp [hpending, hdollar]
      have hlength : before + utf8Length (pending ++ text) = start + utf8Length text := by
        rw [utf8Length_append, ← hstart, Nat.add_assoc]
      rw [List.flatMap_cons, Stretch.text_plain, ← List.append_assoc] at hsrc
      have hcontent := ih hvalue (pending ++ text) hlength hboth hsrc
      rwa [List.append_assoc, Nat.add_assoc, ← utf8Length_append] at hcontent
  | @escape start letter row rows ss hrow _ ih =>
    cases hvalue with
    | @escape _ c value _ hescape hvalue =>
      have hescapeAt := hsrc.right
      rw [hstart, List.flatMap_cons, Stretch.text_escape] at hescapeAt
      -- the escape ends the run that was kept, and the next one begins empty
      have hrun := isRun_of_hasAt hsrc.left hpending
      rw [hstart, ← hrow.start_eq] at hrun
      have hbehind := hescapeAt.right
      rw [← List.nil_append (ss.flatMap Stretch.text)] at hbehind
      have hcontent := ih hvalue [] (Nat.add_zero _) List.not_mem_nil hbehind
      rw [List.flatMap_cons, Stretch.text_escape, utf8Length_append, ← Nat.add_assoc]
      refine .escape hrun (hrow.isEscapeOf hescapeAt.left hescape) ?_
      rw [hrow.stop_eq]
      exact hcontent

/-- What stands between the quotes around an escaped text is read as the text. -/
theorem IsReading.isEntries {ts : List Cst} (h : IsReading start text ts)
    (hvalue : Decodes (stretches text) value) (hsrc : src.HasAt start text rest) :
    IsEntries src ts value := by
  rw [← flatMap_text_stretches text] at hsrc
  cases h with
  | spread h => exact h.isEntries hvalue hsrc
  | @nested row ts hne hrow h =>
    have hcontent := h.isContent hvalue [] (Nat.add_zero start) List.not_mem_nil hsrc
    rw [flatMap_text_stretches, List.nil_append, ← hrow.covers.stop_eq] at hcontent
    rw [← hrow.covers.start_eq] at hcontent
    have hentries : IsEntries src [.node row ts] (value ++ []) :=
      .content hrow.named hrow.missing hrow.escape hrow.content hcontent .nil
    rwa [List.append_nil] at hentries

/-- A row over a quote is a quote. -/
theorem Row.IsQuoteAt.isQuote {row : Row} (h : row.IsQuoteAt start)
    (hsrc : src.HasAt start ['\"'] rest) : row.IsQuote src where
  text_eq := by rw [h.covers.rowText_eq hsrc]; rfl
  named := h.named
  missing := h.missing

/-- A literal over an escaped text has the text as its value. -/
theorem IsReadLiteral.isLiteral {name : String} {t : Cst}
    (h : IsReadLiteral start (escapeLiteral name).toList t)
    (hsrc : src.HasAt start ('\"' :: (escapeLiteral name).toList ++ ['\"']) rest) :
    IsLiteral src name t := by
  have hvalue : Decodes (stretches (escapeLiteral name).toList) name.toList := by
    rw [escapeLiteral, String.toList_ofList]
    exact decodes_stretches_escape name.toList
  cases h with
  | intro hkind hrow hopening hentries hclosing =>
    have hquote : src.HasAt start (['\"'] ++ ((escapeLiteral name).toList ++ ['\"'])) rest := hsrc
    have hbehind : src.HasAt (start + 1) ((escapeLiteral name).toList ++ ['\"']) rest :=
      hquote.right
    exact .intro hkind hrow (hopening.isQuote hquote.left) (hclosing.isQuote hbehind.right)
      (hentries.isEntries hvalue hbehind.left)

end KotestOutline
