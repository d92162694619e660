import KotestOutline.Proofs.Json.Scalar
import Mathlib.Data.List.Forall2

/-!
# Texts that read as a value

Which texts the reader accepts for which value, told piece by piece, so that any way of writing
spaces between the pieces is covered.

* `Json.Reads` says that a text reads as a value in front of whatever may follow one, and
  `Json.ReadsItems` and `Json.ReadsMembers` say so of what stands between brackets and braces.
* `Json.Reads.array` and `Json.Reads.object` put the texts of values together.
* `Json.read?_of_reads`: a text that reads as a value is read as a whole.
-/

namespace KotestOutline.Json

variable {blank cs more rest : List Char} {v : Json} {vs : List Json}
  {fields : List (Option String × Json)}

/-! ### Reading -/

/-- Whether a text reads as a value, in front of whatever may follow one. The length of the text is
enough depth. -/
def Reads (v : Json) (cs : List Char) : Prop :=
  ∀ depth rest, cs.length ≤ depth → Stops rest → readValue depth (cs ++ rest) = some (v, rest)

/-- Whether a text reads as items in front of the closing bracket. -/
def ReadsItems (vs : List Json) (cs : List Char) : Prop :=
  ∀ depth rest, cs.length < depth → readItems depth (cs ++ ']' :: rest) = some (vs, rest)

/-- Whether a text reads as members in front of the closing brace. -/
def ReadsMembers (fields : List (Option String × Json)) (cs : List Char) : Prop :=
  ∀ depth rest, cs.length < depth → readMembers depth (cs ++ '\x7d' :: rest) = some (fields, rest)

/-- Blanks in front of a value do not matter. -/
theorem readValue_skipSpaces (depth : Nat) (cs : List Char) :
    readValue depth (skipSpaces cs) = readValue depth cs := by
  cases depth with
  | zero => rfl
  | succ depth => rw [readValue, readValue, skipSpaces_skipSpaces]

/-- Blanks in front of the items of an array do not matter. -/
theorem readItems_skipSpaces (depth : Nat) (cs : List Char) :
    readItems depth (skipSpaces cs) = readItems depth cs := by
  cases depth with
  | zero => rfl
  | succ depth => rw [readItems, readItems, readValue_skipSpaces]

/-- Blanks in front of the members of an object do not matter. -/
theorem readMembers_skipSpaces (depth : Nat) (cs : List Char) :
    readMembers depth (skipSpaces cs) = readMembers depth cs := by
  cases depth with
  | zero => rfl
  | succ depth => rw [readMembers, readMembers, skipSpaces_skipSpaces]

/-- Spaces may stand in front of a value. -/
theorem Reads.spaces (h : Reads v cs) (hblank : ∀ c ∈ blank, isSpace c = true) :
    Reads v (blank ++ cs) := by
  intro depth rest hdepth hrest
  rw [List.length_append] at hdepth
  rw [List.append_assoc, ← readValue_skipSpaces, skipSpaces_append hblank, readValue_skipSpaces]
  exact h depth rest (by omega) hrest

/-! ### What a value begins with -/

/-- After a quote the reader expects the rest of a string. -/
theorem readValue_quote (depth : Nat) (cs : List Char) :
    readValue (depth + 1) ('\"' :: cs) =
      (readString cs).map fun read => (.string read.1, read.2) := rfl

/-- After an opening bracket the reader expects items or the closing bracket. -/
theorem readValue_bracket (depth : Nat) (cs : List Char) :
    readValue (depth + 1) ('[' :: cs) =
      match skipSpaces cs with
      | ']' :: rest => some (.array [], rest)
      | rest => (readItems depth rest).map fun read => (.array read.1, read.2) := rfl

/-- After an opening brace the reader expects members or the closing brace. -/
theorem readValue_brace (depth : Nat) (cs : List Char) :
    readValue (depth + 1) ('\x7b' :: cs) =
      match skipSpaces cs with
      | '\x7d' :: rest => some (.object [], rest)
      | rest => (readMembers depth rest).map fun read => (.object read.1, read.2) := rfl

/-- After a digit or a minus sign the reader expects the rest of a number. -/
theorem readValue_number (depth : Nat) {c : Char} (h : c.isDigit = true ∨ c = '-')
    (cs : List Char) : readValue (depth + 1) (c :: cs) = readNumber (c :: cs) := by
  have hne : ∀ d : Char, d.isDigit = false → d ≠ '-' → c ≠ d := by
    rintro d hdigit hminus rfl
    exact h.elim (fun h => Bool.false_ne_true (hdigit.symm.trans h)) hminus
  have hspace : isSpace c = false := by
    simp [isSpace, hne ' ' rfl (by decide), hne '\t' rfl (by decide), hne '\n' rfl (by decide),
      hne '\r' rfl (by decide)]
  rw [readValue, skipSpaces_cons hspace]
  split
  next heq => cases heq
  next heq => exact absurd (List.cons.inj heq).1 (hne _ rfl (by decide))
  next heq => exact absurd (List.cons.inj heq).1 (hne _ rfl (by decide))
  next heq => exact absurd (List.cons.inj heq).1 (hne _ rfl (by decide))
  next heq => exact absurd (List.cons.inj heq).1 (hne _ rfl (by decide))
  next heq => exact absurd (List.cons.inj heq).1 (hne _ rfl (by decide))
  next heq => exact absurd (List.cons.inj heq).1 (hne _ rfl (by decide))
  next => rfl

/-- No item begins with the closing bracket. -/
theorem readItems_close (depth : Nat) (cs : List Char) : readItems depth (']' :: cs) = none := by
  rcases depth with _ | _ | depth <;> rfl

/-- No member begins with the closing brace. -/
theorem readMembers_close (depth : Nat) (cs : List Char) :
    readMembers depth ('\x7d' :: cs) = none := by
  cases depth <;> rfl

/-! ### Simple values -/

/-- The word for no value reads as no value. -/
theorem Reads.null : Reads .null "null".toList := by
  intro depth rest hdepth _
  obtain ⟨depth, rfl⟩ : ∃ d, depth = d + 1 := ⟨depth - 1, by simp at hdepth; omega⟩
  rfl

/-- The words for the truth values read as the truth values. -/
theorem Reads.bool (b : Bool) : Reads (.bool b) (if b then "true" else "false").toList := by
  intro depth rest hdepth _
  obtain ⟨depth, rfl⟩ : ∃ d, depth = d + 1 := ⟨depth - 1, by cases b <;> simp at hdepth <;> omega⟩
  cases b <;> rfl

/-- A string that was written reads as that string. -/
theorem Reads.string (s : Option String) : Reads (.string s) (quoted s).toList := by
  rw [toList_quoted]
  intro depth rest hdepth _
  obtain ⟨depth, rfl⟩ : ∃ d, depth = d + 1 := ⟨depth - 1, by simp at hdepth; omega⟩
  rw [List.cons_append, readValue_quote, readString_quotedTail, Option.map_some]

/-- An integer that was written reads as that integer. -/
theorem Reads.integer (n : Int) : Reads (.integer n) (toString n).toList := by
  intro depth rest hdepth hrest
  obtain ⟨c, cs, htext, hc⟩ := exists_head_toString n
  have hnumber := readNumber_toString n hrest
  rw [htext] at hdepth hnumber ⊢
  obtain ⟨depth, rfl⟩ : ∃ d, depth = d + 1 := ⟨depth - 1, by simp at hdepth; omega⟩
  rw [List.cons_append, readValue_number depth hc]
  exact hnumber

/-! ### Items and members -/

/-- Spaces may stand in front of the first item. -/
theorem ReadsItems.spaces (h : ReadsItems vs cs) (hblank : ∀ c ∈ blank, isSpace c = true) :
    ReadsItems vs (blank ++ cs) := by
  intro depth rest hdepth
  rw [List.length_append] at hdepth
  rw [List.append_assoc, ← readItems_skipSpaces, skipSpaces_append hblank, readItems_skipSpaces]
  exact h depth rest (by omega)

/-- Spaces may stand in front of the first member. -/
theorem ReadsMembers.spaces (h : ReadsMembers fields cs) (hblank : ∀ c ∈ blank, isSpace c = true) :
    ReadsMembers fields (blank ++ cs) := by
  intro depth rest hdepth
  rw [List.length_append] at hdepth
  rw [List.append_assoc, ← readMembers_skipSpaces, skipSpaces_append hblank,
    readMembers_skipSpaces]
  exact h depth rest (by omega)

/-- A text of one value, with blanks behind it, reads as one item. -/
theorem ReadsItems.single (h : Reads v cs) (hblank : ∀ c ∈ blank, isSpace c = true) :
    ReadsItems [v] (cs ++ blank) := by
  intro depth rest hdepth
  obtain ⟨depth, rfl⟩ : ∃ d, depth = d + 1 := ⟨depth - 1, by omega⟩
  rw [List.length_append] at hdepth
  rw [readItems, List.append_assoc, h depth _ (by omega) (stops_append hblank (by simp) rest)]
  simp [skipSpaces_append hblank, skipSpaces_cons (show isSpace ']' = false from rfl)]

/-- A text of a value and a text of items, with a comma between them, read as one item more. -/
theorem ReadsItems.cons (h : Reads v cs) (hmore : ReadsItems vs more) :
    ReadsItems (v :: vs) (cs ++ ',' :: more) := by
  intro depth rest hdepth
  obtain ⟨depth, rfl⟩ : ∃ d, depth = d + 1 := ⟨depth - 1, by omega⟩
  rw [List.length_append, List.length_cons] at hdepth
  rw [readItems, List.append_assoc, List.cons_append,
    h depth _ (by omega) (stops_cons (.inr (by simp)) _)]
  simp [skipSpaces_cons (show isSpace ',' = false from rfl), hmore depth rest (by omega)]

/-- A member, up to what follows its value. -/
theorem readMembers_quoted (depth : Nat) (name : Option String) (cs : List Char) :
    readMembers (depth + 1) ((quoted name).toList ++ ':' :: cs) =
      (readValue depth cs).bind fun read =>
        match skipSpaces read.2 with
        | '\x7d' :: rest => some ([(name, read.1)], rest)
        | ',' :: rest =>
          (readMembers depth rest).bind fun more => some ((name, read.1) :: more.1, more.2)
        | _ => none := by
  rw [toList_quoted, List.cons_append]
  show (readString (quotedTail name ++ ':' :: cs)).bind _ = _
  rw [readString_quotedTail]
  rfl

/-- Whether a text is a name, a colon, and a text that reads as a value. -/
def ReadsMember (field : Option String × Json) (cs : List Char) : Prop :=
  ∃ value, cs = (quoted field.1).toList ++ ':' :: value ∧ Reads field.2 value

/-- A text of one member, with blanks behind it, reads as one member. -/
theorem ReadsMembers.single {field : Option String × Json} (h : ReadsMember field cs)
    (hblank : ∀ c ∈ blank, isSpace c = true) : ReadsMembers [field] (cs ++ blank) := by
  obtain ⟨value, rfl, hvalue⟩ := h
  intro depth rest hdepth
  obtain ⟨depth, rfl⟩ : ∃ d, depth = d + 1 := ⟨depth - 1, by omega⟩
  simp only [List.length_append, List.length_cons] at hdepth
  rw [List.append_assoc, List.append_assoc, List.cons_append, readMembers_quoted,
    hvalue depth _ (by omega) (stops_append hblank (by simp) rest)]
  simp [skipSpaces_append hblank, skipSpaces_cons (show isSpace '\x7d' = false from rfl)]

/-- A text of a member and a text of members, with a comma between them, read as one member more. -/
theorem ReadsMembers.cons {field : Option String × Json} (h : ReadsMember field cs)
    (hmore : ReadsMembers fields more) : ReadsMembers (field :: fields) (cs ++ ',' :: more) := by
  obtain ⟨value, rfl, hvalue⟩ := h
  intro depth rest hdepth
  obtain ⟨depth, rfl⟩ : ∃ d, depth = d + 1 := ⟨depth - 1, by omega⟩
  simp only [List.length_append, List.length_cons] at hdepth
  rw [List.append_assoc, List.append_assoc, List.cons_append, List.cons_append, readMembers_quoted,
    hvalue depth _ (by omega) (stops_cons (.inr (by simp)) _)]
  simp [skipSpaces_cons (show isSpace ',' = false from rfl), hmore depth rest (by omega)]

/-- Items between commas, with spaces behind every comma and behind the last item. -/
theorem ReadsItems.intercalate {texts : List (List Char)} {last : List Char}
    (hblank : ∀ c ∈ blank, isSpace c = true) (hlast : ∀ c ∈ last, isSpace c = true)
    (h : List.Forall₂ Reads vs texts) (hne : texts ≠ []) :
    ReadsItems vs (List.intercalate (',' :: blank) texts ++ last) := by
  induction h with
  | nil => exact absurd rfl hne
  | @cons v text vs texts hv hvs ih =>
    by_cases hmore : texts = []
    · subst hmore
      cases hvs
      rw [List.intercalate_singleton]
      exact .single hv hlast
    · rw [List.intercalate_cons_of_ne_nil hmore, List.append_assoc, List.append_assoc,
        List.cons_append]
      exact .cons hv ((ih hmore).spaces hblank)

/-- Members between commas, with spaces behind every comma and behind the last member. -/
theorem ReadsMembers.intercalate {texts : List (List Char)} {last : List Char}
    (hblank : ∀ c ∈ blank, isSpace c = true) (hlast : ∀ c ∈ last, isSpace c = true)
    (h : List.Forall₂ ReadsMember fields texts) (hne : texts ≠ []) :
    ReadsMembers fields (List.intercalate (',' :: blank) texts ++ last) := by
  induction h with
  | nil => exact absurd rfl hne
  | @cons field text fields texts hfield hfields ih =>
    by_cases hmore : texts = []
    · subst hmore
      cases hfields
      rw [List.intercalate_singleton]
      exact .single hfield hlast
    · rw [List.intercalate_cons_of_ne_nil hmore, List.append_assoc, List.append_assoc,
        List.cons_append]
      exact .cons hfield ((ih hmore).spaces hblank)

/-! ### Arrays and objects -/

/-- A text of items between brackets reads as the array of the items. -/
theorem Reads.array (h : ReadsItems vs cs) : Reads (.array vs) ('[' :: cs ++ [']']) := by
  intro depth rest hdepth _
  simp only [List.length_append, List.length_cons, List.length_nil] at hdepth
  obtain ⟨depth, rfl⟩ : ∃ d, depth = d + 1 := ⟨depth - 1, by omega⟩
  have hitems := h depth rest (by omega)
  rw [← readItems_skipSpaces] at hitems
  rw [List.append_assoc, List.cons_append, readValue_bracket, List.singleton_append]
  split
  next heq =>
    rw [heq, readItems_close] at hitems
    cases hitems
  next => rw [hitems, Option.map_some]

/-- A text of members between braces reads as the object of the members. -/
theorem Reads.object (h : ReadsMembers fields cs) :
    Reads (.object fields) ('\x7b' :: cs ++ ['\x7d']) := by
  intro depth rest hdepth _
  simp only [List.length_append, List.length_cons, List.length_nil] at hdepth
  obtain ⟨depth, rfl⟩ : ∃ d, depth = d + 1 := ⟨depth - 1, by omega⟩
  have hmembers := h depth rest (by omega)
  rw [← readMembers_skipSpaces] at hmembers
  rw [List.append_assoc, List.cons_append, readValue_brace, List.singleton_append]
  split
  next heq =>
    rw [heq, readMembers_close] at hmembers
    cases hmembers
  next => rw [hmembers, Option.map_some]

/-- Two brackets read as the empty array. -/
theorem Reads.emptyArray : Reads (.array []) ['[', ']'] := by
  intro depth rest hdepth _
  obtain ⟨depth, rfl⟩ : ∃ d, depth = d + 1 := ⟨depth - 1, by simp at hdepth; omega⟩
  rfl

/-- Two braces read as the empty object. -/
theorem Reads.emptyObject : Reads (.object []) ['\x7b', '\x7d'] := by
  intro depth rest hdepth _
  obtain ⟨depth, rfl⟩ : ∃ d, depth = d + 1 := ⟨depth - 1, by simp at hdepth; omega⟩
  rfl

/-! ### Whole texts -/

/-- A text that reads as a value in front of anything reads as that value on its own. -/
theorem read?_of_reads {text : String} (h : Reads v text.toList) : read? text = some v := by
  have hvalue := h (text.toList.length + 1) [] (Nat.le_succ _) stops_nil
  rw [List.append_nil] at hvalue
  rw [read?, hvalue]
  rfl

end KotestOutline.Json
