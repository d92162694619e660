import KotestOutline.Concrete
import Mathlib.Data.List.Basic

/-!
# Texts in a source

The text and the characters of a source at an offset.
-/

namespace KotestOutline

/-!
## Texts at offsets

Offsets count bytes, so the text behind a given beginning starts at the length of that beginning in
bytes, and a row over it has it as its text.

* `Source.HasAt` says that a source has a text at an offset, and what follows it.
* `Source.HasAt.left` and `Source.HasAt.right` cut the text in two.
* `Row.Covers.rowText_eq`: a row is read as the text it covers.
-/

/-! ### Lengths in bytes -/

/-- The number of bytes that a text takes up. -/
def utf8Length : List Char → Nat
  | [] => 0
  | c :: cs => c.utf8Size + utf8Length cs

@[simp] theorem utf8Length_nil : utf8Length [] = 0 := rfl

@[simp] theorem utf8Length_cons (c : Char) (cs : List Char) :
    utf8Length (c :: cs) = c.utf8Size + utf8Length cs := rfl

@[simp] theorem utf8Length_append (front back : List Char) :
    utf8Length (front ++ back) = utf8Length front + utf8Length back := by
  induction front with
  | nil => simp
  | cons c front ih => simp [ih, Nat.add_assoc]

/-- Only the empty text takes up no bytes. -/
theorem utf8Length_eq_zero_iff {cs : List Char} : utf8Length cs = 0 ↔ cs = [] := by
  cases cs with
  | nil => simp
  | cons c cs =>
    have hpos := c.utf8Size_pos
    simp only [utf8Length_cons, List.cons_ne_nil, iff_false]
    omega

/-- To drop more bytes than the first character has is to drop the character and the other bytes. -/
theorem dropBytes_cons (c : Char) (cs : List Char) (n : Nat) :
    dropBytes (c.utf8Size + n) (c :: cs) = dropBytes n cs := by
  obtain ⟨k, hk⟩ : ∃ k, c.utf8Size + n = k + 1 :=
    Nat.exists_eq_add_one.2 (Nat.add_pos_left c.utf8Size_pos n)
  rw [hk, dropBytes, if_pos (by omega)]
  congr 1
  omega

/-- To take more bytes than the first character has is to take the character and the other bytes. -/
theorem takeBytes_cons (c : Char) (cs : List Char) (n : Nat) :
    takeBytes (c.utf8Size + n) (c :: cs) = (takeBytes n cs).map (c :: ·) := by
  obtain ⟨k, hk⟩ : ∃ k, c.utf8Size + n = k + 1 :=
    Nat.exists_eq_add_one.2 (Nat.add_pos_left c.utf8Size_pos n)
  rw [hk, takeBytes, if_pos (by omega)]
  congr 2
  omega

/-- The bytes of a beginning are dropped with it. -/
theorem dropBytes_append (front back : List Char) :
    dropBytes (utf8Length front) (front ++ back) = some back := by
  induction front with
  | nil => simp [dropBytes]
  | cons c front ih => rw [utf8Length_cons, List.cons_append, dropBytes_cons, ih]

/-- The bytes of a beginning are taken up by it. -/
theorem takeBytes_append (front back : List Char) :
    takeBytes (utf8Length front) (front ++ back) = some front := by
  induction front with
  | nil => simp [takeBytes]
  | cons c front ih =>
    rw [utf8Length_cons, List.cons_append, takeBytes_cons, ih]
    rfl

/-! ### A text in a source -/

namespace Source

variable {src : Source} {start : Nat} {text front back rest : List Char}

/-- Whether a source has a text at an offset, with the rest behind it. -/
def HasAt (src : Source) (start : Nat) (text rest : List Char) : Prop :=
  ∃ before, src.chars = before ++ (text ++ rest) ∧ utf8Length before = start

namespace HasAt

/-- Of two texts in a row the first one stands at the offset. -/
theorem left (h : src.HasAt start (front ++ back) rest) : src.HasAt start front (back ++ rest) := by
  obtain ⟨before, hchars, hstart⟩ := h
  exact ⟨before, by rw [hchars, List.append_assoc], hstart⟩

/-- Of two texts in a row the second one stands behind the first. -/
theorem right (h : src.HasAt start (front ++ back) rest) :
    src.HasAt (start + utf8Length front) back rest := by
  obtain ⟨before, hchars, hstart⟩ := h
  refine ⟨before ++ front, ?_, by rw [utf8Length_append, hstart]⟩
  rw [hchars, List.append_assoc, List.append_assoc]

/-- A text at an offset is the slice from there to its end. -/
theorem slice_eq (h : src.HasAt start text rest) :
    src.slice start (start + utf8Length text) = some text := by
  obtain ⟨before, hchars, rfl⟩ := h
  rw [slice, if_pos (Nat.le_add_right _ _), hchars, dropBytes_append, Option.bind_some,
    Nat.add_sub_cancel_left, takeBytes_append]

end HasAt

end Source

/-- Whether a row is just as long as a text at an offset. -/
structure Row.Covers (row : Row) (start : Nat) (text : List Char) : Prop where
  start_eq : row.start.toNat = start
  stop_eq : row.stop.toNat = start + utf8Length text

/-- A row is read as the text it covers. -/
theorem Row.Covers.rowText_eq {row : Row} {src : Source} {start : Nat} {text rest : List Char}
    (h : row.Covers start text) (hsrc : src.HasAt start text rest) : src.rowText row = text := by
  rw [Source.rowText, h.start_eq, h.stop_eq, hsrc.slice_eq, Option.getD_some]

/-!
## Characters at offsets

An offset between two characters cuts the source in two, and two such offsets cut out the text
between them. So the characters of a text are those at the offsets that it covers.

* `Source.exists_hasAt`: the text between two boundaries.
* `Source.HasAt.append`: a text and the one behind it.
* `Source.HasAt.charAt?_eq` and `Source.HasAt.exists_split`: a character in a text, and a character
  at an offset.
-/

/-- As many bytes as a first part has are dropped just if the text begins with such a part. -/
theorem dropBytes_eq_some_iff {n : Nat} {cs back : List Char} :
    dropBytes n cs = some back ↔ ∃ front, cs = front ++ back ∧ utf8Length front = n := by
  constructor
  · intro h
    induction cs generalizing n with
    | nil =>
      cases n with
      | zero => exact ⟨[], Option.some.inj h, rfl⟩
      | succ n => cases h
    | cons c cs ih =>
      cases n with
      | zero => exact ⟨[], Option.some.inj h, rfl⟩
      | succ n =>
        rw [dropBytes] at h
        split_ifs at h with hsize
        obtain ⟨front, rfl, hlength⟩ := ih h
        exact ⟨c :: front, rfl, by rw [utf8Length_cons, hlength]; omega⟩
  · rintro ⟨front, rfl, rfl⟩
    exact dropBytes_append front back

/-- Of two beginnings of a text, the one with more bytes goes on from the other one. -/
theorem exists_between {front front' back back' : List Char}
    (h : front ++ back = front' ++ back') (hle : utf8Length front ≤ utf8Length front') :
    ∃ between, front' = front ++ between ∧ back = between ++ back' := by
  rcases List.append_eq_append_iff.1 h with ⟨between, hfront, hback⟩ | ⟨excess, rfl, rfl⟩
  · exact ⟨between, hfront, hback⟩
  · rw [utf8Length_append] at hle
    obtain rfl : excess = [] := utf8Length_eq_zero_iff.1 (by omega)
    exact ⟨[], by rw [List.append_nil, List.append_nil], rfl⟩

/-- Beginnings of a text with as many bytes are the same. -/
theorem eq_of_append_eq_append {front front' back back' : List Char}
    (h : front ++ back = front' ++ back') (hlength : utf8Length front = utf8Length front') :
    front = front' := by
  apply Option.some.inj
  rw [← takeBytes_append front back, h, hlength, takeBytes_append]

namespace Source

variable {src : Source} {start stop offset : Nat} {text front back rest : List Char} {c : Char}

/-- The character that begins at an offset. -/
def charAt? (src : Source) (offset : Nat) : Option Char := (src.sliceFrom offset).bind List.head?

/-- Whether an offset lies between two characters or at an end of the source. -/
def IsBoundary (src : Source) (offset : Nat) : Prop := (src.sliceFrom offset).isSome = true

instance (src : Source) (offset : Nat) : Decidable (src.IsBoundary offset) :=
  inferInstanceAs (Decidable ((src.sliceFrom offset).isSome = true))

/-- Two boundaries have a text between them. -/
theorem exists_hasAt (hstart : src.IsBoundary start) (hstop : src.IsBoundary stop)
    (hle : start ≤ stop) :
    ∃ text rest, src.HasAt start text rest ∧ stop = start + utf8Length text := by
  obtain ⟨back, hback⟩ := Option.isSome_iff_exists.1 hstart
  obtain ⟨rest, hrest⟩ := Option.isSome_iff_exists.1 hstop
  obtain ⟨before, hchars, rfl⟩ := dropBytes_eq_some_iff.1 hback
  obtain ⟨before', hchars', rfl⟩ := dropBytes_eq_some_iff.1 hrest
  obtain ⟨text, rfl, rfl⟩ := exists_between (hchars.symm.trans hchars') hle
  exact ⟨text, rest, ⟨before, hchars, rfl⟩, utf8Length_append before text⟩

namespace HasAt

/-- A text and the one that begins where it ends make up one text. -/
theorem append {rest' : List Char} (hfront : src.HasAt start front rest)
    (hback : src.HasAt (start + utf8Length front) back rest') :
    src.HasAt start (front ++ back) rest' := by
  obtain ⟨before, hchars, rfl⟩ := hfront
  obtain ⟨before', hchars', hlength⟩ := hback
  have hbefore : before' = before ++ front := by
    apply eq_of_append_eq_append (hchars'.symm.trans (hchars.trans (List.append_assoc _ _ _).symm))
    rw [hlength, utf8Length_append]
  rw [hbefore, List.append_assoc, ← List.append_assoc front] at hchars'
  exact ⟨before, hchars', rfl⟩

/-- What follows an offset is the text there and the rest behind it. -/
theorem sliceFrom_eq (h : src.HasAt start text rest) :
    src.sliceFrom start = some (text ++ rest) := by
  obtain ⟨before, hchars, rfl⟩ := h
  rw [sliceFrom, hchars, dropBytes_append]

/-- A text stands between two characters. -/
theorem isBoundary (h : src.HasAt start text rest) : src.IsBoundary start := by
  rw [IsBoundary, h.sliceFrom_eq, Option.isSome_some]

/-- What follows the end of a text at an offset is the rest behind it. -/
theorem sliceFrom_stop_eq (h : src.HasAt start text rest) :
    src.sliceFrom (start + utf8Length text) = some rest := by
  have hstop : src.HasAt start (text ++ []) rest := by rwa [List.append_nil]
  exact hstop.right.sliceFrom_eq

/-- A text ends between two characters. -/
theorem isBoundary_stop (h : src.HasAt start text rest) :
    src.IsBoundary (start + utf8Length text) := by
  rw [IsBoundary, h.sliceFrom_stop_eq, Option.isSome_some]

/-- A character of a text is the one at its offset. -/
theorem charAt?_eq (h : src.HasAt start (front ++ c :: back) rest) :
    src.charAt? (start + utf8Length front) = some c := by
  rw [charAt?, h.right.sliceFrom_eq, Option.bind_some, List.cons_append, List.head?_cons]

/-- The character behind a one-byte character of a text comes from the text or from behind it. -/
theorem charAt?_succ_eq (h : src.HasAt start (front ++ c :: back) rest) (hsize : c.utf8Size = 1) :
    src.charAt? (start + utf8Length front + 1) = back.head?.or rest.head? := by
  have hafter : src.HasAt start ((front ++ [c]) ++ back) rest := by simpa using h
  have hnext := hafter.right
  rw [utf8Length_append, utf8Length_cons, hsize, utf8Length_nil, Nat.add_zero,
    ← Nat.add_assoc] at hnext
  rw [charAt?, hnext.sliceFrom_eq, Option.bind_some, List.head?_append]

/-- A character at an offset that a text covers is a character of the text. -/
theorem exists_split (h : src.HasAt start text rest) (hstart : start ≤ offset)
    (hstop : offset < start + utf8Length text) (hc : src.charAt? offset = some c) :
    ∃ front back, text = front ++ c :: back ∧ offset = start + utf8Length front := by
  obtain ⟨before, hchars, rfl⟩ := h
  obtain ⟨tail, htail, hhead⟩ := Option.bind_eq_some_iff.1 hc
  obtain ⟨behind, rfl⟩ := List.head?_eq_some_iff.1 hhead
  obtain ⟨before', hchars', rfl⟩ := dropBytes_eq_some_iff.1 htail
  obtain ⟨front, rfl, htext⟩ := exists_between (hchars.symm.trans hchars') hstart
  rw [utf8Length_append] at hstop
  obtain ⟨behind', rfl, hbehind⟩ := exists_between htext.symm (by omega)
  cases behind' with
  | nil => simp at hstop
  | cons d back =>
    obtain ⟨rfl, -⟩ := List.cons.inj hbehind
    exact ⟨front, back, rfl, utf8Length_append before front⟩

end HasAt

end Source

end KotestOutline
