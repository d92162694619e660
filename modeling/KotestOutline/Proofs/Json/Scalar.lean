import KotestOutline.Json
import Mathlib.Data.List.DropRight
import Mathlib.Tactic.IntervalCases

/-!
# Strings and integers in JSON texts

What the reader makes of a string and of an integer as the printer writes them.

* `Json.escapeChar_cases` are the ways in which a character is written, and
  `Json.readString_quotedTail` reads a whole string back, whatever follows it.
* `Json.Stops` says that a text does not go on a number; in front of such a text
  `Json.readNumber_toString` reads an integer back.
-/

namespace KotestOutline

/-- A hexadecimal digit that was written reads as its value. -/
theorem hexDigit?_digitChar {n : Nat} (h : n < 16) : hexDigit? (Nat.digitChar n) = some n := by
  interval_cases n <;> rfl

namespace Json

variable {blank rest : List Char}

/-! ### Spaces -/

/-- Blanks are skipped up to what follows them. -/
theorem skipSpaces_append (h : ∀ c ∈ blank, isSpace c = true) (cs : List Char) :
    skipSpaces (blank ++ cs) = skipSpaces cs :=
  List.dropWhile_append_of_pos h

/-- Nothing is skipped in front of a character that is no blank. -/
theorem skipSpaces_cons {c : Char} (h : isSpace c = false) (cs : List Char) :
    skipSpaces (c :: cs) = c :: cs := by
  rw [skipSpaces, List.dropWhile_cons, h, if_neg Bool.false_ne_true]

/-- There are no blanks left to skip after blanks were skipped. -/
theorem skipSpaces_skipSpaces (cs : List Char) : skipSpaces (skipSpaces cs) = skipSpaces cs :=
  List.dropWhile_idempotent isSpace cs

/-! ### Strings -/

/-- The three ways in which a character is written. -/
theorem escapeChar_cases (c : Char) :
    (∃ e, escaped? e = some c ∧ escapeChar c = ['\\', e]) ∨
    (c.toNat < 0x20 ∧ escapeChar c =
      ['\\', 'u', '0', '0', Nat.digitChar (c.toNat / 16), Nat.digitChar (c.toNat % 16)]) ∨
    (c ≠ '\"' ∧ c ≠ '\\' ∧ ¬ c.toNat < 0x20 ∧ escapeChar c = [c]) := by
  unfold escapeChar
  by_cases hquote : c = '\"'
  · exact .inl ⟨'\"', by rw [hquote]; rfl, if_pos hquote⟩
  rw [if_neg hquote]
  by_cases hback : c = '\\'
  · exact .inl ⟨'\\', by rw [hback]; rfl, if_pos hback⟩
  rw [if_neg hback]
  by_cases hbell : c = '\x08'
  · exact .inl ⟨'b', by rw [hbell]; rfl, if_pos hbell⟩
  rw [if_neg hbell]
  by_cases hfeed : c = '\x0c'
  · exact .inl ⟨'f', by rw [hfeed]; rfl, if_pos hfeed⟩
  rw [if_neg hfeed]
  by_cases hline : c = '\n'
  · exact .inl ⟨'n', by rw [hline]; rfl, if_pos hline⟩
  rw [if_neg hline]
  by_cases hreturn : c = '\r'
  · exact .inl ⟨'r', by rw [hreturn]; rfl, if_pos hreturn⟩
  rw [if_neg hreturn]
  by_cases htab : c = '\t'
  · exact .inl ⟨'t', by rw [htab]; rfl, if_pos htab⟩
  rw [if_neg htab]
  by_cases hcontrol : c.toNat < 0x20
  · exact .inr (.inl ⟨hcontrol, if_pos hcontrol⟩)
  · exact .inr (.inr ⟨hquote, hback, hcontrol, if_neg hcontrol⟩)

/-- Whether a part of a string stands for a character as the printer writes it. -/
def StringPart.Writes (part : StringPart) (c : Char) : Prop :=
  part = .char c ∨ (part = .unit c.toNat ∧ c.toNat < 0x20)

/-- A part that writes one character puts it in front of the text of the other parts. -/
theorem joinParts_cons {part : StringPart} {c : Char} (h : part.Writes c)
    (parts : List StringPart) : joinParts (part :: parts) = (joinParts parts).map (c :: ·) := by
  rcases h with rfl | ⟨rfl, hc⟩
  · rfl
  · -- a control character is no half of a surrogate pair, whatever part comes next
    have hhigh : ¬ 0xD800 ≤ c.toNat := by omega
    have hlow : ¬ 0xDC00 ≤ c.toNat := by omega
    rcases parts with _ | ⟨_ | _, parts⟩ <;> simp [joinParts, hhigh, hlow, Char.ofNat_toNat]

/-! The three ways in which a character is read. -/

/-- A short escape reads as the character it stands for. -/
theorem readParts_letter {e c : Char} (h : escaped? e = some c) (cs : List Char) :
    readParts ('\\' :: e :: cs) =
      (readParts cs).bind fun read => some (.char c :: read.1, read.2) := by
  unfold escaped? at h
  split at h <;> cases h <;> rfl

/-- An escape of four digits reads as a code unit. -/
theorem readParts_unit {a b c d : Char} {n : Nat} (h : hexUnit? a b c d = some n)
    (cs : List Char) :
    readParts ('\\' :: 'u' :: a :: b :: c :: d :: cs) =
      (readParts cs).bind fun read => some (.unit n :: read.1, read.2) := by
  show (hexUnit? a b c d).bind _ = _
  rw [h]
  rfl

/-- A character that is neither a quote nor a backslash nor a control character reads as itself. -/
theorem readParts_plain {c : Char} (hquote : c ≠ '\"') (hback : c ≠ '\\') (hc : ¬ c.toNat < 0x20)
    (cs : List Char) :
    readParts (c :: cs) =
      (readParts cs).bind fun read => some (.char c :: read.1, read.2) := by
  rw [readParts.eq_def]
  split
  next heq => cases heq
  next heq => exact absurd (List.cons.inj heq).1 hquote
  next heq => exact absurd (List.cons.inj heq).1 hback
  next heq => exact absurd (List.cons.inj heq).1 hback
  next heq =>
    obtain ⟨rfl, rfl⟩ := List.cons.inj heq
    rw [if_neg (by simp [hc, hback])]
    rfl

/-- A written character is read as one part. -/
theorem exists_part_of_escapeChar (c : Char) :
    ∃ part : StringPart, part.Writes c ∧ ∀ cs, readParts (escapeChar c ++ cs) =
      (readParts cs).bind fun read => some (part :: read.1, read.2) := by
  rcases escapeChar_cases c with ⟨e, he, hwritten⟩ | ⟨hc, hwritten⟩ | ⟨hquote, hback, hc, hwritten⟩
  · refine ⟨.char c, .inl rfl, fun cs => ?_⟩
    rw [hwritten]
    exact readParts_letter he cs
  · have hhex : hexUnit? '0' '0' (Nat.digitChar (c.toNat / 16)) (Nat.digitChar (c.toNat % 16)) =
        some c.toNat := by
      have hzero : hexDigit? '0' = some 0 := rfl
      have hvalue : c.toNat / 16 * 16 + c.toNat % 16 = c.toNat := by omega
      simp [hexUnit?, hzero, hexDigit?_digitChar (show c.toNat / 16 < 16 by omega),
        hexDigit?_digitChar (show c.toNat % 16 < 16 by omega), hvalue]
    refine ⟨.unit c.toNat, .inr ⟨rfl, hc⟩, fun cs => ?_⟩
    rw [hwritten]
    exact readParts_unit hhex cs
  · refine ⟨.char c, .inl rfl, fun cs => ?_⟩
    rw [hwritten]
    exact readParts_plain hquote hback hc cs

/-- An escaped text up to its closing quote. -/
theorem exists_parts_of_escaped (cs rest : List Char) :
    ∃ parts, readParts (cs.flatMap escapeChar ++ '\"' :: rest) = some (parts, rest) ∧
      joinParts parts = some cs := by
  induction cs with
  | nil => exact ⟨[], rfl, rfl⟩
  | cons c cs ih =>
    obtain ⟨parts, hread, hjoin⟩ := ih
    obtain ⟨part, hpart, hone⟩ := exists_part_of_escapeChar c
    refine ⟨part :: parts, ?_, by rw [joinParts_cons hpart, hjoin, Option.map_some]⟩
    rw [List.flatMap_cons, List.append_assoc, hone, hread, Option.bind_some]

/-- What stands behind the opening quote of a string. -/
def quotedTail : Option String → List Char
  | some s => s.toList.flatMap escapeChar ++ ['\"']
  | none => ['\\', 'u', 'd', '8', '0', '0', '\"']

/-- A string is written as a quote and then its rest, with the closing quote. -/
theorem toList_quoted (s : Option String) : (quoted s).toList = '\"' :: quotedTail s := by
  cases s with
  | none => decide
  | some s => exact String.toList_ofList

/-- The rest of a string that was written reads as that string, whatever follows it. -/
theorem readString_quotedTail (s : Option String) (rest : List Char) :
    readString (quotedTail s ++ rest) = some (s, rest) := by
  cases s with
  | none => rfl
  | some s =>
    obtain ⟨parts, hread, hjoin⟩ := exists_parts_of_escaped s.toList rest
    rw [quotedTail, List.append_assoc, List.singleton_append, readString, hread]
    simp [hjoin, String.ofList_toList]

/-! ### Numbers -/

/-- Whether a text does not go on a number that ends in front of it. -/
def Stops (rest : List Char) : Prop :=
  ∀ c ∈ rest.head?, c.isDigit = false ∧ c ≠ '.' ∧ c ≠ 'e' ∧ c ≠ 'E'

/-- A number may end where the text ends. -/
theorem stops_nil : Stops [] := by
  intro c hc
  cases hc

/-- A number may end in front of a blank, a comma or a closing bracket or brace. -/
theorem stops_cons {c : Char} (h : isSpace c = true ∨ c ∈ [',', ']', '\x7d']) (cs : List Char) :
    Stops (c :: cs) := by
  intro d hd
  obtain rfl : c = d := Option.some.inj hd
  simp only [isSpace, Bool.or_eq_true, beq_iff_eq, List.mem_cons, List.not_mem_nil, or_false] at h
  rcases h with (((rfl | rfl) | rfl) | rfl) | rfl | rfl | rfl <;> decide

/-- A number may end in front of blanks and a comma or a closing bracket or brace. -/
theorem stops_append {c : Char} (hblank : ∀ c ∈ blank, isSpace c = true)
    (hc : c ∈ [',', ']', '\x7d']) (cs : List Char) : Stops (blank ++ c :: cs) := by
  cases blank with
  | nil => exact stops_cons (.inr hc) cs
  | cons b blank => exact stops_cons (.inl (hblank b List.mem_cons_self)) _

/-- Digits are read up to where a number may end. -/
theorem readDigits_append {ds : List Char} (hds : ∀ d ∈ ds, d.isDigit = true) (hne : ds ≠ [])
    (h : Stops rest) : readDigits (ds ++ rest) = some (ds, rest) := by
  have htake : rest.takeWhile Char.isDigit = [] := by
    cases rest with
    | nil => rfl
    | cons c rest => exact List.takeWhile_cons_of_neg (Bool.eq_false_iff.1 (h c rfl).1)
  have hdrop : rest.dropWhile Char.isDigit = rest := by
    cases rest with
    | nil => rfl
    | cons c rest => exact List.dropWhile_cons_of_neg (Bool.eq_false_iff.1 (h c rfl).1)
  rw [readDigits, List.takeWhile_append_of_pos hds, List.dropWhile_append_of_pos hds, htake, hdrop,
    List.append_nil, if_neg]
  rwa [List.isEmpty_iff]

/-- A number that may end here has no fraction. -/
theorem readFraction_of_stops (h : Stops rest) : readFraction rest = some ([], rest) := by
  unfold readFraction
  split
  next tail => exact absurd rfl (h '.' rfl).2.1
  next => rfl

/-- A number that may end here has no exponent. -/
theorem readExponent_of_stops (h : Stops rest) : readExponent rest = some ([], rest) := by
  unfold readExponent
  split
  next e tail =>
    obtain ⟨-, -, he, hE⟩ := h e rfl
    rw [if_neg (by simp [he, hE])]
  next => rfl

/-- The digits of a number have its value. -/
theorem digitsValue_toDigits (n : Nat) : digitsValue (Nat.toDigits 10 n) = n := by
  have hfold : digitsValue (Nat.toDigits 10 n) = Nat.ofDigitChars 10 (Nat.toDigits 10 n) 0 := by
    rw [Nat.ofDigitChars_eq_foldl, digitsValue]
    simp only [Nat.mul_comm]
  rw [hfold, Nat.ofDigitChars_ten_toDigits]

/-- Only the number zero is written with a zero in front. -/
theorem head?_toDigits_ne {n : Nat} (h : 0 < n) : (Nat.toDigits 10 n).head? ≠ some '0' := by
  induction n using Nat.strong_induction_on with
  | _ n ih =>
    rw [Nat.toDigits_eq_if (by decide)]
    split_ifs with hlt
    · intro hzero
      exact absurd (Nat.digitChar_eq_zero.1 (Option.some.inj hzero)) (by omega)
    · rw [List.head?_append_of_ne_nil _ Nat.toDigits_ne_nil]
      exact ih (n / 10) (by omega) (by omega)

/-- The digits of a number, read behind a sign. -/
theorem readNumber_digits (n : Nat) (negative : Bool) (hsign : negative = true → 0 < n)
    (h : Stops rest) :
    readNumber ((if negative then ['-'] else []) ++ (Nat.toDigits 10 n ++ rest)) =
      some (.integer (if negative then -(n : Int) else n), rest) := by
  have hdigits : ∀ d ∈ Nat.toDigits 10 n, d.isDigit = true := fun d hd =>
    Nat.isDigit_of_mem_toDigits (by decide) (by decide) hd
  have hread := readDigits_append hdigits Nat.toDigits_ne_nil h
  have hminus : (Nat.toDigits 10 n).head? ≠ some '-' := fun hhead =>
    absurd (hdigits '-' (List.mem_of_head? hhead)) (by decide)
  have hfront : 1 < (Nat.toDigits 10 n).length → (Nat.toDigits 10 n).head? ≠ some '0' := by
    intro hlong
    apply head?_toDigits_ne
    by_contra hzero
    obtain rfl : n = 0 := by omega
    exact absurd hlong (by decide)
  cases negative with
  | false =>
    rw [if_neg Bool.false_ne_true, List.nil_append, readNumber]
    simpa [hminus, hread, readFraction_of_stops h, readExponent_of_stops h,
      digitsValue_toDigits] using hfront
  | true =>
    rw [if_pos rfl, List.singleton_append, readNumber]
    simpa [hread, readFraction_of_stops h, readExponent_of_stops h, digitsValue_toDigits,
      Nat.ne_of_gt (hsign rfl)] using hfront

/-- A number that is not negative is written as its digits. -/
theorem toList_toString_ofNat (n : Nat) : (toString (Int.ofNat n)).toList = Nat.toDigits 10 n := by
  rw [show toString (Int.ofNat n) = toString n from rfl, Nat.toString_eq_ofList_toDigits,
    String.toList_ofList]

/-- A negative number is written as a minus sign and the digits of what it lacks to zero. -/
theorem toList_toString_negSucc (n : Nat) :
    (toString (Int.negSucc n)).toList = '-' :: Nat.toDigits 10 (n + 1) := by
  rw [show toString (Int.negSucc n) = "-" ++ toString (n + 1) from rfl,
    Nat.toString_eq_ofList_toDigits]
  simp

/-- An integer that was written reads as that integer up to where a number may end. -/
theorem readNumber_toString (n : Int) (h : Stops rest) :
    readNumber ((toString n).toList ++ rest) = some (.integer n, rest) := by
  cases n with
  | ofNat n =>
    rw [toList_toString_ofNat]
    exact readNumber_digits n false (fun h => absurd h Bool.false_ne_true) h
  | negSucc n =>
    rw [toList_toString_negSucc]
    exact readNumber_digits (n + 1) true (fun _ => Nat.succ_pos n) h

/-- An integer begins with a digit or a minus sign. -/
theorem exists_head_toString (n : Int) :
    ∃ c cs, (toString n).toList = c :: cs ∧ (c.isDigit = true ∨ c = '-') := by
  cases n with
  | ofNat n =>
    obtain ⟨c, cs, htext⟩ := List.exists_cons_of_ne_nil (Nat.toDigits_ne_nil (n := n) (b := 10))
    have hmem : c ∈ Nat.toDigits 10 n := by
      rw [htext]
      exact List.mem_cons_self
    exact ⟨c, cs, (toList_toString_ofNat n).trans htext,
      .inl (Nat.isDigit_of_mem_toDigits (by decide) (by decide) hmem)⟩
  | negSucc n => exact ⟨'-', _, toList_toString_negSucc n, .inr rfl⟩

end Json

end KotestOutline
