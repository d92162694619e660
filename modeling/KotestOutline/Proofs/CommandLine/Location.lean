import KotestOutline.CommandLine.Arguments
import KotestOutline.CommandLine.Run
import KotestOutline.Proofs.Text.Affix
import Mathlib.Algebra.Group.Nat.Defs

/-!
# Lines behind a path

A line is written behind the last colon of an argument, counted from 1, and kept as an index from 0.
On the way to a report it is shifted, narrowed to 32 bits and shifted back.

* `IsNumeral` is the grammar of a line, and `lineNumber?_eq_some_iff` says that the reader accepts
  just that.
* `Location.ofArgument_eq_some_iff` and `Location.ofArgument_eq_none_iff`: what an argument means.
* `lineIndex_pred`: which lines have an index, and what is said of the others.
* `Location.line_decoded`: the line that is written is the line that a report shows, if its index
  has a successor of 32 bits.
-/

namespace KotestOutline

variable {cs : List Char} {n : Nat} {i : UInt32}

/-! ### Numerals -/

/-- Whether digits, at least one, write a number that fits 64 bits. -/
structure Writes (digits : List Char) (n : Nat) : Prop where
  ne_nil : digits ≠ []
  isDigit : ∀ d ∈ digits, d.isDigit = true
  value : Nat.ofDigitChars 10 digits 0 = n
  lt : n < 2 ^ 64

/-- Whether a text writes a number, in digits alone or behind one plus sign. -/
def IsNumeral (cs : List Char) (n : Nat) : Prop :=
  ∃ digits, (cs = digits ∨ cs = '+' :: digits) ∧ Writes digits n

/-- A number below the bound is written by its decimal digits. -/
theorem writes_toDigits (h : n < 2 ^ 64) : Writes (Nat.toDigits 10 n) n where
  ne_nil := Nat.toDigits_ne_nil
  isDigit := fun _ hd => Nat.isDigit_of_mem_toDigits (by decide) (by decide) hd
  value := Nat.ofDigitChars_ten_toDigits
  lt := h

/-- A numeral has no colon in it. -/
theorem not_mem_of_isNumeral (h : IsNumeral cs n) : ':' ∉ cs := by
  obtain ⟨digits, hcs, hdigits⟩ := h
  have hnot : ':' ∉ digits := fun hmem => absurd (hdigits.isDigit _ hmem) (by decide)
  rcases hcs with rfl | rfl
  · exact hnot
  · simp [hnot]

/-- What is read as a line number is a numeral, and its value is read. -/
theorem lineNumber?_eq_some_iff : lineNumber? cs = some n ↔ IsNumeral cs n := by
  have hread : lineNumber? cs = some n ↔
      Writes (if cs.head? == some '+' then cs.drop 1 else cs) n := by
    rw [lineNumber?]
    generalize (if cs.head? == some '+' then cs.drop 1 else cs) = digits
    have hvalue : digits.foldl (fun n d => n * 10 + (d.toNat - '0'.toNat)) 0 =
        Nat.ofDigitChars 10 digits 0 := by
      rw [Nat.ofDigitChars_eq_foldl]
      simp only [Nat.mul_comm]
    simp only [hvalue, Option.ite_none_right_eq_some, Bool.and_eq_true, Bool.not_eq_true',
      List.isEmpty_eq_false_iff, List.all_eq_true, decide_eq_true_eq, Option.some.injEq]
    constructor
    · rintro ⟨⟨⟨hne, hdigits⟩, hsmall⟩, rfl⟩
      exact ⟨hne, hdigits, rfl, hsmall⟩
    · rintro ⟨hne, hdigits, rfl, hsmall⟩
      exact ⟨⟨⟨hne, hdigits⟩, hsmall⟩, rfl⟩
  rw [hread]
  constructor
  · intro h
    split_ifs at h with hsign
    · cases cs with
      | nil => exact absurd rfl h.ne_nil
      | cons c digits =>
        obtain rfl : c = '+' := by simpa using hsign
        exact ⟨digits, .inr rfl, h⟩
    · exact ⟨cs, .inl rfl, h⟩
  · rintro ⟨digits, rfl | rfl, h⟩
    · -- a digit in front is no sign
      rw [if_neg]
      · exact h
      · intro hsign
        have hplus : '+' ∈ cs := List.mem_of_head? (by simpa using hsign)
        exact absurd (h.isDigit _ hplus) (by decide)
    · exact h

/-! ### Arguments -/

namespace Location

variable {argument path : String} {k : Nat}

/-- An argument has a line where a numeral stands behind its last colon. -/
theorem ofArgument_eq_some_iff :
    ofArgument argument = ⟨path, some k⟩ ↔
      ∃ line n, argument.toList = path.toList ++ ':' :: line ∧ IsNumeral line n ∧ k = n - 1 := by
  rw [ofArgument]
  constructor
  · intro h
    split at h
    · cases h
    next front line hcut =>
      obtain ⟨hcut, -⟩ := splitAtLast?_eq_some_iff.1 hcut
      split at h
      next n hline =>
        cases h
        exact ⟨line, n, by rw [hcut, String.toList_ofList], lineNumber?_eq_some_iff.1 hline, rfl⟩
      · cases h
  · rintro ⟨line, n, hcut, hline, rfl⟩
    rw [splitAtLast?_eq_some_iff.2 ⟨hcut, not_mem_of_isNumeral hline⟩]
    dsimp only
    rw [lineNumber?_eq_some_iff.2 hline]
    dsimp only
    rw [String.ofList_toList]

/-- An argument is a path as a whole where nothing behind its last colon is a numeral. -/
theorem ofArgument_eq_none_iff :
    ofArgument argument = ⟨argument, none⟩ ↔
      ∀ front line, argument.toList = front ++ ':' :: line → ':' ∉ line → ∀ n,
        ¬ IsNumeral line n := by
  constructor
  · intro h front line hcut _ n hline
    have hsome : ofArgument argument = ⟨.ofList front, some (n - 1)⟩ :=
      ofArgument_eq_some_iff.2 ⟨line, n, by rw [hcut, String.toList_ofList], hline, rfl⟩
    rw [h] at hsome
    cases hsome
  · intro h
    rw [ofArgument]
    split
    · rfl
    next front line hcut =>
      obtain ⟨hcut, hline⟩ := splitAtLast?_eq_some_iff.1 hcut
      split
      next n hread => exact absurd (lineNumber?_eq_some_iff.1 hread) (h front line hcut hline n)
      · rfl

end Location

/-! ### Indices -/

/-- The index of a line that fits 64 bits: a number of 32 bits that has a successor, or the text
that names the line as it was written. -/
theorem lineIndex_pred (hpos : 1 ≤ n) (hsmall : n < 2 ^ 64) :
    lineIndex (n - 1) =
      if n ≤ 2 ^ 32 - 1 then .ok (.ofNat (n - 1))
      else .error s!"Line number {n} is out of range" := by
  have hline : min (n - 1 + 1) (UInt64.size - 1) = n := by
    have hsize : UInt64.size = 2 ^ 64 := rfl
    omega
  have hfits : n - 1 < UInt32.size - 1 ↔ n ≤ 2 ^ 32 - 1 := by
    have hsize : UInt32.size = 2 ^ 32 := rfl
    omega
  rw [lineIndex, hline]
  simp only [hfits]

/-- An index is the number before that of the line, and its successor is no overflow. -/
theorem lineIndex_pred_eq_ok_iff (hpos : 1 ≤ n) (hsmall : n < 2 ^ 64) :
    lineIndex (n - 1) = .ok i ↔ n ≤ 2 ^ 32 - 1 ∧ i.toNat + 1 = n := by
  rw [lineIndex_pred hpos hsmall]
  split_ifs with hfits
  · have hindex : (UInt32.ofNat (n - 1)).toNat = n - 1 :=
      UInt32.toNat_ofNat_of_lt' (show n - 1 < 2 ^ 32 by omega)
    rw [Except.ok.injEq, ← UInt32.toNat_inj, hindex]
    omega
  · exact ⟨nofun, fun h => absurd h.1 hfits⟩

/-! ### Reports -/

/-- Whether every report on what stands at a line index shows the number `n` for the line: the one
for people, with a target and without, and the one in data. -/
structure Report.ShowsLine (i : UInt32) (n : Nat) : Prop where
  target : ∀ t g, (targetLines i (some t) g)[1]? =
    some ("🎯 Target at line " ++ toString n ++ ": " ++ t.label)
  noTarget : ∀ g, targetLines i none g = ["", "❌ No spec or test at line " ++ toString n]
  data : ∀ a g, (lineJson i a g).field? "line" = some (.nat n)

/-- A report shows a line counted from 1. -/
theorem Report.showsLine (i : UInt32) : ShowsLine i (i.toNat + 1) where
  target := fun _ _ => rfl
  noTarget := fun _ => rfl
  data := fun _ _ => rfl

/-- **The line that is written is the line that is shown.** Behind any path, colons included, a line
from 1 on is read as the index before it. That index is accepted just if the line itself fits 32
bits; then going back to the line does not overflow, and every report shows the line as it was
written. An argument with no numeral behind its last colon is a path as a whole. -/
theorem Location.line_decoded :
    (∀ (path : String) (n : Nat), 1 ≤ n → n < 2 ^ 64 →
      ofArgument (path ++ ":" ++ toString n) = ⟨path, some (n - 1)⟩ ∧
      ((∃ i, lineIndex (n - 1) = .ok i) ↔ n ≤ 2 ^ 32 - 1) ∧
      ∀ i, lineIndex (n - 1) = .ok i →
        i.toNat = n - 1 ∧ (i + 1).toNat = n ∧ Report.ShowsLine i n) ∧
    ∀ argument, ofArgument argument = ⟨argument, none⟩ ↔
      ∀ front line, argument.toList = front ++ ':' :: line → ':' ∉ line → ∀ n,
        ¬ IsNumeral line n := by
  refine ⟨fun path n hpos hsmall => ⟨?_, ?_, ?_⟩, fun argument => ofArgument_eq_none_iff⟩
  · apply ofArgument_eq_some_iff.2
    refine ⟨Nat.toDigits 10 n, n, ?_, ⟨_, .inl rfl, writes_toDigits hsmall⟩, rfl⟩
    simp
  · constructor
    · rintro ⟨i, hi⟩
      exact ((lineIndex_pred_eq_ok_iff hpos hsmall).1 hi).1
    · intro hfits
      exact ⟨_, (lineIndex_pred hpos hsmall).trans (if_pos hfits)⟩
  · intro i hi
    obtain ⟨hfits, rfl⟩ := (lineIndex_pred_eq_ok_iff hpos hsmall).1 hi
    refine ⟨by omega, ?_, Report.showsLine i⟩
    rw [UInt32.toNat_add]
    exact Nat.mod_eq_of_lt (show i.toNat + 1 < 2 ^ 32 by omega)

/-- The largest line that 32 bits can count is read and shown, and the one behind it is refused. A
colon without a number behind it belongs to the file. -/
theorem Location.line_decoded_largest :
    ofArgument ("C:S.kt" ++ ":" ++ toString 4294967295) = ⟨"C:S.kt", some 4294967294⟩ ∧
      (∃ i, lineIndex 4294967294 = .ok i ∧ (i + 1).toNat = 4294967295) ∧
      (¬ ∃ i, lineIndex 4294967295 = .ok i) ∧ ofArgument "C:S.kt" = ⟨"C:S.kt", none⟩ := by
  obtain ⟨hread, hindex, hshown⟩ := line_decoded.1 "C:S.kt" 4294967295 (by decide) (by decide)
  obtain ⟨-, hindex', -⟩ := line_decoded.1 "C:S.kt" 4294967296 (by decide) (by decide)
  obtain ⟨i, hi⟩ := hindex.2 (by decide)
  refine ⟨hread, ⟨i, hi, (hshown i hi).2.1⟩, fun h => absurd (hindex'.1 h) (by decide), ?_⟩
  apply (line_decoded.2 "C:S.kt").2
  intro front line hcut hline n hnumeral
  have hsplit : splitAtLast? ':' "C:S.kt".toList = some (['C'], ['S', '.', 'k', 't']) := by decide
  rw [splitAtLast?_eq_some_iff.2 ⟨hcut, hline⟩] at hsplit
  cases hsplit
  have hread : lineNumber? ['S', '.', 'k', 't'] = none := by decide
  rw [lineNumber?_eq_some_iff.2 hnumeral] at hread
  cases hread

end KotestOutline
