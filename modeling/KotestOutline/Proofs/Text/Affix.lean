import KotestOutline.Text
import Mathlib.Data.List.DropRight

/-!
# What is cut off a text

What cutting at the beginning, at the end and at a separator leaves of a text that is put together
from pieces. A separator that begins with a blank is looked for behind each run of blanks
(`beforeFirst_append_of_blank`) and nowhere else (`beforeFirst_append_of_ne`). Of several separators
the one that none follows cuts the text in two (`splitAtLast?_eq_some_iff`), and all of them cut it
into its segments, which can be put together again (`segments_intercalate`).
-/

namespace KotestOutline

variable {front back cs gap separator : List Char} {s c : Char} {p : Char → Bool}

/-! ### Beginnings and ends -/

/-- Nothing is left out of a text that does not begin with what is to be left out. -/
theorem dropFrontTimes_of_dropFront? (h : dropFront? front cs = none) (n : Nat) :
    dropFrontTimes front n cs = cs := by
  cases n with
  | zero => rfl
  | succ n => rw [dropFrontTimes, h]

/-- A text that does not begin with `front` again loses it once. -/
theorem dropAllFront_append (hfront : front ≠ []) (h : dropFront? front cs = none) :
    dropAllFront front (front ++ cs) = cs := by
  have hlength : (front ++ cs).length = (front.length - 1 + cs.length) + 1 := by
    have := List.length_pos_of_ne_nil hfront
    rw [List.length_append]
    omega
  rw [dropAllFront, hlength, dropFrontTimes, dropFront?_eq_some_iff.2 rfl]
  exact dropFrontTimes_of_dropFront? h _

/-- What is left out at the end are the last characters of a class, up to one that is not of it. -/
theorem dropEndWhile_append (hfront : ∀ c ∈ front, p c = false) (hback : ∀ c ∈ back, p c = true) :
    dropEndWhile p (front ++ back) = front := by
  unfold dropEndWhile
  rw [List.reverse_append, List.dropWhile_append_of_pos (by simpa using hback)]
  exact List.rdropWhile_eq_self_iff.2 fun h => by simpa using hfront _ (List.getLast_mem h)

/-! ### Separators -/

/-- A character other than the first of a separator comes before the first separator. -/
theorem beforeFirst_cons_of_ne (h : c ≠ s) (cs : List Char) :
    beforeFirst (s :: separator) (c :: cs) = c :: beforeFirst (s :: separator) cs := by
  rw [beforeFirst, if_neg]
  simp [List.isPrefixOf, Ne.symm h]

/-- A separator does not begin in a text without its first character. -/
theorem beforeFirst_append_of_ne (h : ∀ c ∈ front, c ≠ s) (cs : List Char) :
    beforeFirst (s :: separator) (front ++ cs) = front ++ beforeFirst (s :: separator) cs := by
  induction front with
  | nil => rfl
  | cons c front ih =>
    obtain ⟨hc, hfront⟩ := List.forall_mem_cons.1 h
    rw [List.cons_append, beforeFirst_cons_of_ne hc, ih hfront, List.cons_append]

/-- Nothing comes before a separator that a text begins with. -/
theorem beforeFirst_append_self (cs : List Char) :
    beforeFirst (s :: separator) (s :: separator ++ cs) = [] := by
  rw [List.cons_append, beforeFirst, if_pos]
  simp

/-- Behind a run of blanks begins what has the rest of the separator there, if that rest begins with
no blank itself. -/
theorem beforeFirst_append_of_blank {d : Char} (hd : p d = false) (hgap : ∀ c ∈ gap, p c = true)
    (h : ¬ d :: separator <+: cs) :
    beforeFirst (s :: d :: separator) (gap ++ cs) =
      gap ++ beforeFirst (s :: d :: separator) cs := by
  induction gap with
  | nil => rfl
  | cons c gap ih =>
    obtain ⟨-, hgap⟩ := List.forall_mem_cons.1 hgap
    have hnot : ¬ (s :: d :: separator).isPrefixOf (c :: (gap ++ cs)) = true := by
      rw [List.isPrefixOf_iff_prefix, List.cons_prefix_cons]
      rintro ⟨-, hbegins⟩
      cases gap with
      | nil => exact h hbegins
      | cons e gap =>
        rw [List.cons_append, List.cons_prefix_cons] at hbegins
        have hblank := hgap e List.mem_cons_self
        rw [← hbegins.1, hd] at hblank
        cases hblank
    rw [List.cons_append, beforeFirst, if_neg hnot, ih hgap, List.cons_append]

/-! ### The last separator -/

/-- A text has no place to be split at just if the character is not in it. -/
theorem splitAtLast?_eq_none_iff : splitAtLast? s cs = none ↔ s ∉ cs := by
  induction cs with
  | nil => simp [splitAtLast?]
  | cons c cs ih =>
    rw [splitAtLast?]
    cases hsplit : splitAtLast? s cs with
    | none =>
      have hrest := ih.1 hsplit
      by_cases hc : c = s
      · simp [hc]
      · simp [hc, hrest, Ne.symm hc]
    | some around =>
      have hrest : s ∈ cs := by
        by_contra hnot
        rw [ih.2 hnot] at hsplit
        cases hsplit
      simp [hrest]

/-- A text is cut at the separator that none follows. -/
theorem splitAtLast?_append (front : List Char) (h : s ∉ back) :
    splitAtLast? s (front ++ s :: back) = some (front, back) := by
  induction front with
  | nil => rw [List.nil_append, splitAtLast?, splitAtLast?_eq_none_iff.2 h, if_pos rfl]
  | cons c front ih => rw [List.cons_append, splitAtLast?, ih]

/-- Where a text is cut, it is put together again, and the second part has no separator. -/
theorem splitAtLast?_eq_some_iff :
    splitAtLast? s cs = some (front, back) ↔ cs = front ++ s :: back ∧ s ∉ back := by
  constructor
  · intro h
    induction cs generalizing front with
    | nil => cases h
    | cons c cs ih =>
      rw [splitAtLast?] at h
      split at h
      next head rest hsplit =>
        cases h
        obtain ⟨rfl, hback⟩ := ih hsplit
        exact ⟨rfl, hback⟩
      next hsplit =>
        split_ifs at h with hc
        cases h
        exact ⟨by rw [hc, List.nil_append], splitAtLast?_eq_none_iff.1 hsplit⟩
  · rintro ⟨rfl, hback⟩
    exact splitAtLast?_append front hback

/-! ### Segments -/

/-- A text has at least one segment. -/
theorem exists_segments (c : Char) (cs : List Char) : ∃ t ts, segments c cs = t :: ts := by
  cases cs with
  | nil => exact ⟨[], [], rfl⟩
  | cons d cs =>
    rw [segments]
    cases segments c cs with
    | nil => exact ⟨[d], [], rfl⟩
    | cons t ts => by_cases h : d = c <;> simp [h]

/-- A text that begins with the separator has an empty first segment. -/
theorem segments_cons_self (c : Char) (cs : List Char) :
    segments c (c :: cs) = [] :: segments c cs := by
  obtain ⟨t, ts, h⟩ := exists_segments c cs
  simp [segments, h]

/-- A text without the separator is one segment. -/
theorem segments_of_not_mem (h : s ∉ cs) : segments s cs = [cs] := by
  induction cs with
  | nil => rfl
  | cons c cs ih =>
    obtain ⟨hc, hcs⟩ := not_or.1 (List.mem_cons.not.1 h)
    simp [segments, ih hcs, Ne.symm hc]

/-- What comes before the first separator is the first segment. -/
theorem segments_append (h : s ∉ front) (cs : List Char) :
    segments s (front ++ s :: cs) = front :: segments s cs := by
  induction front with
  | nil => exact segments_cons_self s cs
  | cons c front ih =>
    obtain ⟨hc, hfront⟩ := not_or.1 (List.mem_cons.not.1 h)
    simp [segments, ih hfront, Ne.symm hc]

/-- There is no separator in a segment. -/
theorem not_mem_of_mem_segments {t : List Char} (h : t ∈ segments s cs) : s ∉ t := by
  induction cs generalizing t with
  | nil =>
    obtain rfl : t = [] := List.mem_singleton.1 h
    exact List.not_mem_nil
  | cons c cs ih =>
    obtain ⟨u, us, hcs⟩ := exists_segments s cs
    simp only [segments, hcs] at h ih
    split_ifs at h with hc
    · rcases List.mem_cons.1 h with rfl | h
      · exact List.not_mem_nil
      · exact ih h
    · rcases List.mem_cons.1 h with rfl | h
      · simp [Ne.symm hc, ih List.mem_cons_self]
      · exact ih (List.mem_cons_of_mem u h)

/-- Segments that are put together are cut apart again. -/
theorem segments_intercalate {ts : List (List Char)} (hne : ts ≠ []) (h : ∀ t ∈ ts, s ∉ t) :
    segments s (List.intercalate [s] ts) = ts := by
  induction ts with
  | nil => exact absurd rfl hne
  | cons t ts ih =>
    obtain ⟨ht, hts⟩ := List.forall_mem_cons.1 h
    cases ts with
    | nil => rw [List.intercalate_singleton, segments_of_not_mem ht]
    | cons u us =>
      rw [List.intercalate_cons_cons, List.append_assoc, List.singleton_append,
        segments_append ht, ih (List.cons_ne_nil u us) hts]

/-! ### Blanks -/

/-- Blanks are taken out of each half of a text. -/
theorem withoutBlanks_append (front back : List Char) :
    withoutBlanks (front ++ back) = withoutBlanks front ++ withoutBlanks back :=
  List.filter_append ..

/-- Nothing is left of blanks. -/
theorem withoutBlanks_of_blank (h : ∀ c ∈ gap, isBlank c = true) : withoutBlanks gap = [] := by
  refine List.filter_eq_nil_iff.2 fun c hc => ?_
  simp [h c hc]

/-- A text without blanks stays. -/
theorem withoutBlanks_of_not_blank (h : ∀ c ∈ cs, isBlank c = false) : withoutBlanks cs = cs := by
  refine List.filter_eq_self.2 fun c hc => ?_
  simp [h c hc]

end KotestOutline
