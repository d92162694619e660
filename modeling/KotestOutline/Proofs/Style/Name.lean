import KotestOutline.Proofs.Table
import KotestOutline.Style
import Mathlib.Data.List.Basic

/-!
# What the styles are called

A style is called by its qualified name, or by any spelling of its short name or of its name for
people (`SpecStyle.IsCalled`). Two spellings of a text differ in the case of ASCII letters and in
blanks, underscores and hyphens (`SameSpelling`), and this is what normalizing forgets
(`StyleRegistry.normalize_eq_iff_sameSpelling`).

* `SpecStyle.IsCalled.unique`: no two styles are called the same.
* `StyleRegistry.lookupIn_eq_some_iff`: so a lookup among some styles finds the one of them that is
  called so, in whatever order they stand.
* `StyleRegistry.IsLowerCase.lookupInBy_eq`: a lower case that goes beyond ASCII finds the same
  styles.
-/

namespace KotestOutline

/-! ### Spellings -/

/-- An ASCII letter in upper case and the same letter in lower case. -/
def IsUpperOf (upper lower : Char) : Prop :=
  'A' ≤ upper ∧ upper ≤ 'Z' ∧ lower.toNat = upper.toNat + 32

/-- Two characters are the same up to the case of an ASCII letter. -/
def SameLetter (c d : Char) : Prop := c = d ∨ IsUpperOf c d ∨ IsUpperOf d c

/-- A character that only sets the words of a name apart. -/
def isSeparator (c : Char) : Bool := c == ' ' || c == '_' || c == '-'

/-- Two texts differ only in the case of ASCII letters and in the separators between words. -/
inductive SameSpelling : List Char → List Char → Prop where
  | nil : SameSpelling [] []
  | letter {c d cs ds} (head : SameLetter c d) (tail : SameSpelling cs ds) :
      SameSpelling (c :: cs) (d :: ds)
  | left {c cs ds} (head : isSeparator c = true) (tail : SameSpelling cs ds) :
      SameSpelling (c :: cs) ds
  | right {d cs ds} (head : isSeparator d = true) (tail : SameSpelling cs ds) :
      SameSpelling cs (d :: ds)

/-- The letters of ASCII in upper case are 32 places before those in lower case. -/
theorem isUpperOf_iff {c d : Char} :
    IsUpperOf c d ↔ 65 ≤ c.toNat ∧ c.toNat ≤ 90 ∧ d.toNat = c.toNat + 32 :=
  and_congr UInt32.le_iff_toNat_le (and_congr UInt32.le_iff_toNat_le Iff.rfl)

/-- A separator is a space, an underscore or a hyphen. -/
theorem isSeparator_iff {c : Char} :
    isSeparator c = true ↔ c.toNat = 32 ∨ c.toNat = 95 ∨ c.toNat = 45 := by
  simp only [isSeparator, Bool.or_eq_true, beq_iff_eq, or_assoc, ← Char.toNat_inj]
  rfl

/-- Lower case moves the letters of ASCII by 32 places, and no other character. -/
theorem toNat_toLower (c : Char) :
    c.toLower.toNat = if 65 ≤ c.toNat ∧ c.toNat ≤ 90 then c.toNat + 32 else c.toNat := by
  have hrange : ('A' ≤ c ∧ c ≤ 'Z') ↔ 65 ≤ c.toNat ∧ c.toNat ≤ 90 :=
    and_congr UInt32.le_iff_toNat_le UInt32.le_iff_toNat_le
  by_cases h : 'A' ≤ c ∧ c ≤ 'Z'
  · have hval : c.toLower.val = c.val + 32 := congrArg Char.val (dif_pos h)
    have hle : c.val.toNat ≤ 90 := (hrange.1 h).2
    rw [if_pos (hrange.1 h)]
    calc c.toLower.val.toNat = (c.val.toNat + 32) % 2 ^ 32 := by rw [hval, UInt32.toNat_add]; rfl
      _ = c.val.toNat + 32 := Nat.mod_eq_of_lt (by omega)
  · have hsame : c.toLower = c := dif_neg h
    rw [hsame, if_neg (mt hrange.2 h)]

/-- Lower case tells two characters apart just as they are different letters. -/
theorem toLower_eq_toLower_iff {c d : Char} : c.toLower = d.toLower ↔ SameLetter c d := by
  rw [SameLetter, isUpperOf_iff, isUpperOf_iff, ← Char.toNat_inj, ← Char.toNat_inj, toNat_toLower,
    toNat_toLower]
  split <;> split <;> omega

/-- Of two characters that are the same up to case, both are separators or neither is. -/
theorem SameLetter.isSeparator_eq {c d : Char} (h : SameLetter c d) :
    isSeparator c = isSeparator d := by
  rw [SameLetter, isUpperOf_iff, isUpperOf_iff] at h
  obtain rfl | h := h
  · rfl
  · rw [Bool.eq_iff_iff, isSeparator_iff, isSeparator_iff]
    omega

/-! ### Normalizing -/

/-- The letters of a text in lower case, without its separators. -/
def lettersOf (cs : List Char) : List Char := (cs.filter (!isSeparator ·)).map Char.toLower

/-- A separator does not count as a letter. -/
theorem lettersOf_cons_separator {c : Char} (h : isSeparator c = true) (cs : List Char) :
    lettersOf (c :: cs) = lettersOf cs := by
  simp [lettersOf, h]

/-- Any other character counts in lower case. -/
theorem lettersOf_cons_letter {c : Char} (h : isSeparator c = false) (cs : List Char) :
    lettersOf (c :: cs) = c.toLower :: lettersOf cs := by
  simp [lettersOf, h]

/-- Texts that differ in case and separators have the same letters. -/
theorem SameSpelling.lettersOf_eq {cs ds : List Char} (h : SameSpelling cs ds) :
    lettersOf cs = lettersOf ds := by
  induction h with
  | nil => rfl
  | @letter c d cs ds head _ ih =>
    cases hc : isSeparator c with
    | true =>
      have hd : isSeparator d = true := head.isSeparator_eq.symm.trans hc
      rw [lettersOf_cons_separator hc, lettersOf_cons_separator hd, ih]
    | false =>
      have hd : isSeparator d = false := head.isSeparator_eq.symm.trans hc
      rw [lettersOf_cons_letter hc, lettersOf_cons_letter hd, ih, toLower_eq_toLower_iff.2 head]
  | left head _ ih => rw [lettersOf_cons_separator head, ih]
  | right head _ ih => rw [lettersOf_cons_separator head, ih]

/-- By induction on both texts: separators are passed on either side, and then the first letters
are the same. -/
theorem SameSpelling.of_lettersOf_eq {cs ds : List Char} (h : lettersOf cs = lettersOf ds) :
    SameSpelling cs ds := by
  induction cs generalizing ds with
  | nil =>
    induction ds with
    | nil => exact .nil
    | cons d ds ih =>
      cases hd : isSeparator d with
      | true => exact .right hd (ih (h.trans (lettersOf_cons_separator hd ds)))
      | false =>
        rw [lettersOf_cons_letter hd] at h
        cases h
  | cons c cs ih =>
    cases hc : isSeparator c with
    | true => exact .left hc (ih ((lettersOf_cons_separator hc cs).symm.trans h))
    | false =>
      induction ds with
      | nil =>
        rw [lettersOf_cons_letter hc] at h
        cases h
      | cons d ds ihd =>
        cases hd : isSeparator d with
        | true => exact .right hd (ihd (h.trans (lettersOf_cons_separator hd ds)))
        | false =>
          rw [lettersOf_cons_letter hc, lettersOf_cons_letter hd, List.cons.injEq] at h
          exact .letter (toLower_eq_toLower_iff.1 h.1) (ih h.2)

namespace StyleRegistry

variable {a b : String}

/-- Normalizing forgets just the spelling. -/
theorem normalize_eq_iff_sameSpelling :
    normalize a = normalize b ↔ SameSpelling a.toList b.toList :=
  ⟨SameSpelling.of_lettersOf_eq, SameSpelling.lettersOf_eq⟩

/-- A normalized name has the characters of the name in lower case, without separators. -/
theorem mem_normalize_iff {d : Char} :
    d ∈ normalize a ↔ ∃ c ∈ a.toList, isSeparator c = false ∧ c.toLower = d := by
  show d ∈ lettersOf a.toList ↔ _
  simp [lettersOf, and_assoc]

end StyleRegistry

/-! ### Names of styles -/

namespace SpecStyle

open StyleRegistry (normalize normalize_eq_iff_sameSpelling)

/-- The names that a style goes by. -/
inductive IsCalled (style : SpecStyle) : String → Prop where
  | qualified : style.IsCalled style.fqName
  | short {name} (h : SameSpelling style.shortName.toList name.toList) : style.IsCalled name
  | written {name} (h : SameSpelling style.styleName.toList name.toList) : style.IsCalled name

variable {s s' : SpecStyle} {name : String}

/-- The name for people is a spelling of the short name. -/
theorem normalize_styleName (s : SpecStyle) : normalize s.styleName = normalize s.shortName := by
  cases s <;> decide

/-- No two styles have the same short name up to case and separators. -/
theorem normalize_shortName_injective : Function.Injective fun s => normalize (shortName s) := by
  intro a b
  cases a <;> cases b <;> decide

/-- No two styles have the same short name. -/
theorem shortName_injective : Function.Injective shortName :=
  fun _ _ h => normalize_shortName_injective (congrArg normalize h)

/-- No two styles have the same full name. -/
theorem fqName_injective : Function.Injective fqName :=
  fun _ _ h => shortName_injective (congrArg QualifiedName.short h)

/-- There is a dot in the full name of each style. -/
theorem dot_mem_normalize_fqName (s : SpecStyle) : '.' ∈ normalize s.fqName := by
  cases s <;> decide

/-- There is no dot in the short name of any style. -/
theorem dot_not_mem_normalize_shortName (s : SpecStyle) : '.' ∉ normalize s.shortName := by
  cases s <;> decide

/-- No qualified name is a spelling of a short name: the dots stay. -/
theorem normalize_fqName_ne (s s' : SpecStyle) :
    normalize s.fqName ≠ normalize s'.shortName := by
  intro h
  apply dot_not_mem_normalize_shortName s'
  rw [← h]
  exact dot_mem_normalize_fqName s

/-- The names of a style are its full name and all spellings of its short name, since the written
name differs from that one only in separators. -/
theorem isCalled_iff :
    s.IsCalled name ↔ s.fqName = name ∨ normalize s.shortName = normalize name := by
  constructor
  · rintro (_ | h | h)
    · exact .inl rfl
    · exact .inr (normalize_eq_iff_sameSpelling.2 h)
    · exact .inr ((normalize_styleName s).symm.trans (normalize_eq_iff_sameSpelling.2 h))
  · rintro (rfl | h)
    · exact .qualified
    · exact .short (normalize_eq_iff_sameSpelling.1 h)

/-- No two styles go by the same name. -/
theorem IsCalled.unique (h : s.IsCalled name) (h' : s'.IsCalled name) : s = s' := by
  obtain rfl | h := isCalled_iff.1 h <;> obtain h' | h' := isCalled_iff.1 h'
  · exact fqName_injective h'.symm
  · exact absurd h'.symm (normalize_fqName_ne s s')
  · exact absurd (h.trans (congrArg normalize h'.symm)).symm (normalize_fqName_ne s' s)
  · exact normalize_shortName_injective (h.trans h'.symm)

/-- Apart from the qualified names, only the spelling of a name is free. -/
theorem isCalled_congr {a b : String} (h : SameSpelling a.toList b.toList) (ha : s.fqName ≠ a)
    (hb : s.fqName ≠ b) : s.IsCalled a ↔ s.IsCalled b := by
  rw [isCalled_iff, isCalled_iff, normalize_eq_iff_sameSpelling.2 h]
  simp [ha, hb]

end SpecStyle

namespace StyleRegistry

variable {styles : List SpecStyle} {name : String} {s : SpecStyle}

/-- A lookup finds, of some styles, the one that is called so. -/
theorem lookupIn_eq_some_iff : lookupIn styles name = some s ↔ s ∈ styles ∧ s.IsCalled name := by
  have hqualified : ∀ s, styles.find? (·.fqName == name) = some s ↔ s ∈ styles ∧ s.fqName = name :=
    fun s => find?_key_eq_some_iff fun _ _ _ _ h => SpecStyle.fqName_injective h
  have hspelled : (styles.find? fun s =>
      normalize s.shortName == normalize name || normalize s.styleName == normalize name) = some s ↔
      s ∈ styles ∧ normalize s.shortName = normalize name := by
    simp only [SpecStyle.normalize_styleName, Bool.or_self]
    exact find?_key_eq_some_iff fun _ _ _ _ h => SpecStyle.normalize_shortName_injective h
  rw [lookupIn, Option.or_eq_some_iff, hqualified, hspelled, SpecStyle.isCalled_iff]
  constructor
  · rintro (⟨hs, h⟩ | ⟨-, hs, h⟩)
    · exact ⟨hs, .inl h⟩
    · exact ⟨hs, .inr h⟩
  · rintro ⟨hs, h | h⟩
    · exact .inl ⟨hs, h⟩
    · refine .inr ⟨List.find?_eq_none.2 fun t _ ht => ?_, hs, h⟩
      -- a qualified name is no spelling of a short name
      rw [← eq_of_beq ht] at h
      exact SpecStyle.normalize_fqName_ne t s h.symm

/-! ### Lower case beyond ASCII -/

/-- A name without separators, in a lower case that may turn a character into several. -/
def normalizeBy (lower : Char → List Char) (name : String) : List Char :=
  (name.toList.filter (!isSeparator ·)).flatMap lower

/-- A look-up that normalizes with such a lower case. -/
def lookupInBy (lower : Char → List Char) (styles : List SpecStyle) (name : String) :
    Option SpecStyle :=
  (styles.find? (·.fqName == name)).or <|
    styles.find? fun style =>
      normalizeBy lower style.shortName == normalizeBy lower name ||
        normalizeBy lower style.styleName == normalizeBy lower name

/-- A lower case that is the one of ASCII there. Of the other characters, only the sign for kelvin
becomes a letter of ASCII alone, which is `k`. -/
structure IsLowerCase (lower : Char → List Char) : Prop where
  ascii : ∀ c, c.toNat < 128 → lower c = [c.toLower]
  other : ∀ c, 128 ≤ c.toNat → ∃ d ∈ lower c, 128 ≤ d.toNat ∨ d = 'k'

/-- For a name of ASCII, all lower cases normalize alike. -/
theorem IsLowerCase.normalizeBy_of_ascii {lower : Char → List Char} (h : IsLowerCase lower)
    (hascii : ∀ c ∈ name.toList, isSeparator c = false → c.toNat < 128) :
    normalizeBy lower name = normalize name := by
  show _ = lettersOf name.toList
  rw [lettersOf, List.map_eq_flatMap]
  apply List.flatMap_congr
  intro c hc
  obtain ⟨hc, hletter⟩ := List.mem_filter.1 hc
  exact h.ascii c (hascii c hc (by simpa using hletter))

/-- The names of a style are ASCII. -/
theorem IsLowerCase.normalizeBy_name {lower : Char → List Char} (h : IsLowerCase lower)
    (s : SpecStyle) :
    normalizeBy lower s.shortName = normalize s.shortName ∧
      normalizeBy lower s.styleName = normalize s.styleName := by
  have hnames : (s.shortName.toList ++ s.styleName.toList).all (·.toNat < 128) = true := by
    cases s <;> decide
  have hall : ∀ c ∈ s.shortName.toList ++ s.styleName.toList, c.toNat < 128 := by
    simpa only [List.all_eq_true, decide_eq_true_eq] using hnames
  exact ⟨h.normalizeBy_of_ascii fun c hc _ => hall c (List.mem_append_left _ hc),
    h.normalizeBy_of_ascii fun c hc _ => hall c (List.mem_append_right _ hc)⟩

/-- No short name has the letter that the sign for kelvin becomes. -/
theorem lt_and_ne_of_mem_normalize_shortName {d : Char} (h : d ∈ normalize s.shortName) :
    d.toNat < 128 ∧ d ≠ 'k' := by
  have hall : (normalize s.shortName).all (fun c => c.toNat < 128 && c != 'k') = true := by
    cases s <;> decide
  simpa using List.all_eq_true.1 hall d h

/-- Only ASCII letters spell a short name, whatever the lower case of the other letters is. -/
theorem IsLowerCase.normalize_eq_normalizeBy_iff {lower : Char → List Char}
    (h : IsLowerCase lower) :
    normalize s.shortName = normalizeBy lower name ↔ normalize s.shortName = normalize name := by
  by_cases hascii : ∀ c ∈ name.toList, isSeparator c = false → c.toNat < 128
  · rw [h.normalizeBy_of_ascii hascii]
  · -- a character beyond ASCII stays in both forms, and in no short name
    simp only [not_forall, Nat.not_lt] at hascii
    obtain ⟨c, hc, hletter, hlarge⟩ := hascii
    obtain ⟨d, hd, hforeign⟩ := h.other c hlarge
    constructor <;> intro heq
    · have hmem : d ∈ normalize s.shortName := by
        rw [heq]
        exact List.mem_flatMap.2 ⟨c, List.mem_filter.2 ⟨hc, by simp [hletter]⟩, hd⟩
      obtain ⟨hsmall, hk⟩ := lt_and_ne_of_mem_normalize_shortName hmem
      obtain hlarge | rfl := hforeign
      · omega
      · exact absurd rfl hk
    · have hmem : c.toLower ∈ normalize s.shortName := by
        rw [heq]
        exact mem_normalize_iff.2 ⟨c, hc, hletter, rfl⟩
      have hsmall := (lt_and_ne_of_mem_normalize_shortName hmem).1
      rw [toNat_toLower] at hsmall
      split at hsmall <;> omega

/-- **Lower case beyond ASCII gives the styles no further names**: look-ups find the same. -/
theorem IsLowerCase.lookupInBy_eq {lower : Char → List Char} (h : IsLowerCase lower)
    (styles : List SpecStyle) (name : String) :
    lookupInBy lower styles name = lookupIn styles name := by
  have hsame : ∀ s : SpecStyle,
      (normalizeBy lower s.shortName == normalizeBy lower name ||
        normalizeBy lower s.styleName == normalizeBy lower name) =
      (normalize s.shortName == normalize name || normalize s.styleName == normalize name) := by
    intro s
    obtain ⟨hshort, hwritten⟩ := h.normalizeBy_name s
    rw [hshort, hwritten, SpecStyle.normalize_styleName, Bool.or_self, Bool.or_self,
      Bool.eq_iff_iff, beq_iff_eq, beq_iff_eq, h.normalize_eq_normalizeBy_iff]
  rw [lookupInBy, lookupIn]
  simp only [hsame]

/-- The lower case of ASCII, and of the two other characters that have a letter of ASCII in theirs:
the capital `i` with a dot and the sign for kelvin. -/
def lowerLetters (c : Char) : List Char :=
  if c = '\u0130' then ['i', '\u0307'] else if c = '\u212a' then ['k'] else [c.toLower]

/-- The lower case that knows the two characters beside ASCII is one. -/
theorem isLowerCase_lowerLetters : IsLowerCase lowerLetters where
  ascii c hc := by
    have hdotted : c ≠ '\u0130' := by rintro rfl; exact absurd hc (by decide)
    have hkelvin : c ≠ '\u212a' := by rintro rfl; exact absurd hc (by decide)
    rw [lowerLetters, if_neg hdotted, if_neg hkelvin]
  other c hc := by
    rw [lowerLetters]
    split_ifs
    · exact ⟨'\u0307', by simp, .inl (by decide)⟩
    · exact ⟨'k', by simp, .inr rfl⟩
    · refine ⟨c.toLower, by simp, .inl ?_⟩
      rw [toNat_toLower]
      split <;> omega

example : lookupInBy lowerLetters SpecStyle.all "STRİNG SPEC" = none := by
  rw [isLowerCase_lowerLetters.lookupInBy_eq]
  decide

end StyleRegistry

end KotestOutline
