import KotestOutline.Proofs.Style.Name
import Mathlib.Data.List.Perm.Basic

/-!
# Selecting styles by name

A registry is narrowed to the styles that some names denote.

* `StyleRegistry.withStyles_eq_error_iff`: the narrowing fails on the first name that denotes none.
* `StyleRegistry.isSelectionOf_of_withStyles`: otherwise it gives the denoted styles, and there is
  only one such registry (`StyleRegistry.IsSelectionOf.unique`).
* `StyleRegistry.lookup_eq_some_iff`: a registry finds what the full one finds, as far as it holds
  it.
* `StyleRegistry.withStyles_coherent` puts these together, with which names are looked up alike.

That a lookup in a part finds no other style in place of a missing one needs no order of the styles:
no two of them are called the same (`SpecStyle.IsCalled.unique`).
-/

namespace KotestOutline

/-! ### Reading a list of items that may fail -/

section Traversal

variable {α β ε : Type} {f : α → Except ε β} {xs : List α} {ys : List β} {y : β} {e : ε}

/-- A list of successful readings has the values of its elements. -/
theorem mem_iff_of_mapM_eq_ok (h : xs.mapM f = .ok ys) : y ∈ ys ↔ ∃ x ∈ xs, f x = .ok y := by
  induction xs generalizing ys with
  | nil =>
    obtain rfl : [] = ys := Except.ok.inj h
    simp
  | cons x xs ih =>
    rw [List.mapM_cons] at h
    cases hx : f x with
    | error e =>
      rw [hx] at h
      cases h
    | ok v =>
      cases hxs : xs.mapM f with
      | error e =>
        rw [hx, hxs] at h
        cases h
      | ok vs =>
        rw [hx, hxs] at h
        obtain rfl : v :: vs = ys := Except.ok.inj h
        rw [List.mem_cons, List.exists_mem_cons_iff, hx, Except.ok.injEq, ih hxs, eq_comm]

/-- Reading a list fails as its first element does, or else as the rest does. -/
theorem mapM_cons_eq_error_iff {x : α} :
    (x :: xs).mapM f = .error e ↔
      f x = .error e ∨ (∃ v, f x = .ok v) ∧ xs.mapM f = .error e := by
  rw [List.mapM_cons]
  cases hx : f x with
  | error e' => simp [bind, Except.bind]
  | ok v => cases hxs : xs.mapM f <;> simp [bind, Except.bind, pure, Except.pure]

/-- The reading fails on the first item that cannot be read. -/
theorem mapM_eq_error_iff :
    xs.mapM f = .error e ↔ ∃ front x back, xs = front ++ x :: back ∧
      (∀ z ∈ front, ∃ v, f z = .ok v) ∧ f x = .error e := by
  induction xs with
  | nil =>
    constructor
    · intro h
      cases h
    · rintro ⟨front, x, back, h, -⟩
      simp at h
  | cons x xs ih =>
    rw [mapM_cons_eq_error_iff, ih]
    constructor
    · rintro (hx | ⟨hx, front, w, back, rfl, hfront, hw⟩)
      · exact ⟨[], x, xs, rfl, by simp, hx⟩
      · exact ⟨x :: front, w, back, rfl, List.forall_mem_cons.2 ⟨hx, hfront⟩, hw⟩
    · rintro ⟨_ | ⟨z, front⟩, w, back, hsplit, hfront, hw⟩
      · cases hsplit
        exact .inl hw
      · cases hsplit
        obtain ⟨hx, hfront⟩ := List.forall_mem_cons.1 hfront
        exact .inr ⟨hx, front, w, back, rfl, hfront, hw⟩

end Traversal

/-- Every style is in the list of all styles. -/
theorem SpecStyle.mem_all (s : SpecStyle) : s ∈ SpecStyle.all := by
  cases s <;> decide

/-- No style is twice in the list of all styles. -/
theorem SpecStyle.nodup_all : SpecStyle.all.Nodup := by decide

namespace StyleRegistry

variable {r r' : StyleRegistry} {names : List String} {name : String} {s : SpecStyle}

/-! ### Lookup in a part -/

/-- A registry contains a style just if the style is in its list. -/
theorem contains_eq_true_iff : r.contains s = true ↔ s ∈ r.styles := by
  rw [contains, List.contains_iff_mem]

/-- The full registry finds a style under the names that it goes by, and under no others. -/
theorem full_lookup_eq_some_iff : full.lookup name = some s ↔ s.IsCalled name := by
  rw [lookup, lookupIn_eq_some_iff]
  exact and_iff_right s.mem_all

/-- A registry finds what the full one finds, as far as it holds it. -/
theorem lookup_eq_some_iff :
    r.lookup name = some s ↔ full.lookup name = some s ∧ r.contains s = true := by
  rw [full_lookup_eq_some_iff, contains_eq_true_iff, and_comm]
  exact lookupIn_eq_some_iff

/-- Apart from the qualified names, a lookup depends only on the spelling. -/
theorem lookup_congr {a b : String} (h : SameSpelling a.toList b.toList)
    (hqualified : ∀ s : SpecStyle, s.fqName ≠ a ∧ s.fqName ≠ b) : r.lookup a = r.lookup b := by
  apply Option.ext
  intro s
  have hcalled := SpecStyle.isCalled_congr h (hqualified s).1 (hqualified s).2
  exact lookupIn_eq_some_iff.trans ((and_congr_right' hcalled).trans lookupIn_eq_some_iff.symm)

/-! ### Selection -/

/-- A registry of just the styles that some names denote, each once and in registration order. -/
structure IsSelectionOf (r : StyleRegistry) (names : List String) : Prop where
  mem_iff : ∀ s, s ∈ r.styles ↔ ∃ name ∈ names, full.lookup name = some s
  nodup : r.styles.Nodup
  ordered : r.styles.Sublist SpecStyle.all

/-- A selection depends on which names there are, and on neither their order nor repetitions. -/
theorem IsSelectionOf.congr {names' : List String} (h : r.IsSelectionOf names)
    (hsame : ∀ name, name ∈ names' ↔ name ∈ names) : r.IsSelectionOf names' := by
  refine ⟨fun s => (h.mem_iff s).trans ?_, h.nodup, h.ordered⟩
  simp only [hsame]

/-- Names have one selection, as its order is that of all styles. -/
theorem IsSelectionOf.unique (h : r.IsSelectionOf names) (h' : r'.IsSelectionOf names) :
    r = r' := by
  have hperm : r.styles.Perm r'.styles :=
    (List.perm_ext_iff_of_nodup h.nodup h'.nodup).2 fun s =>
      (h.mem_iff s).trans (h'.mem_iff s).symm
  have hstyles : r.styles = r'.styles :=
    (SpecStyle.nodup_all.perm_iff_eq_of_sublist h.ordered h'.ordered).1 hperm
  obtain ⟨styles⟩ := r
  exact congrArg StyleRegistry.mk hstyles

/-- The first of some names that denotes no style. -/
def IsFirstUnknown (name : String) (names : List String) : Prop :=
  ∃ front back, names = front ++ name :: back ∧ (∀ known ∈ front, full.lookup known ≠ none) ∧
    full.lookup name = none

/-- What a single name is read as. -/
def select (name : String) : Except ScanError SpecStyle :=
  (full.lookup name).elim (.error (.unknownStyle name)) .ok

/-- A name is read as a style just if the full registry finds that style. -/
theorem select_eq_ok_iff : select name = .ok s ↔ full.lookup name = some s := by
  unfold select
  cases full.lookup name <;> simp

/-- A name is rejected just if the full registry finds no style, and the error names it. -/
theorem select_eq_error_iff {e : ScanError} :
    select name = .error e ↔ full.lookup name = none ∧ e = .unknownStyle name := by
  unfold select
  cases full.lookup name <;> simp [eq_comm]

/-- The registry of some names is read off them one by one, and then put in registration order. -/
theorem withStyles_eq (names : List String) :
    withStyles names =
      (names.mapM select >>= fun selected => .ok ⟨SpecStyle.all.filter selected.contains⟩) := by
  unfold withStyles
  congr 2
  funext name
  show _ = (lookupIn SpecStyle.all name).elim _ _
  cases lookupIn SpecStyle.all name <;> rfl

/-- Among names of which one denotes no style, there is a first such name. -/
theorem exists_isFirstUnknown (h : name ∈ names) (hnone : full.lookup name = none) :
    ∃ first, IsFirstUnknown first names := by
  have hsome : (names.find? fun name => (full.lookup name).isNone).isSome = true :=
    List.find?_isSome.2 ⟨name, h, by rw [hnone]; rfl⟩
  obtain ⟨first, hfirst⟩ := Option.isSome_iff_exists.1 hsome
  obtain ⟨hunknown, front, back, hsplit, hfront⟩ := List.find?_eq_some_iff_append.1 hfirst
  refine ⟨first, front, back, hsplit, fun known hknown => ?_, Option.isNone_iff_eq_none.1 hunknown⟩
  exact Option.ne_none_iff_isSome.2 (by simpa using hfront known hknown)

/-- The selection fails on the first name that denotes no style. -/
theorem withStyles_eq_error_iff {e : ScanError} :
    withStyles names = .error e ↔ ∃ name, IsFirstUnknown name names ∧ e = .unknownStyle name := by
  have hmap : withStyles names = .error e ↔ names.mapM select = .error e := by
    rw [withStyles_eq]
    cases names.mapM select <;> simp [bind, Except.bind]
  have hknown : ∀ name, (∃ s, select name = .ok s) ↔ full.lookup name ≠ none := fun name => by
    simp only [select_eq_ok_iff, Option.ne_none_iff_exists']
  rw [hmap, mapM_eq_error_iff]
  simp only [hknown, select_eq_error_iff, IsFirstUnknown]
  constructor
  · rintro ⟨front, name, back, hsplit, hfront, hnone, he⟩
    exact ⟨name, ⟨front, back, hsplit, hfront, hnone⟩, he⟩
  · rintro ⟨name, ⟨front, back, hsplit, hfront, hnone⟩, he⟩
    exact ⟨front, name, back, hsplit, hfront, hnone, he⟩

/-- A registry that is made of some names is their selection. -/
theorem isSelectionOf_of_withStyles (h : withStyles names = .ok r) : r.IsSelectionOf names := by
  rw [withStyles_eq] at h
  cases hselected : names.mapM select with
  | error e =>
    rw [hselected] at h
    cases h
  | ok selected =>
    rw [hselected] at h
    obtain rfl : ⟨SpecStyle.all.filter selected.contains⟩ = r := Except.ok.inj h
    refine ⟨fun s => ?_, SpecStyle.nodup_all.filter _, List.filter_sublist⟩
    rw [List.mem_filter, List.contains_iff_mem, mem_iff_of_mapM_eq_ok hselected,
      and_iff_right s.mem_all]
    simp only [select_eq_ok_iff]

/-- Names that all denote styles select a registry. -/
theorem exists_withStyles_iff :
    (∃ r, withStyles names = .ok r) ↔ ∀ name ∈ names, full.lookup name ≠ none := by
  constructor
  · rintro ⟨r, h⟩ name hname hnone
    obtain ⟨first, hfirst⟩ := exists_isFirstUnknown hname hnone
    cases h.symm.trans (withStyles_eq_error_iff.2 ⟨first, hfirst, rfl⟩)
  · intro hknown
    cases h : withStyles names with
    | error e =>
      obtain ⟨name, ⟨front, back, rfl, -, hnone⟩, -⟩ := withStyles_eq_error_iff.1 h
      exact absurd hnone (hknown name (by simp))
    | ok r => exact ⟨r, rfl⟩

/-- **Selecting and looking up styles by name agree.** The full registry finds the style that is
called so. The selection fails on the first name that it does not find; else it gives the styles
that the names denote, whatever their order and how often they are repeated. The selected registry
finds by a name what the full one finds, as far as it was selected, and does not distinguish
spellings. -/
theorem withStyles_coherent (names : List String) :
    (∀ (name : String) (s : SpecStyle), full.lookup name = some s ↔ s.IsCalled name) ∧
    (∀ e, withStyles names = .error e ↔
      ∃ name, IsFirstUnknown name names ∧ e = .unknownStyle name) ∧
    ((∃ r, withStyles names = .ok r) ↔ ∀ name ∈ names, full.lookup name ≠ none) ∧
    ∀ r, withStyles names = .ok r →
      r.IsSelectionOf names ∧
      (∀ names', (∀ name, name ∈ names' ↔ name ∈ names) → withStyles names' = .ok r) ∧
      (∀ name s, r.lookup name = some s ↔ full.lookup name = some s ∧ r.contains s = true) ∧
      ∀ a b, SameSpelling a.toList b.toList → (∀ s : SpecStyle, s.fqName ≠ a ∧ s.fqName ≠ b) →
        r.lookup a = r.lookup b := by
  refine ⟨fun _ _ => full_lookup_eq_some_iff, fun e => withStyles_eq_error_iff,
    exists_withStyles_iff, fun r hr => ?_⟩
  have hselection := isSelectionOf_of_withStyles hr
  refine ⟨hselection, fun names' hsame => ?_, fun name s => lookup_eq_some_iff,
    fun a b h hqualified => lookup_congr h hqualified⟩
  have hknown : ∀ name ∈ names', full.lookup name ≠ none := fun name hname =>
    exists_withStyles_iff.1 ⟨r, hr⟩ name ((hsame name).1 hname)
  obtain ⟨r', hr'⟩ := exists_withStyles_iff.2 hknown
  rw [hr', (hselection.congr hsame).unique (isSelectionOf_of_withStyles hr')]

/-- Two of the styles, selected against their order, and again with a repetition. -/
theorem withStyles_two :
    withStyles ["Fun-Spec", "STRING_SPEC"] = .ok ⟨[.stringSpec, .funSpec]⟩ ∧
      withStyles ["STRING_SPEC", "Fun-Spec", "STRING_SPEC"] = .ok ⟨[.stringSpec, .funSpec]⟩ ∧
      lookup ⟨[.stringSpec, .funSpec]⟩ "fun spec" =
        lookup ⟨[.stringSpec, .funSpec]⟩ "FUN__Spec" := by
  have hselected : withStyles ["Fun-Spec", "STRING_SPEC"] = .ok ⟨[.stringSpec, .funSpec]⟩ := by rfl
  obtain ⟨-, -, -, hregistry⟩ := withStyles_coherent ["Fun-Spec", "STRING_SPEC"]
  obtain ⟨-, hsame, -, hspelling⟩ := hregistry _ hselected
  have hmembers : ∀ name, name ∈ ["STRING_SPEC", "Fun-Spec", "STRING_SPEC"] ↔
      name ∈ ["Fun-Spec", "STRING_SPEC"] := by
    intro name
    simp only [List.mem_cons, List.not_mem_nil, or_false]
    grind
  have hspelled : SameSpelling "fun spec".toList "FUN__Spec".toList :=
    normalize_eq_iff_sameSpelling.1 (by decide)
  have hqualified : ∀ s : SpecStyle, s.fqName ≠ "fun spec" ∧ s.fqName ≠ "FUN__Spec" := by
    intro s
    cases s <;> decide
  exact ⟨hselected, hsame _ hmembers, hspelling _ _ hspelled hqualified⟩

end StyleRegistry

end KotestOutline
