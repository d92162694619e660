import KotestOutline.Proofs.Lowering.Call
import Mathlib.Data.List.Forall2

/-!
# Lists of rows without comments

A comment lowers to nothing, but a rule that goes by the position of a row counts it like any other
named row. This module compares a list of parts with the same list without some of its comments.

* `Part.IsIdle` is a comment in which no search finds anything.
* `Part.ShedsAll R` relates a list of parts to one with idle comments left out and the other parts
  replaced by related ones. A rule that gives nothing for a comment gives the same for both.
* `Part.behind_mergeCallee`: where two calls have the same callee (`Part.SameCallee`), their parts
  differ by comments behind it only (`Part.Behind`).
-/

namespace KotestOutline.Part

variable {β : Type} {kind : String} {p q c : Part} {ps qs : List Part}

/-! ### Comments -/

/-- The kinds of row that a supertype is searched for. -/
def searchedKinds : List String := ["constructor_invocation", "user_type", "value_arguments"]

/-- Whether a part is a comment that lowers to nothing and in which no search finds anything. -/
structure IsIdle (c : Part) : Prop where
  named : isNamed c = true
  comment : (row c).isComment = true
  sketches : sketches c = []
  below : ∀ q : Part, q ∈ c.preorder → isNamed q = true →
    q.row.kind ∉ searchedKinds ∧ q.row.isIdentifier = false

/-- A comment is of no kind that is no comment. -/
theorem IsIdle.isKind_eq_false (h : IsIdle c) (hkind : kind ∉ KindNames.comments) :
    isKind c kind = false := by
  apply beq_eq_false_iff_ne.2
  rintro rfl
  exact hkind (List.contains_iff_mem.1 h.comment)

/-- Suffixes are unwrapped in both halves of a list. -/
theorem unwrapSuffixes_append (ps qs : List Part) :
    unwrapSuffixes (ps ++ qs) = unwrapSuffixes ps ++ unwrapSuffixes qs :=
  List.flatMap_append

/-- An idle part is no suffix. -/
theorem IsIdle.unwrapSuffixes_cons (h : IsIdle c) (ps : List Part) :
    unwrapSuffixes (c :: ps) = c :: unwrapSuffixes ps := by
  simp [unwrapSuffixes, h.isKind_eq_false, KindNames.comments]

/-! ### Lists and optional values of related parts -/

section Options

variable {α γ : Type} {R : α → α → Prop} {x y : α} {a b : Option α}

/-- The first elements of related lists are related, if there are any. -/
theorem rel_head?_of_forall₂ {as bs : List α} (h : List.Forall₂ R as bs) :
    Option.Rel R as.head? bs.head? := by
  cases h with
  | nil => exact Option.Rel.none
  | cons hxy _ => exact Option.Rel.some hxy

/-- Of related lists, either both are empty or neither is. -/
theorem isEmpty_eq_of_forall₂ {as bs : List α} (h : List.Forall₂ R as bs) :
    as.isEmpty = bs.isEmpty := by
  cases h with
  | nil => rfl
  | cons => rfl

/-- The last elements of related lists are related, if there are any. -/
theorem rel_getLast?_of_forall₂ {as bs : List α} (h : List.Forall₂ R as bs) :
    Option.Rel R as.getLast? bs.getLast? := by
  rw [List.getLast?_eq_head?_reverse, List.getLast?_eq_head?_reverse]
  exact rel_head?_of_forall₂ (List.forall₂_reverse_iff.2 h)

/-- Of related options, either both are empty or both hold related values. -/
theorem eq_none_or_of_rel (h : Option.Rel R a b) :
    (a = none ∧ b = none) ∨ ∃ x y, a = some x ∧ b = some y ∧ R x y := by
  cases h with
  | some hxy => exact Or.inr ⟨_, _, rfl, rfl, hxy⟩
  | none => exact Or.inl ⟨rfl, rfl⟩

/-- The first of two options that holds a value is related to the first of two related ones. -/
theorem rel_or {a' b' : Option α} (h : Option.Rel R a b) (h' : Option.Rel R a' b') :
    Option.Rel R (a.or a') (b.or b') := by
  cases h with
  | some hxy => exact Option.Rel.some hxy
  | none => exact h'

/-- Related options stay related when related things are done to their values. -/
theorem rel_bind (h : Option.Rel R a b) {f : α → Option α}
    (hf : ∀ x y, R x y → Option.Rel R (f x) (f y)) : Option.Rel R (a.bind f) (b.bind f) := by
  cases h with
  | some hxy => exact hf _ _ hxy
  | none => exact Option.Rel.none

/-- The values of related options, or else related defaults, are related. -/
theorem rel_getD (h : Option.Rel R a b) (hxy : R x y) : R (a.getD x) (b.getD y) := by
  cases h with
  | some h => exact h
  | none => exact hxy

/-- A function that does not tell related values apart does not tell related options apart. -/
theorem map_eq_of_rel (h : Option.Rel R a b) {f : α → γ} (hf : ∀ x y, R x y → f x = f y) :
    a.map f = b.map f := by
  cases h with
  | some hxy => rw [Option.map_some, Option.map_some, hf _ _ hxy]
  | none => rfl

/-- Of related options, either both hold a value or neither does. -/
theorem isSome_eq_of_rel (h : Option.Rel R a b) : a.isSome = b.isSome := by
  cases h with
  | some => rfl
  | none => rfl

end Options

/-! ### Lists of parts -/

/-- Whether a list of parts is another one with idle comments left out and the other parts replaced
by related ones. -/
inductive ShedsAll (R : Part → Part → Prop) : List Part → List Part → Prop
  | nil : ShedsAll R [] []
  | keep {p q : Part} {ps qs : List Part} : R p q → ShedsAll R ps qs →
    ShedsAll R (p :: ps) (q :: qs)
  | drop {c : Part} {ps qs : List Part} : IsIdle c → ShedsAll R ps qs → ShedsAll R (c :: ps) qs

namespace ShedsAll

variable {R S : Part → Part → Prop}

/-- Lists with related parts are the same but for comments, none of them left out. -/
theorem of_forall₂ (h : List.Forall₂ R ps qs) : ShedsAll R ps qs := by
  induction h with
  | nil => exact nil
  | cons hpq _ ih => exact keep hpq ih

/-- A list is itself, with no comment left out. -/
theorem refl (h : ∀ p ∈ ps, R p p) : ShedsAll R ps ps :=
  of_forall₂ (List.forall₂_same.2 h)

/-- Comments may be left out in both halves of a list. -/
theorem append {ps' qs' : List Part} (h : ShedsAll R ps qs) (h' : ShedsAll R ps' qs') :
    ShedsAll R (ps ++ ps') (qs ++ qs') := by
  induction h with
  | nil => exact h'
  | keep hpq _ ih => exact keep hpq ih
  | drop hc _ ih => exact drop hc ih

/-- What parts of the list are related by may be replaced by what follows from it. -/
theorem imp_of_mem (h : ShedsAll R ps qs) (himp : ∀ p ∈ ps, ∀ q, R p q → S p q) :
    ShedsAll S ps qs := by
  induction h with
  | nil => exact nil
  | keep hpq _ ih =>
    exact keep (himp _ List.mem_cons_self _ hpq)
      (ih fun p hp => himp p (List.mem_cons_of_mem _ hp))
  | drop hc _ ih => exact drop hc (ih fun p hp => himp p (List.mem_cons_of_mem _ hp))

/-- What parts are related by may be replaced by what follows from it. -/
theorem imp (h : ShedsAll R ps qs) (himp : ∀ p q, R p q → S p q) : ShedsAll S ps qs :=
  h.imp_of_mem fun p _ => himp p

/-- A list only becomes shorter when comments are left out. -/
theorem length_le (h : ShedsAll R ps qs) : qs.length ≤ ps.length := by
  induction h with
  | nil => exact Nat.le_refl _
  | keep _ _ ih => exact Nat.succ_le_succ ih
  | drop _ _ ih => exact Nat.le_succ_of_le ih

/-- Without a loss the lists agree part by part. -/
theorem forall₂ (h : ShedsAll R ps qs) (hlength : ps.length = qs.length) :
    List.Forall₂ R ps qs := by
  induction h with
  | nil => exact List.Forall₂.nil
  | keep hpq _ ih => exact List.Forall₂.cons hpq (ih (Nat.succ.inj hlength))
  | drop _ hrest _ =>
    have hle := hrest.length_le
    rw [List.length_cons] at hlength
    omega

/-! A rule that gives nothing for a comment, and the same for related parts, gives the same. -/

/-- What is collected from a list stays the same, if comments add nothing to it. -/
theorem flatMap_eq (h : ShedsAll R ps qs) {f : Part → List β} (hdrop : ∀ c, IsIdle c → f c = [])
    (hkeep : ∀ p q, R p q → f p = f q) : ps.flatMap f = qs.flatMap f := by
  induction h with
  | nil => rfl
  | keep hpq _ ih => rw [List.flatMap_cons, List.flatMap_cons, hkeep _ _ hpq, ih]
  | drop hc _ ih => rw [List.flatMap_cons, hdrop _ hc, List.nil_append, ih]

/-- Whether any part has a property stays the same, if comments do not have it. -/
theorem any_eq (h : ShedsAll R ps qs) {f : Part → Bool} (hdrop : ∀ c, IsIdle c → f c = false)
    (hkeep : ∀ p q, R p q → f p = f q) : ps.any f = qs.any f := by
  induction h with
  | nil => rfl
  | keep hpq _ ih => rw [List.any_cons, List.any_cons, hkeep _ _ hpq, ih]
  | drop hc _ ih => rw [List.any_cons, hdrop _ hc, Bool.false_or, ih]

/-- What is selected by a property that comments do not have agrees part by part. -/
theorem forall₂_filter (h : ShedsAll R ps qs) {f : Part → Bool}
    (hdrop : ∀ c, IsIdle c → f c = false) (hkeep : ∀ p q, R p q → f p = f q) :
    List.Forall₂ R (ps.filter f) (qs.filter f) := by
  induction h with
  | nil => exact List.Forall₂.nil
  | @keep p q _ _ hpq _ ih =>
    rw [List.filter_cons, List.filter_cons, ← hkeep p q hpq]
    split
    · exact List.Forall₂.cons hpq ih
    · exact ih
  | drop hc _ ih => rwa [List.filter_cons_of_neg (by simp [hdrop _ hc])]

/-- So does the first part with such a property. -/
theorem rel_find? (h : ShedsAll R ps qs) {f : Part → Bool}
    (hdrop : ∀ c, IsIdle c → f c = false) (hkeep : ∀ p q, R p q → f p = f q) :
    Option.Rel R (ps.find? f) (qs.find? f) := by
  rw [← List.head?_filter, ← List.head?_filter]
  exact rel_head?_of_forall₂ (h.forall₂_filter hdrop hkeep)

/-- What is found in a list stays the same, if nothing is found in comments. -/
theorem findSome?_eq (h : ShedsAll R ps qs) {f : Part → Option β}
    (hdrop : ∀ c, IsIdle c → f c = none) (hkeep : ∀ p q, R p q → f p = f q) :
    ps.findSome? f = qs.findSome? f := by
  induction h with
  | nil => rfl
  | keep hpq _ ih => rw [List.findSome?_cons, List.findSome?_cons, hkeep _ _ hpq, ih]
  | drop hc _ ih => rw [List.findSome?_cons_of_isNone (by simp [hdrop _ hc]), ih]

end ShedsAll

/-! ### The parts of a call -/

/-- Like `ShedsAll`, with nothing left out before the first part that is kept as the callee. -/
inductive Behind (R : Part → Part → Prop) : List Part → List Part → Prop
  | nil : Behind R [] []
  | token {p q : Part} {ps qs : List Part} : isNamed p = false → R p q → Behind R ps qs →
    Behind R (p :: ps) (q :: qs)
  | callee {p q : Part} {ps qs : List Part} : isNamed p = true → R p q → ShedsAll R ps qs →
    Behind R (p :: ps) (q :: qs)

/-- Whether the lists of rows of two calls have the same callee: nothing is left out, or only
something behind a callee whose parts the call does not take in. -/
def SameCallee (ps qs : List Part) : Prop :=
  ps.length = qs.length ∨
    ((∃ callee, ps.find? isNamed = some callee ∧ (row callee).isComment = false) ∧
      isMerged ps = false ∧ isMerged qs = false)

/-- A comment behind a callee leaves the callee, and nothing is taken in across it. -/
theorem IsIdle.sameCallee {front back : List Part} {callee : Part} (hc : IsIdle c)
    (hfirst : front.find? isNamed = some callee) (hcomment : (row callee).isComment = false)
    (h : isMerged (front ++ back) = false) :
    SameCallee (front ++ c :: back) (front ++ back) := by
  refine Or.inr ⟨⟨callee, ?_, hcomment⟩, ?_, h⟩
  · rw [List.find?_append, hfirst, Option.some_or]
  · rw [List.find?_eq_head?_dropWhile_not] at hfirst
    obtain ⟨rest, hrest⟩ := List.head?_eq_some_iff.1 hfirst
    have hall : (rest ++ c :: back).all (fun p => !p.isNamed || p.isKind "annotated_lambda") =
        false := by
      apply List.all_eq_false.2
      exact ⟨c, by simp, by simp [hc.named, hc.isKind_eq_false, KindNames.comments]⟩
    simp [isMerged, List.dropWhile_append, hrest, takesIn, mayExtend, hall]

section Calls

variable {R : Part → Part → Prop}

namespace Behind

/-- Comments left out behind the callee are comments left out. -/
theorem shedsAll (h : Behind R ps qs) : ShedsAll R ps qs := by
  induction h with
  | nil => exact ShedsAll.nil
  | token _ hpq _ ih => exact ShedsAll.keep hpq ih
  | callee _ hpq hrest => exact ShedsAll.keep hpq hrest

/-- Lists with related parts are the same, callee included. -/
theorem of_forall₂ (h : List.Forall₂ R ps qs) : Behind R ps qs := by
  induction h with
  | nil => exact nil
  | @cons p q _ _ hpq hrest ih =>
    cases hnamed : isNamed p with
    | true => exact callee hnamed hpq (ShedsAll.of_forall₂ hrest)
    | false => exact token hnamed hpq ih

/-- What is left out stands behind a first named part that is no comment. -/
theorem of_find? (h : ShedsAll R ps qs) (hfirst : ps.find? isNamed = some c)
    (hcomment : (row c).isComment = false) : Behind R ps qs := by
  induction h with
  | nil => cases hfirst
  | @keep p _ _ _ hpq hrest ih =>
    cases hnamed : isNamed p with
    | true => exact callee hnamed hpq hrest
    | false =>
      rw [List.find?_cons_of_neg (by simp [hnamed])] at hfirst
      exact token hnamed hpq (ih hfirst)
  | drop hc _ _ =>
    rw [List.find?_cons_of_pos hc.named, Option.some.injEq] at hfirst
    rw [← hfirst, hc.comment] at hcomment
    cases hcomment

/-- Comments may be left out behind the callee in both halves of a list. -/
theorem append {ps' qs' : List Part} (h : Behind R ps qs) (h' : Behind R ps' qs') :
    Behind R (ps ++ ps') (qs ++ qs') := by
  induction h with
  | nil => exact h'
  | token hnamed hpq _ ih => exact token hnamed hpq ih
  | callee hnamed hpq hrest => exact callee hnamed hpq (hrest.append h'.shedsAll)

/-- Behind the tokens in front there is nothing, or there are two related callees. -/
theorem dropWhile (h : Behind R ps qs) (hrow : ∀ p q, R p q → row p = row q) :
    (ps.dropWhile (!isNamed ·) = [] ∧ qs.dropWhile (!isNamed ·) = []) ∨
      ∃ p q ps' qs', ps.dropWhile (!isNamed ·) = p :: ps' ∧
        qs.dropWhile (!isNamed ·) = q :: qs' ∧ R p q ∧ ShedsAll R ps' qs' := by
  induction h with
  | nil => exact Or.inl ⟨rfl, rfl⟩
  | @token p q _ _ hnamed hpq _ ih =>
    have hnamed' : isNamed q = false := by rwa [isNamed, ← hrow p q hpq]
    rwa [List.dropWhile_cons_of_pos (by simp [hnamed]),
      List.dropWhile_cons_of_pos (by simp [hnamed'])]
  | @callee p q _ _ hnamed hpq hrest =>
    have hnamed' : isNamed q = true := by rwa [isNamed, ← hrow p q hpq]
    rw [List.dropWhile_cons_of_neg (by simp [hnamed]),
      List.dropWhile_cons_of_neg (by simp [hnamed'])]
    exact Or.inr ⟨_, _, _, _, rfl, rfl, hpq, hrest⟩

end Behind

/-- Lists with related parts have related first stretches, if the test does not tell parts apart. -/
theorem forall₂_takeWhile (h : List.Forall₂ R ps qs) {f : Part → Bool}
    (hf : ∀ p q, R p q → f p = f q) :
    List.Forall₂ R (ps.takeWhile f) (qs.takeWhile f) := by
  induction h with
  | nil => exact List.Forall₂.nil
  | @cons p q _ _ hpq _ ih =>
    rw [List.takeWhile_cons, List.takeWhile_cons, ← hf p q hpq]
    split
    · exact List.Forall₂.cons hpq ih
    · exact List.Forall₂.nil

/-- Lists with related parts are related behind their first stretches, if the test does not tell
parts apart. -/
theorem forall₂_dropWhile (h : List.Forall₂ R ps qs) {f : Part → Bool}
    (hf : ∀ p q, R p q → f p = f q) :
    List.Forall₂ R (ps.dropWhile f) (qs.dropWhile f) := by
  induction h with
  | nil => exact List.Forall₂.nil
  | @cons p q _ _ hpq hrest ih =>
    rw [List.dropWhile_cons, List.dropWhile_cons, ← hf p q hpq]
    split
    · exact ih
    · exact List.Forall₂.cons hpq hrest

/-- Parts with one row are both named or both not. -/
theorem isNamed_eq_of_row_eq (h : row p = row q) : isNamed p = isNamed q := by
  rw [isNamed, isNamed, h]

/-- Parts with one row are of the same kinds. -/
theorem isKind_eq_of_row_eq (h : row p = row q) (kind : String) :
    isKind p kind = isKind q kind := by
  rw [isKind, isKind, h]

/-- Calls with one row and related parts behind it may both be taken in or both not. -/
theorem mayExtend_eq (hpq : row p = row q) (h : List.Forall₂ R ps qs)
    (hrow : ∀ p q, R p q → row p = row q) : mayExtend p ps = mayExtend q qs := by
  have hall : ∀ f : Part → Bool, (∀ p q, row p = row q → f p = f q) → ps.all f = qs.all f := by
    intro f hf
    induction h with
    | nil => rfl
    | cons hpq _ ih => rw [List.all_cons, List.all_cons, hf _ _ (hrow _ _ hpq), ih]
  unfold mayExtend
  rw [isEmpty_eq_of_forall₂ h, isKind_eq_of_row_eq hpq, hall]
  intro p q hpq
  rw [isNamed_eq_of_row_eq hpq, isKind_eq_of_row_eq hpq]

/-- Parts that are the same but for comments wait for a lambda alike. -/
theorem awaitsLambda_eq (h : ShedsAll R ps qs) (hrow : ∀ p q, R p q → row p = row q) :
    awaitsLambda ps = awaitsLambda qs := by
  have hany : ∀ kind ∉ KindNames.comments, ps.any (isKind · kind) = qs.any (isKind · kind) := by
    intro kind hkind
    apply h.any_eq
    · exact fun c hc => hc.isKind_eq_false hkind
    · exact fun p q hpq => isKind_eq_of_row_eq (hrow p q hpq) kind
  simp [awaitsLambda, hany, KindNames.comments]

/-- One step: where a callee that is a call itself keeps its callee, so does the call. -/
theorem behind_mergeCallee (hrow : ∀ p q, R p q → row p = row q)
    (h : ShedsAll (fun p q => R p q ∧ (isKind p "call_expression" = true →
      Behind R (callParts p) (callParts q))) ps qs) (hsame : SameCallee ps qs) :
    Behind R (mergeCallee ps) (mergeCallee qs) := by
  rcases hsame with hlength | ⟨⟨callee, hfirst, hcomment⟩, hps, hqs⟩
  · -- nothing is left out here, so both lists have their callee at one place
    have hall := h.forall₂ hlength
    have hplain := hall.imp fun _ _ hpq => hpq.1
    have hfront := forall₂_takeWhile hplain fun p q hpq => (by
      rw [isNamed_eq_of_row_eq (hrow p q hpq)] : (!isNamed p) = !isNamed q)
    have hback := forall₂_dropWhile hall fun p q hpq => (by
      rw [isNamed_eq_of_row_eq (hrow p q hpq.1)] : (!isNamed p) = !isNamed q)
    unfold mergeCallee
    revert hback
    generalize ps.dropWhile (!isNamed ·) = ps'
    generalize qs.dropWhile (!isNamed ·) = qs'
    intro hback
    cases hback with
    | nil => exact Behind.of_forall₂ hplain
    | @cons callee callee' rest rest' hcallee hrest =>
      have hlater := hrest.imp fun _ _ hpq => hpq.1
      have hextend := mayExtend_eq (hrow _ _ hcallee.1) hlater hrow
      dsimp only
      by_cases hkind : isKind callee "call_expression" = true
      · have hparts := hcallee.2 hkind
        rw [takesIn, takesIn, hextend, awaitsLambda_eq hparts.shedsAll hrow]
        split
        · exact ((Behind.of_forall₂ hfront).append hparts).append (Behind.of_forall₂ hlater)
        · exact Behind.of_forall₂ hplain
      · have hnot : mayExtend callee rest = false := by simp [mayExtend, hkind]
        rw [takesIn, takesIn, ← hextend, hnot]
        exact Behind.of_forall₂ hplain
  · -- where something is left out behind the callee, neither list takes parts in
    rw [mergeCallee_of_isMerged_eq_false hps, mergeCallee_of_isMerged_eq_false hqs]
    exact Behind.of_find? (h.imp fun _ _ hpq => hpq.1) hfirst hcomment

end Calls

end KotestOutline.Part
