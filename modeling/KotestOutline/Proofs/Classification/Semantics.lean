import KotestOutline.Proofs.Classification.Chain
import KotestOutline.Proofs.Resolution.Contents
import KotestOutline.Proofs.Style.Name
import KotestOutline.Syntax

/-!
# What a classification means

The style of a class, read off its superclass chain, and how it depends on the styles in question.
-/

namespace KotestOutline

/-!
## What a classification means

The classification of a class, read off its superclass chain: the style of the first registered base
on the chain, or else the style that the first unresolved name on it is short for. Either counts
only as long as no name on the way to it is met twice.
-/

/-- A class is no base of a registry if no enabled style has it. -/
theorem StyleRegistry.isSpecBase_eq_false_iff {r : StyleRegistry} {fqName : String} :
    r.isSpecBase fqName = false ↔ ∀ style ∈ r.styles, style.fqName ≠ fqName := by
  rw [isSpecBase, findByFqName?, Option.isSome_eq_false_iff, Option.isNone_iff_eq_none]
  exact Classifier.find?_fqName_eq_none_iff

namespace Classifier

variable {c : Classifier} {n : Node} {k : Nat}

/-- Bases tell the styles apart, so a search by base finds the style. -/
theorem find?_fqName_eq_some_iff {candidates : List SpecStyle} {fqName : String}
    {style : SpecStyle} :
    candidates.find? (·.fqName == fqName) = some style ↔
      style ∈ candidates ∧ style.fqName = fqName :=
  find?_key_eq_some_iff fun _ _ _ _ hname => SpecStyle.fqName_injective hname

/-- A written name is short for a style just if its last segment is the short name of the base. -/
theorem matchShortName_eq_some_iff {candidates : List SpecStyle} {written : String}
    {style : SpecStyle} :
    matchShortName candidates written = some style ↔
      style ∈ candidates ∧ QualifiedName.short written = style.shortName := by
  unfold matchShortName
  have hkey : ∀ s ∈ candidates, ∀ s' ∈ candidates, s.shortName = s'.shortName → s = s' :=
    fun _ _ _ _ hname => SpecStyle.shortName_injective hname
  rw [find?_key_eq_some_iff hkey, eq_comm (a := style.shortName)]

/-- It is short for none of some styles if its last segment is no short name of theirs. -/
theorem matchShortName_eq_none_iff {candidates : List SpecStyle} {written : String} :
    matchShortName candidates written = none ↔
      ∀ style ∈ candidates, style.shortName ≠ QualifiedName.short written := by
  unfold matchShortName
  simp

/-! ### The way to a place of the chain -/

/-- Of the symbols before place `k`, none is a registered base and none repeats a name. -/
def Unbroken (c : Classifier) (n : Node) (k : Nat) : Prop :=
  ∀ i < k, ∀ s, c.chainSymbol n i = some s →
    c.registry.isSpecBase s.fqName = false ∧ s.fqName ∉ c.seenBefore n i

/-- On a chain that reaches place `k`, the walk comes there exactly on an unbroken way. -/
theorem unbroken_iff_goesOn (hk : (c.chainName n k).isSome = true) :
    c.Unbroken n k ↔ ∀ i < k, c.GoesOn n c.registry.styles i := by
  apply forall_congr'
  intro i
  apply forall_congr'
  intro hi
  obtain ⟨s, hs, hsuper⟩ := exists_chainSymbol_of_lt hi hk
  rw [goesOn_iff hs, ← StyleRegistry.isSpecBase_eq_false_iff]
  constructor
  · intro h
    exact ⟨(h s hs).1, (h s hs).2, hsuper⟩
  · rintro ⟨hbase, hnew, -⟩ s' hs'
    cases hs.symm.trans hs'
    exact ⟨hbase, hnew⟩

/-- Where the walk comes to and does not go on, it ends with its verdict. -/
theorem classify_eq_verdict (hk : (c.chainName n k).isSome = true) (hway : c.Unbroken n k)
    (hstop : ¬ c.GoesOn n c.registry.styles k) :
    c.classify n = c.verdict n c.registry.styles true k :=
  walk_eq_verdict ((unbroken_iff_goesOn hk).1 hway) hstop

/-- The walk ends at some place of the chain, if there is a chain. -/
theorem exists_unbroken_not_goesOn (h : (superTypeName? n).isSome = true) :
    ∃ k, (c.chainName n k).isSome = true ∧ c.Unbroken n k ∧
      ¬ c.GoesOn n c.registry.styles k := by
  obtain ⟨k, hpass, hstop⟩ := exists_first_not_goesOn c n c.registry.styles
  have hk : (c.chainName n k).isSome = true := by
    cases k with
    | zero =>
      rw [chainName, Option.isSome_map]
      exact h
    | succ k =>
      obtain ⟨s, hs, -, -, hsuper⟩ := hpass k (Nat.lt_succ_self k)
      obtain ⟨next, hnext⟩ := Option.isSome_iff_exists.1 hsuper
      rw [chainName_succ_eq_some_iff.2 ⟨s, hs, hnext, rfl⟩]
      rfl
  exact ⟨k, hk, (unbroken_iff_goesOn hk).2 hpass, hstop⟩

/-- A class without a superclass has no style. -/
theorem classify_eq_none_of_superTypeName? (h : superTypeName? n = none) :
    c.classify n = none := by
  rw [classify, walk, h, Option.bind_none]

/-- A class with a style has a superclass. -/
theorem isSome_superTypeName? (h : (c.classify n).isSome = true) :
    (superTypeName? n).isSome = true := by
  cases hwritten : superTypeName? n with
  | none =>
    rw [classify_eq_none_of_superTypeName? hwritten] at h
    cases h
  | some written => rfl

/-- A name without meaning is answered with the style that it is short for. -/
theorem classify_of_unresolved {written : String} {context : ImportContext}
    (hname : c.chainName n k = some (written, context)) (hm : c.meaning? written context = none)
    (hway : c.Unbroken n k) :
    c.classify n = (matchShortName c.registry.styles written).map (⟨·, .textual⟩) := by
  have hstop : ¬ c.GoesOn n c.registry.styles k :=
    not_goesOn_of_chainSymbol_eq_none ((chainSymbol_eq hname).trans hm)
  have hk : (c.chainName n k).isSome = true := by
    rw [hname]
    rfl
  rw [classify_eq_verdict hk hway hstop, verdict_of_unresolved hname hm, if_pos rfl]

/-- A symbol that is not passed is answered with the style that it is the base of. -/
theorem classify_of_chainSymbol {s : ClassSymbol} (hs : c.chainSymbol n k = some s)
    (hway : c.Unbroken n k) (hstop : ¬ c.GoesOn n c.registry.styles k) :
    c.classify n = (c.registry.styles.find? (·.fqName == s.fqName)).map (⟨·, .resolved⟩) := by
  rw [classify_eq_verdict (isSome_chainName_of_chainSymbol hs) hway hstop,
    verdict_of_chainSymbol hs]

/-- Every chain is followed to one of these two ends. -/
theorem exists_classify_eq (h : (superTypeName? n).isSome = true) :
    ∃ k, c.Unbroken n k ∧
      ((∃ written context, c.chainName n k = some (written, context) ∧
          c.meaning? written context = none ∧
          c.classify n = (matchShortName c.registry.styles written).map (⟨·, .textual⟩)) ∨
        ∃ s, c.chainSymbol n k = some s ∧ ¬ c.GoesOn n c.registry.styles k ∧
          c.classify n =
            (c.registry.styles.find? (·.fqName == s.fqName)).map (⟨·, .resolved⟩)) := by
  obtain ⟨k, hk, hway, hstop⟩ := exists_unbroken_not_goesOn (c := c) h
  refine ⟨k, hway, ?_⟩
  obtain ⟨⟨written, context⟩, hname⟩ := Option.isSome_iff_exists.1 hk
  cases hm : c.meaning? written context with
  | none => exact Or.inl ⟨written, context, hname, hm, classify_of_unresolved hname hm hway⟩
  | some s =>
    have hs : c.chainSymbol n k = some s := (chainSymbol_eq hname).trans hm
    exact Or.inr ⟨s, hs, hstop, classify_of_chainSymbol hs hway hstop⟩

/-! ### The three kinds of answer -/

/-- The chain comes, on an unbroken way, to a symbol that is a registered base. -/
theorem classify_eq_resolved_iff (style : SpecStyle) :
    c.classify n = some ⟨style, .resolved⟩ ↔
      style ∈ c.registry.styles ∧ ∃ k base, c.chainSymbol n k = some base ∧
        base.fqName = style.fqName ∧ c.Unbroken n k := by
  constructor
  · intro h
    have hwritten : (superTypeName? n).isSome = true := isSome_superTypeName? (by rw [h]; rfl)
    obtain ⟨k, hway, ⟨written, context, -, -, hend⟩ | ⟨base, hs, -, hend⟩⟩ :=
      exists_classify_eq (c := c) hwritten
    · obtain ⟨other, -, hother⟩ := Option.map_eq_some_iff.1 (hend.symm.trans h)
      cases hother
    · obtain ⟨other, hfound, hother⟩ := Option.map_eq_some_iff.1 (hend.symm.trans h)
      cases hother
      obtain ⟨hmem, hfq⟩ := find?_fqName_eq_some_iff.1 hfound
      exact ⟨hmem, k, base, hs, hfq.symm, hway⟩
  · rintro ⟨hmem, k, base, hs, hfq, hway⟩
    have hstop : ¬ c.GoesOn n c.registry.styles k := by
      rw [goesOn_iff hs]
      exact fun h => h.1 style hmem hfq.symm
    rw [classify_of_chainSymbol hs hway hstop, find?_fqName_eq_some_iff.2 ⟨hmem, hfq.symm⟩]
    rfl

/-- The chain comes, on an unbroken way, to a name without meaning that is short for a style. -/
theorem classify_eq_textual_iff (style : SpecStyle) :
    c.classify n = some ⟨style, .textual⟩ ↔
      style ∈ c.registry.styles ∧ ∃ k written context,
        c.chainName n k = some (written, context) ∧ c.meaning? written context = none ∧
        QualifiedName.short written = style.shortName ∧ c.Unbroken n k := by
  constructor
  · intro h
    have hwritten : (superTypeName? n).isSome = true := isSome_superTypeName? (by rw [h]; rfl)
    obtain ⟨k, hway, ⟨written, context, hname, hm, hend⟩ | ⟨base, -, -, hend⟩⟩ :=
      exists_classify_eq (c := c) hwritten
    · obtain ⟨other, hfound, hother⟩ := Option.map_eq_some_iff.1 (hend.symm.trans h)
      cases hother
      obtain ⟨hmem, hshort⟩ := matchShortName_eq_some_iff.1 hfound
      exact ⟨hmem, k, written, context, hname, hm, hshort, hway⟩
    · obtain ⟨other, -, hother⟩ := Option.map_eq_some_iff.1 (hend.symm.trans h)
      cases hother
  · rintro ⟨hmem, k, written, context, hname, hm, hshort, hway⟩
    rw [classify_of_unresolved hname hm hway, matchShortName_eq_some_iff.2 ⟨hmem, hshort⟩]
    rfl

/-- The chain is empty, or it comes on an unbroken way to its last symbol, to a name met before, or
to a name without meaning, and neither is a registered base nor short for a style. -/
theorem classify_eq_none_iff :
    c.classify n = none ↔
      superTypeName? n = none ∨ ∃ k, c.Unbroken n k ∧
        ((∃ last, c.chainSymbol n k = some last ∧ c.registry.isSpecBase last.fqName = false ∧
            last.superType = none) ∨
          (∃ again, c.chainSymbol n k = some again ∧
            c.registry.isSpecBase again.fqName = false ∧ again.fqName ∈ c.seenBefore n k) ∨
          (∃ written context, c.chainName n k = some (written, context) ∧
            c.meaning? written context = none ∧
            ∀ style ∈ c.registry.styles, style.shortName ≠ QualifiedName.short written)) := by
  constructor
  · intro h
    cases hwritten : superTypeName? n with
    | none => exact Or.inl rfl
    | some first =>
      obtain ⟨k, hway, ⟨written, context, hname, hm, hend⟩ | ⟨s, hs, hstop, hend⟩⟩ :=
        exists_classify_eq (c := c) (n := n) (by rw [hwritten]; rfl)
      · have hshort := matchShortName_eq_none_iff.1 (Option.map_eq_none_iff.1 (hend.symm.trans h))
        exact Or.inr ⟨k, hway, Or.inr (Or.inr ⟨written, context, hname, hm, hshort⟩)⟩
      · have hbase := find?_fqName_eq_none_iff.1 (Option.map_eq_none_iff.1 (hend.symm.trans h))
        have hfree := StyleRegistry.isSpecBase_eq_false_iff.2 hbase
        rw [goesOn_iff hs] at hstop
        refine Or.inr ⟨k, hway, ?_⟩
        by_cases hseen : s.fqName ∈ c.seenBefore n k
        · exact Or.inr (Or.inl ⟨s, hs, hfree, hseen⟩)
        · refine Or.inl ⟨s, hs, hfree, ?_⟩
          cases hsuper : s.superType with
          | none => rfl
          | some next => exact absurd ⟨hbase, hseen, by rw [hsuper]; rfl⟩ hstop
  · rintro (h | ⟨k, hway, ⟨s, hs, hfree, hsuper⟩ | ⟨s, hs, hfree, hseen⟩ |
      ⟨written, context, hname, hm, hshort⟩⟩)
    · exact classify_eq_none_of_superTypeName? h
    · have hstop : ¬ c.GoesOn n c.registry.styles k := by
        rw [goesOn_iff hs, hsuper]
        exact fun h => Bool.false_ne_true h.2.2
      have hbase := find?_fqName_eq_none_iff.2 (StyleRegistry.isSpecBase_eq_false_iff.1 hfree)
      rw [classify_of_chainSymbol hs hway hstop, hbase, Option.map_none]
    · have hstop : ¬ c.GoesOn n c.registry.styles k := by
        rw [goesOn_iff hs]
        exact fun h => h.2.1 hseen
      have hbase := find?_fqName_eq_none_iff.2 (StyleRegistry.isSpecBase_eq_false_iff.1 hfree)
      rw [classify_of_chainSymbol hs hway hstop, hbase, Option.map_none]
    · rw [classify_of_unresolved hname hm hway, matchShortName_eq_none_iff.2 hshort,
        Option.map_none]

/-- A chain of distinct symbols that are no bases is followed to the base at its end, however long
it is. -/
theorem classify_of_distinct_path {path : List ClassSymbol} {base : ClassSymbol}
    {style : SpecStyle} (hpath : ∀ i (h : i < path.length), c.chainSymbol n i = some path[i])
    (hbase : c.chainSymbol n path.length = some base)
    (hdistinct : ((classFqName? n).toList ++ path.map ClassSymbol.fqName).Nodup)
    (hfree : ∀ s ∈ path, c.registry.isSpecBase s.fqName = false)
    (hmem : style ∈ c.registry.styles) (hfq : base.fqName = style.fqName) :
    c.classify n = some ⟨style, .resolved⟩ := by
  refine (classify_eq_resolved_iff style).2 ⟨hmem, path.length, base, hbase, hfq, ?_⟩
  intro i hi s hs
  cases (hpath i hi).symm.trans hs
  refine ⟨hfree _ (List.getElem_mem hi), fun hseen => ?_⟩
  obtain ⟨-, hnames, hown⟩ := List.nodup_append.1 hdistinct
  rcases mem_seenBefore_iff.1 hseen with hclass | ⟨j, hj, s', hs', hname⟩
  · exact hown _ (Option.mem_toList.2 hclass) _ (List.mem_map_of_mem (List.getElem_mem hi)) rfl
  · cases (hpath j (by omega)).symm.trans hs'
    have hij := List.pairwise_iff_getElem.1 (List.pairwise_map.1 hnames) j i (by omega) hi hj
    exact hij hname

/-- **Classification is the semantics of the superclass chain.** A class is `resolved` of a style
when its chain reaches the base of the style, and `textual` when it reaches a name without meaning
that is short for the style; in both cases no registered base and no repeated name may come
before. Every other class has no style. -/
theorem classify_iff_superclass_chain (c : Classifier) (n : Node) :
    (∀ style, c.classify n = some ⟨style, .resolved⟩ ↔
      style ∈ c.registry.styles ∧ ∃ k base, c.chainSymbol n k = some base ∧
        base.fqName = style.fqName ∧ c.Unbroken n k) ∧
    (∀ style, c.classify n = some ⟨style, .textual⟩ ↔
      style ∈ c.registry.styles ∧ ∃ k written context,
        c.chainName n k = some (written, context) ∧ c.meaning? written context = none ∧
        QualifiedName.short written = style.shortName ∧ c.Unbroken n k) ∧
    (c.classify n = none ↔
      superTypeName? n = none ∨ ∃ k, c.Unbroken n k ∧
        ((∃ last, c.chainSymbol n k = some last ∧ c.registry.isSpecBase last.fqName = false ∧
            last.superType = none) ∨
          (∃ again, c.chainSymbol n k = some again ∧
            c.registry.isSpecBase again.fqName = false ∧ again.fqName ∈ c.seenBefore n k) ∨
          (∃ written context, c.chainName n k = some (written, context) ∧
            c.meaning? written context = none ∧
            ∀ style ∈ c.registry.styles, style.shortName ≠ QualifiedName.short written))) ∧
    ∀ (path : List ClassSymbol) (base : ClassSymbol) (style : SpecStyle),
      (∀ i (h : i < path.length), c.chainSymbol n i = some path[i]) →
      c.chainSymbol n path.length = some base →
      ((classFqName? n).toList ++ path.map ClassSymbol.fqName).Nodup →
      (∀ s ∈ path, c.registry.isSpecBase s.fqName = false) →
      style ∈ c.registry.styles → base.fqName = style.fqName →
      c.classify n = some ⟨style, .resolved⟩ :=
  ⟨classify_eq_resolved_iff, classify_eq_textual_iff, classify_eq_none_iff,
    fun _ _ _ => classify_of_distinct_path⟩

/-- A file with one class, which extends `A`. -/
def extendingArena : Arena :=
  .ofRows
    [(0, .classDeclaration, none), (1, .identifier, some "T"), (1, .superTypeList, none),
      (3, .superTypeCallEntry, none), (4, .typeReference, some "A")]

/-- A project in which `A` extends `B` and `B` extends the base of Fun Spec. -/
def twoStepClassifier : Classifier :=
  ⟨.full, some (.index (.ofSymbols [⟨"A", some "B", .empty⟩,
    ⟨"B", some "io.kotest.core.spec.style.FunSpec", .empty⟩]))⟩

/-- Two classes lie between that class and the base, and the classification is resolved. -/
theorem classify_twoStep :
    ∃ n ∈ (Node.ofTree extendingArena.toTree).children,
      twoStepClassifier.chainSymbol n 0 = some ⟨"A", some "B", .empty⟩ ∧
      twoStepClassifier.chainSymbol n 2 = some (.external SpecStyle.funSpec.fqName) ∧
      twoStepClassifier.classify n = some ⟨.funSpec, .resolved⟩ := by
  let n := (Node.ofTree extendingArena.toTree).children.get ⟨0, by decide⟩
  let path : List ClassSymbol :=
    [⟨"A", some "B", .empty⟩, ⟨"B", some "io.kotest.core.spec.style.FunSpec", .empty⟩]
  have hpath : ∀ i (h : i < path.length), twoStepClassifier.chainSymbol n i = some path[i] := by
    decide
  have hbase : twoStepClassifier.chainSymbol n path.length =
      some (.external SpecStyle.funSpec.fqName) := by decide
  refine ⟨n, List.get_mem _ _, hpath 0 (by decide), hbase, ?_⟩
  obtain ⟨-, -, -, hfollowed⟩ := classify_iff_superclass_chain twoStepClassifier n
  exact hfollowed path _ .funSpec hpath hbase (by decide) (by decide) (by decide) rfl

end Classifier

/-!
## Narrowing the styles

Two walks along one superclass chain, one for some of the styles of the other. The walk for fewer
styles goes on at every symbol at which the other does, so it never ends earlier.

* `Classifier.exists_walk_of_subset`: a class that has a style among fewer has one among more. It
  may be another one, of a base that comes earlier on the chain.
* `Classifier.walk_eq_of_subset`: a class whose style is one of the fewer keeps it, with its tier.
* `Classifier.classify_narrowed` says both for registries, with their instances for one style.
-/

namespace Classifier

variable {c : Classifier} {n : Node} {narrow wide : List SpecStyle} {k : Nat}

/-! ### Passing symbols -/

/-- A symbol that is no base of any style is no base of fewer styles. -/
theorem GoesOn.of_subset (hsub : narrow ⊆ wide) (h : c.GoesOn n wide k) : c.GoesOn n narrow k := by
  obtain ⟨s, hs, hfree, hnew, hsuper⟩ := h
  exact ⟨s, hs, fun style hstyle => hfree style (hsub hstyle), hnew, hsuper⟩

/-- Where only the walk for fewer styles goes on stands the base of one of the others. -/
theorem exists_verdict_of_goesOn (hnarrow : c.GoesOn n narrow k) (hwide : ¬ c.GoesOn n wide k)
    (textual : Bool) :
    ∃ style ∈ wide, c.verdict n wide textual k = some ⟨style, .resolved⟩ := by
  obtain ⟨s, hs, -, hnew, hsuper⟩ := hnarrow
  rw [goesOn_iff hs] at hwide
  have hbase : ∃ style ∈ wide, style.fqName = s.fqName := by
    by_contra hnone
    push Not at hnone
    exact hwide ⟨hnone, hnew, hsuper⟩
  obtain ⟨style, hstyle, hfq⟩ := hbase
  refine ⟨style, hstyle, ?_⟩
  rw [verdict_of_chainSymbol hs, find?_fqName_eq_some_iff.2 ⟨hstyle, hfq⟩, Option.map_some]

/-! ### Verdicts -/

/-- The two ways to a verdict: the base of a candidate, or a name without meaning that is short for
one, if such names count. -/
theorem verdict_eq_some_iff {textual : Bool} {candidates : List SpecStyle}
    {found : Classification} :
    c.verdict n candidates textual k = some found ↔
      found.style ∈ candidates ∧
        ((found.confidence = .resolved ∧
            ∃ s, c.chainSymbol n k = some s ∧ found.style.fqName = s.fqName) ∨
          (found.confidence = .textual ∧ textual = true ∧ ∃ written context,
            c.chainName n k = some (written, context) ∧ c.meaning? written context = none ∧
            QualifiedName.short written = found.style.shortName)) := by
  obtain ⟨style, confidence⟩ := found
  cases hname : c.chainName n k with
  | none => simp [verdict, chainSymbol, hname]
  | some name =>
    obtain ⟨written, context⟩ := name
    cases hm : c.meaning? written context with
    | none =>
      rw [verdict_of_unresolved hname hm, chainSymbol_eq hname, hm]
      cases textual <;> cases confidence <;> simp [matchShortName_eq_some_iff, hm]
    | some s =>
      have hs : c.chainSymbol n k = some s := (chainSymbol_eq hname).trans hm
      rw [verdict_of_chainSymbol hs, hs]
      cases confidence <;> simp [find?_fqName_eq_some_iff, hm]

/-- Where a walk answers, it does not go on. -/
theorem not_goesOn_of_verdict {textual : Bool} {candidates : List SpecStyle}
    {found : Classification} (h : c.verdict n candidates textual k = some found) :
    ¬ c.GoesOn n candidates k := by
  obtain ⟨hmem, ⟨-, s, hs, hfq⟩ | ⟨-, -, written, context, hname, hm, -⟩⟩ :=
    verdict_eq_some_iff.1 h
  · rw [goesOn_iff hs]
    exact fun hon => hon.1 found.style hmem hfq
  · exact not_goesOn_of_chainSymbol_eq_none ((chainSymbol_eq hname).trans hm)

/-- A verdict holds for any candidates that have its style among them. -/
theorem verdict_of_mem {textual : Bool} {candidates others : List SpecStyle}
    {found : Classification} (h : c.verdict n candidates textual k = some found)
    (hmem : found.style ∈ others) : c.verdict n others textual k = some found :=
  verdict_eq_some_iff.2 ⟨hmem, (verdict_eq_some_iff.1 h).2⟩

/-! ### Walks -/

/-- A class that has a style among fewer styles has one among more. By the place where the walk for
more styles ends: it is that of the other walk, or a base stands there that the other passes. -/
theorem exists_walk_of_subset (hsub : narrow ⊆ wide) {textual : Bool} {found : Classification}
    (h : c.walk n narrow textual = some found) : ∃ first, c.walk n wide textual = some first := by
  obtain ⟨k, hpass, hstop, hwalk⟩ := exists_walk_eq_verdict c n narrow
  obtain ⟨k', hpass', hstop', hwalk'⟩ := exists_walk_eq_verdict c n wide
  rw [hwalk textual] at h
  rw [hwalk' textual]
  rcases Nat.lt_trichotomy k' k with hlt | heq | hgt
  · obtain ⟨style, -, hverdict⟩ := exists_verdict_of_goesOn (hpass k' hlt) hstop' textual
    exact ⟨_, hverdict⟩
  · rw [heq]
    exact ⟨found, verdict_of_mem h (hsub (verdict_eq_some_iff.1 h).1)⟩
  · exact absurd ((hpass' k hgt).of_subset hsub) hstop

/-- A class whose style is among fewer styles has it among them, in the same tier. Both walks end at
the same place: the one for fewer goes as far as the other, and has the same verdict there. -/
theorem walk_eq_of_subset (hsub : narrow ⊆ wide) {textual : Bool} {found : Classification}
    (h : c.walk n wide textual = some found) (hmem : found.style ∈ narrow) :
    c.walk n narrow textual = some found := by
  obtain ⟨k, hpass, -, hwalk⟩ := exists_walk_eq_verdict c n wide
  rw [hwalk textual] at h
  have hverdict := verdict_of_mem h hmem
  rw [walk_eq_verdict (fun i hi => (hpass i hi).of_subset hsub) (not_goesOn_of_verdict hverdict)]
  exact hverdict

/-- A walk answers only with candidates. -/
theorem style_mem_of_walk {candidates : List SpecStyle} {textual : Bool} {found : Classification}
    (h : c.walk n candidates textual = some found) : found.style ∈ candidates := by
  obtain ⟨written, -, hwalk⟩ := Option.bind_eq_some_iff.1 h
  exact style_mem_of_walkFrom hwalk

/-! ### Registries -/

/-- **Narrowing the styles is monotone.** A spec for fewer styles is a spec for more; and of a spec
whose style remains, style and tier remain as well. In particular a spec is one of its own style,
and a spec of any registered style is a spec. -/
theorem classify_narrowed (resolver : Option Resolver) (narrow wide : StyleRegistry)
    (hsub : narrow.styles ⊆ wide.styles) (n : Node) :
    (((mk narrow resolver).classify n).isSome = true →
      ((mk wide resolver).classify n).isSome = true) ∧
    (∀ found, (mk wide resolver).classify n = some found → found.style ∈ narrow.styles →
      (mk narrow resolver).classify n = some found) ∧
    (∀ found, (mk wide resolver).classify n = some found →
      (mk wide resolver).isSpecificationOf n found.style = true) ∧
    ∀ style ∈ wide.styles, (mk wide resolver).isSpecificationOf n style = true →
      (mk wide resolver).isSpecification n = true := by
  -- only its resolver counts when a classifier follows a chain for given styles
  have hsame : (mk narrow resolver).classify n = (mk wide resolver).walk n narrow.styles true :=
    walk_congr (fun _ _ => by rfl) n narrow.styles true
  rw [hsame]
  refine ⟨?more, ?fewer, ?own, ?one⟩
  case more =>
    intro h
    obtain ⟨found, hfound⟩ := Option.isSome_iff_exists.1 h
    exact Option.isSome_iff_exists.2 (exists_walk_of_subset hsub hfound)
  case fewer =>
    intro found hfound hmem
    exact walk_eq_of_subset hsub hfound hmem
  case own =>
    intro found hfound
    have hstyle : [found.style] ⊆ wide.styles :=
      List.cons_subset.2 ⟨style_mem_of_walk hfound, List.nil_subset _⟩
    rw [isSpecificationOf, walk_eq_of_subset hstyle hfound (List.mem_singleton_self _)]
    rfl
  case one =>
    intro style hstyle h
    obtain ⟨found, hfound⟩ := Option.isSome_iff_exists.1 h
    have hone : [style] ⊆ wide.styles := List.cons_subset.2 ⟨hstyle, List.nil_subset _⟩
    exact Option.isSome_iff_exists.2 (exists_walk_of_subset hone hfound)

/-- A project in which `A` extends the base of String Spec, and that base the one of Fun Spec. -/
def layeredResolver : Resolver :=
  .index (.ofSymbols [⟨"A", some "io.kotest.core.spec.style.StringSpec", .empty⟩,
    ⟨"io.kotest.core.spec.style.StringSpec", some "io.kotest.core.spec.style.FunSpec", .empty⟩])

/-- The class that extends `A` is a Fun Spec where no other style is enabled, and a String Spec
where all are. -/
theorem classify_layered :
    ∃ n ∈ (Node.ofTree extendingArena.toTree).children,
      (mk ⟨[.funSpec]⟩ (some layeredResolver)).classify n = some ⟨.funSpec, .resolved⟩ ∧
      (mk .full (some layeredResolver)).classify n = some ⟨.stringSpec, .resolved⟩ ∧
      (mk .full (some layeredResolver)).isSpecificationOf n .stringSpec = true ∧
      (mk .full (some layeredResolver)).isSpecification n = true := by
  let n := (Node.ofTree extendingArena.toTree).children.get ⟨0, by decide⟩
  have hfull : (mk .full (some layeredResolver)).classify n = some ⟨.stringSpec, .resolved⟩ := by
    decide
  have hsub : (StyleRegistry.mk [.funSpec]).styles ⊆ StyleRegistry.full.styles := by decide
  obtain ⟨-, -, hown, hone⟩ := classify_narrowed (some layeredResolver) ⟨[.funSpec]⟩ .full hsub n
  have hstring := hown _ hfull
  exact ⟨n, List.get_mem _ _, by decide, hfull, hstring, hone .stringSpec (by decide) hstring⟩

end Classifier

end KotestOutline
