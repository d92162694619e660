import KotestOutline.Recognition
import Mathlib.Data.List.Dedup
import Mathlib.Data.List.Perm.Subperm

/-!
# Superclass chains

The chain of a class is the sequence of symbols that one gets by resolving its written superclass in
its file, then the superclass of each symbol in that symbol's own file. It is defined here without
regard to styles and without a bound; a cyclic hierarchy has an endless chain.

* `Classifier.chainName` and `Classifier.chainSymbol` are the chain, `Classifier.seenBefore` the
  names met on it.
* `Classifier.GoesOn` says when the walk passes a symbol, and `Classifier.verdict` what it answers
  at one that it does not pass.
* `Classifier.exists_walk_eq_verdict`: the walk answers with the verdict on the first symbol that it
  does not pass, and its bound on the number of steps always suffices: every symbol passed is
  declared under a name of its own.
-/

namespace KotestOutline

/-! ### Declared names -/

namespace ProjectIndex

variable {i : ProjectIndex} {fqName : String}

/-- The keys of an index are the names of its symbols. -/
theorem map_fqName_classes (i : ProjectIndex) :
    i.classes.map ClassSymbol.fqName = i.entries.map Prod.fst := by
  rw [classes, List.map_map]
  exact List.map_congr_left fun e he => (i.keyed e he).symm

/-- A name is found in an index if a symbol has it. -/
theorem isSome_get?_iff :
    (i.get? fqName).isSome = true ↔ fqName ∈ i.classes.map ClassSymbol.fqName := by
  rw [map_fqName_classes]
  simp [get?]

/-- What is found under a name has that name. -/
theorem fqName_of_get? {s : ClassSymbol} (h : i.get? fqName = some s) : s.fqName = fqName := by
  obtain ⟨e, he, rfl⟩ := Option.map_eq_some_iff.1 h
  rw [← i.keyed e (List.mem_of_find?_eq_some he)]
  simpa using List.find?_some he

end ProjectIndex

namespace Resolver

/-- The qualified names that a resolver has declarations for. -/
def declaredNames : Resolver → List String
  | index i => i.classes.map ClassSymbol.fqName
  | overlay o => (o.file.classes ++ o.base.elim [] ProjectIndex.classes).map ClassSymbol.fqName

/-- There are as many declared names as declarations, repeated ones included. -/
theorem length_declaredNames (r : Resolver) : r.declaredNames.length = r.size := by
  cases r with
  | index i => simp [declaredNames, size, ProjectIndex.size, ProjectIndex.classes]
  | overlay o =>
    cases h : o.base <;>
      simp [declaredNames, size, ProjectIndex.size, ProjectIndex.classes, h]

/-- Different names are not more than declarations. -/
theorem length_dedup_declaredNames_le (r : Resolver) : r.declaredNames.dedup.length ≤ r.size := by
  rw [← length_declaredNames]
  exact (List.dedup_sublist _).length_le

/-- A name is declared where its symbol is found. -/
theorem mem_declaredNames_iff {r : Resolver} {fqName : String} :
    fqName ∈ r.declaredNames ↔ (r.declared? fqName).isSome = true := by
  cases r with
  | index i => exact ProjectIndex.isSome_get?_iff.symm
  | overlay o =>
    rw [declaredNames, declared?, List.map_append, List.mem_append, Option.isSome_or,
      Bool.or_eq_true, ProjectIndex.isSome_get?_iff]
    cases o.base with
    | none => simp
    | some base =>
      rw [Option.bind_some, ProjectIndex.isSome_get?_iff]
      rfl

/-- What is declared under a name has that name. -/
theorem fqName_of_declared? {r : Resolver} {fqName : String} {s : ClassSymbol}
    (h : r.declared? fqName = some s) : s.fqName = fqName := by
  cases r with
  | index i => exact ProjectIndex.fqName_of_get? h
  | overlay o =>
    rcases Option.or_eq_some_iff.1 h with hfile | ⟨-, hbase⟩
    · exact ProjectIndex.fqName_of_get? hfile
    · obtain ⟨base, -, hget⟩ := Option.bind_eq_some_iff.1 hbase
      exact ProjectIndex.fqName_of_get? hget

/-- A symbol is found under the name that is asked for, declared or not. -/
@[simp] theorem fqName_declaredOrExternal (r : Resolver) (fqName : String) :
    (r.declaredOrExternal fqName).fqName = fqName := by
  unfold declaredOrExternal
  cases h : r.declared? fqName with
  | none => rfl
  | some s => exact fqName_of_declared? h

/-- The name of a symbol that is found is a declared one. -/
theorem fqName_mem_of_declared? {r : Resolver} {fqName : String} {s : ClassSymbol}
    (h : r.declared? fqName = some s) : s.fqName ∈ r.declaredNames := by
  rw [fqName_of_declared? h, mem_declaredNames_iff, h]
  rfl

/-- A symbol that has a superclass is a declared one, since a class outside the project is known by
its name only. -/
theorem fqName_mem_of_declaredOrExternal {r : Resolver} {fqName : String}
    (h : (r.declaredOrExternal fqName).superType.isSome = true) :
    (r.declaredOrExternal fqName).fqName ∈ r.declaredNames := by
  unfold declaredOrExternal at h ⊢
  cases hd : r.declared? fqName with
  | none =>
    rw [hd] at h
    cases h
  | some s => exact fqName_mem_of_declared? hd

/-- A simple name that means a class with a superclass means a declared one. -/
theorem fqName_mem_of_resolveSimple? {r : Resolver} {name : String} {context : ImportContext}
    {s : ClassSymbol} (h : r.resolveSimple? name context = some s)
    (hsuper : s.superType.isSome = true) : s.fqName ∈ r.declaredNames := by
  unfold resolveSimple? at h
  split at h
  · cases h
    exact fqName_mem_of_declaredOrExternal hsuper
  · rcases Option.or_eq_some_iff.1 h with hown | ⟨-, hwild⟩
    · exact fqName_mem_of_declared? hown
    · obtain ⟨package, -, hfound⟩ := List.exists_of_findSome?_eq_some hwild
      exact fqName_mem_of_declared? hfound

/-- Only declared symbols have a superclass. -/
theorem fqName_mem_of_resolve {r : Resolver} {name : String} {context : ImportContext}
    {s : ClassSymbol} (h : r.resolve name context = some s)
    (hsuper : s.superType.isSome = true) : s.fqName ∈ r.declaredNames := by
  unfold resolve at h
  split at h
  · unfold resolveQualified? at h
    split at h
    next found hd =>
      cases h
      exact fqName_mem_of_declared? hd
    next =>
      obtain ⟨⟨head, rest⟩, -, h⟩ := Option.bind_eq_some_iff.1 h
      dsimp only at h
      split at h
      · cases h
        cases hsuper
      · obtain ⟨outer, -, h⟩ := Option.bind_eq_some_iff.1 h
        cases h
        exact fqName_mem_of_declaredOrExternal hsuper
  · exact fqName_mem_of_resolveSimple? h hsuper

end Resolver

/-! ### The chain -/

namespace Classifier

variable {c : Classifier} {n : Node}

/-- What a name means to the classifier; without a resolver no name means anything. -/
def meaning? (c : Classifier) (written : String) (context : ImportContext) : Option ClassSymbol :=
  c.resolver.bind (·.resolve written context)

/-- The name after the first `k` symbols of the chain, with the context it is written in. -/
def chainName (c : Classifier) (n : Node) : Nat → Option (String × ImportContext)
  | 0 => (superTypeName? n).map (·, .ofNode n)
  | k + 1 => do
    let (written, context) ← chainName c n k
    let symbol ← c.meaning? written context
    let next ← symbol.superType
    return (next, symbol.context)

/-- The symbol number `k` of the chain, counted from 0. -/
def chainSymbol (c : Classifier) (n : Node) (k : Nat) : Option ClassSymbol :=
  (c.chainName n k).bind fun (written, context) => c.meaning? written context

/-- The names of the class and of the first `k` symbols of its chain, the last one first. -/
def seenBefore (c : Classifier) (n : Node) : Nat → List String
  | 0 => (classFqName? n).toList
  | k + 1 => ((c.chainSymbol n k).map ClassSymbol.fqName).toList ++ seenBefore c n k

/-- The symbol at a place of the chain is what the name there means. -/
theorem chainSymbol_eq {k : Nat} {written : String} {context : ImportContext}
    (h : c.chainName n k = some (written, context)) :
    c.chainSymbol n k = c.meaning? written context := by
  rw [chainSymbol, h, Option.bind_some]

/-- Without a resolver no name on the chain means anything. -/
theorem chainSymbol_eq_none_of_no_resolver (h : c.resolver = none) (k : Nat) :
    c.chainSymbol n k = none := by
  rw [chainSymbol, Option.bind_eq_none_iff]
  rintro ⟨written, context⟩ -
  show c.meaning? written context = none
  rw [meaning?, h, Option.bind_none]

/-- The chain is named beyond a symbol that has a superclass, and only there. -/
theorem chainName_succ_eq_some_iff {k : Nat} {written : String} {context : ImportContext} :
    c.chainName n (k + 1) = some (written, context) ↔
      ∃ s, c.chainSymbol n k = some s ∧ s.superType = some written ∧ s.context = context := by
  rw [chainName, chainSymbol]
  cases c.chainName n k with
  | none => simp
  | some name =>
    obtain ⟨w, ctx⟩ := name
    cases hm : c.meaning? w ctx with
    | none => simp [hm]
    | some s => cases hs : s.superType <;> simp [hm, hs]

/-- A chain that reaches a place has a symbol with a superclass at every place before. -/
theorem exists_chainSymbol_of_lt {i k : Nat} (hik : i < k)
    (hk : (c.chainName n k).isSome = true) :
    ∃ s, c.chainSymbol n i = some s ∧ s.superType.isSome = true := by
  induction k with
  | zero => omega
  | succ k ih =>
    obtain ⟨⟨written, context⟩, hname⟩ := Option.isSome_iff_exists.1 hk
    obtain ⟨s, hs, hsuper, -⟩ := chainName_succ_eq_some_iff.1 hname
    by_cases h : i = k
    · subst h
      exact ⟨s, hs, by rw [hsuper]; rfl⟩
    · refine ih (by omega) ?_
      rw [chainSymbol] at hs
      obtain ⟨name, hname, -⟩ := Option.bind_eq_some_iff.1 hs
      rw [hname]
      rfl

/-- Where the chain has a symbol it has a name. -/
theorem isSome_chainName_of_chainSymbol {k : Nat} {s : ClassSymbol}
    (h : c.chainSymbol n k = some s) : (c.chainName n k).isSome = true := by
  obtain ⟨name, hname, -⟩ := Option.bind_eq_some_iff.1 h
  rw [hname]
  rfl

/-- The names seen are those of the class and of the symbols before. -/
theorem mem_seenBefore_iff {k : Nat} {name : String} :
    name ∈ c.seenBefore n k ↔
      classFqName? n = some name ∨ ∃ i < k, ∃ s, c.chainSymbol n i = some s ∧ s.fqName = name := by
  induction k with
  | zero => simp [seenBefore]
  | succ k ih =>
    rw [seenBefore, List.mem_append, ih]
    constructor
    · rintro (h | h | ⟨i, hi, s, hs, rfl⟩)
      · obtain ⟨s, hs, rfl⟩ := Option.map_eq_some_iff.1 (Option.mem_toList.1 h)
        exact Or.inr ⟨k, Nat.lt_succ_self k, s, hs, rfl⟩
      · exact Or.inl h
      · exact Or.inr ⟨i, Nat.lt_succ_of_lt hi, s, hs, rfl⟩
    · rintro (h | ⟨i, hi, s, hs, rfl⟩)
      · exact Or.inr (Or.inl h)
      · rcases Nat.lt_succ_iff_lt_or_eq.1 hi with hlt | rfl
        · exact Or.inr (Or.inr ⟨i, hlt, s, hs, rfl⟩)
        · exact Or.inl (Option.mem_toList.2 (Option.map_eq_some_iff.2 ⟨s, hs, rfl⟩))

/-! ### The walk along the chain -/

section Walk

variable {candidates : List SpecStyle} {textual : Bool}

/-- The walk passes symbol `k`: it is no base of a candidate, it is met for the first time, and it
has a superclass. -/
def GoesOn (c : Classifier) (n : Node) (candidates : List SpecStyle) (k : Nat) : Prop :=
  ∃ s, c.chainSymbol n k = some s ∧ (∀ style ∈ candidates, style.fqName ≠ s.fqName) ∧
    s.fqName ∉ c.seenBefore n k ∧ s.superType.isSome = true

/-- What the walk answers when it ends at place `k`. -/
def verdict (c : Classifier) (n : Node) (candidates : List SpecStyle) (textual : Bool) (k : Nat) :
    Option Classification :=
  match c.chainName n k with
  | none => none
  | some (written, context) =>
    match c.meaning? written context with
    | none => if textual then (matchShortName candidates written).map (⟨·, .textual⟩) else none
    | some s => (candidates.find? (·.fqName == s.fqName)).map (⟨·, .resolved⟩)

/-- No style among some has a name as the one of its base. -/
theorem find?_fqName_eq_none_iff {fqName : String} :
    candidates.find? (·.fqName == fqName) = none ↔
      ∀ style ∈ candidates, style.fqName ≠ fqName := by
  simp

/-- At a name that means nothing the short names of the styles decide, if they may. -/
theorem verdict_of_unresolved {k : Nat} {written : String} {context : ImportContext}
    (hname : c.chainName n k = some (written, context)) (hm : c.meaning? written context = none) :
    c.verdict n candidates textual k =
      if textual then (matchShortName candidates written).map (⟨·, .textual⟩) else none := by
  simp only [verdict, hname, hm]

/-- At a symbol the style decides whose base it is. -/
theorem verdict_of_chainSymbol {k : Nat} {s : ClassSymbol} (hs : c.chainSymbol n k = some s) :
    c.verdict n candidates textual k =
      (candidates.find? (·.fqName == s.fqName)).map (⟨·, .resolved⟩) := by
  obtain ⟨⟨written, context⟩, hname, hm⟩ := Option.bind_eq_some_iff.1 hs
  simp only [verdict, hname, hm]

/-- The walk does not go on where it finds no symbol. -/
theorem not_goesOn_of_chainSymbol_eq_none {k : Nat} (h : c.chainSymbol n k = none) :
    ¬ c.GoesOn n candidates k := by
  rintro ⟨s, hs, -⟩
  rw [h] at hs
  cases hs

/-- A symbol is passed or not by what it is itself. -/
theorem goesOn_iff {k : Nat} {s : ClassSymbol} (hs : c.chainSymbol n k = some s) :
    c.GoesOn n candidates k ↔
      (∀ style ∈ candidates, style.fqName ≠ s.fqName) ∧ s.fqName ∉ c.seenBefore n k ∧
        s.superType.isSome = true := by
  constructor
  · rintro ⟨s', hs', h⟩
    cases hs.symm.trans hs'
    exact h
  · intro h
    exact ⟨s, hs, h⟩

/-- One step of the walk: it ends at a name without a meaning, at a base, at a name met before and
at a class without a superclass. -/
theorem walkFrom_succ (c : Classifier) (candidates : List SpecStyle) (textual : Bool) (steps : Nat)
    (seen : List String) (written : String) (context : ImportContext) :
    c.walkFrom candidates textual (steps + 1) seen written context =
      match c.meaning? written context with
      | none => if textual then (matchShortName candidates written).map (⟨·, .textual⟩) else none
      | some s =>
        match candidates.find? (·.fqName == s.fqName) with
        | some style => some ⟨style, .resolved⟩
        | none =>
          if seen.contains s.fqName then none
          else
            match s.superType with
            | none => none
            | some next => c.walkFrom candidates textual steps (s.fqName :: seen) next s.context :=
  rfl

/-- From wherever it goes on, a walk answers only with candidates. -/
theorem style_mem_of_walkFrom {textual : Bool} {steps : Nat} {seen : List String}
    {written : String} {context : ImportContext} {found : Classification}
    (h : c.walkFrom candidates textual steps seen written context = some found) :
    found.style ∈ candidates := by
  induction steps generalizing seen written context with
  | zero => cases h
  | succ steps ih =>
    rw [walkFrom_succ] at h
    split at h
    · split at h
      · obtain ⟨style, hstyle, rfl⟩ := Option.map_eq_some_iff.1 h
        exact List.mem_of_find?_eq_some hstyle
      · cases h
    · split at h
      next style hstyle =>
        obtain rfl := Option.some.inj h
        exact List.mem_of_find?_eq_some hstyle
      · split at h
        · cases h
        · split at h
          · cases h
          · exact ih h

/-- One step of the walk: the verdict where it ends, and else the walk from the next place. -/
theorem walkFrom_step {k : Nat} {written : String} {context : ImportContext}
    (hname : c.chainName n k = some (written, context)) (textual : Bool) (steps : Nat) :
    (¬ c.GoesOn n candidates k ∧
      c.walkFrom candidates textual (steps + 1) (c.seenBefore n k) written context =
        c.verdict n candidates textual k) ∨
    (c.GoesOn n candidates k ∧ ∃ written' context',
      c.chainName n (k + 1) = some (written', context') ∧
      c.walkFrom candidates textual (steps + 1) (c.seenBefore n k) written context =
        c.walkFrom candidates textual steps (c.seenBefore n (k + 1)) written' context') := by
  have hsymbol := chainSymbol_eq hname
  rw [walkFrom_succ]
  cases hm : c.meaning? written context with
  | none =>
    exact Or.inl ⟨not_goesOn_of_chainSymbol_eq_none (hsymbol.trans hm),
      (verdict_of_unresolved hname hm).symm⟩
  | some s =>
    rw [hm] at hsymbol
    rw [goesOn_iff hsymbol, verdict_of_chainSymbol hsymbol, ← find?_fqName_eq_none_iff]
    dsimp only
    cases hbase : candidates.find? (·.fqName == s.fqName) with
    | some style => exact Or.inl ⟨fun h => Option.some_ne_none style h.1, rfl⟩
    | none =>
      by_cases hseen : s.fqName ∈ c.seenBefore n k
      · exact Or.inl ⟨fun h => h.2.1 hseen, by simp [hseen]⟩
      · cases hsuper : s.superType with
        | none => exact Or.inl ⟨fun h => Bool.false_ne_true h.2.2, by simp [hseen]⟩
        | some next =>
          refine Or.inr ⟨⟨rfl, hseen, rfl⟩, next, s.context,
            chainName_succ_eq_some_iff.2 ⟨s, hsymbol, hsuper, rfl⟩, ?_⟩
          rw [seenBefore, hsymbol]
          simp [hseen]

/-- The walk from place `k` answers with the verdict on the first place that it does not pass, if it
may take that many steps. -/
theorem walkFrom_eq_verdict (textual : Bool) {k distance steps : Nat} {written : String}
    {context : ImportContext} (hname : c.chainName n k = some (written, context))
    (hpass : ∀ i, k ≤ i → i < k + distance → c.GoesOn n candidates i)
    (hstop : ¬ c.GoesOn n candidates (k + distance)) (hsteps : distance < steps) :
    c.walkFrom candidates textual steps (c.seenBefore n k) written context =
      c.verdict n candidates textual (k + distance) := by
  induction distance generalizing k steps written context with
  | zero =>
    obtain ⟨steps, rfl⟩ : ∃ m, steps = m + 1 := ⟨steps - 1, by omega⟩
    rcases walkFrom_step hname textual steps with ⟨-, h⟩ | ⟨hon, -⟩
    · exact h
    · exact absurd hon hstop
  | succ distance ih =>
    obtain ⟨steps, rfl⟩ : ∃ m, steps = m + 1 := ⟨steps - 1, by omega⟩
    rcases walkFrom_step hname textual steps with ⟨hoff, -⟩ | ⟨-, written', context', hnext, h⟩
    · exact absurd (hpass k (Nat.le_refl k) (by omega)) hoff
    · have hplace : k + (distance + 1) = k + 1 + distance := by omega
      rw [hplace] at hpass hstop ⊢
      rw [h]
      exact ih hnext (fun i hi => hpass i (by omega)) hstop (by omega)

/-! ### The walk ends -/

/-- The most symbols that the walk can pass: one for every name that is declared. -/
def passLimit (c : Classifier) : Nat :=
  c.resolver.elim 0 (·.declaredNames.dedup.length)

/-- The number of declarations that a walk may pass is below the bound on its steps. -/
theorem passLimit_lt_maxSteps (c : Classifier) : c.passLimit < c.maxSteps := by
  unfold passLimit maxSteps
  cases c.resolver with
  | none => exact Nat.zero_lt_one
  | some r => exact Nat.lt_succ_of_le r.length_dedup_declaredNames_le

/-- The symbols that the walk passes are declared, each under a name of its own. -/
theorem exists_names_of_goesOn {r : Resolver} (hr : c.resolver = some r) {k : Nat}
    (hpass : ∀ i < k, c.GoesOn n candidates i) :
    ∃ names : List String, names.length = k ∧ names.Nodup ∧ names ⊆ r.declaredNames ∧
      names ⊆ c.seenBefore n k := by
  induction k with
  | zero => exact ⟨[], rfl, List.nodup_nil, List.nil_subset _, List.nil_subset _⟩
  | succ k ih =>
    obtain ⟨names, hlength, hnodup, hdeclared, hseen⟩ := ih fun i hi => hpass i (by omega)
    obtain ⟨s, hs, -, hnew, hsuper⟩ := hpass k (Nat.lt_succ_self k)
    obtain ⟨⟨written, context⟩, hname⟩ :=
      Option.isSome_iff_exists.1 (isSome_chainName_of_chainSymbol hs)
    have hresolve : r.resolve written context = some s := by
      rw [chainSymbol_eq hname, meaning?, hr] at hs
      exact hs
    refine ⟨s.fqName :: names, ?_, ?_, ?_, ?_⟩
    · rw [List.length_cons, hlength]
    · exact List.nodup_cons.2 ⟨fun h => hnew (hseen h), hnodup⟩
    · exact List.cons_subset.2 ⟨Resolver.fqName_mem_of_resolve hresolve hsuper, hdeclared⟩
    · rw [seenBefore, hs]
      exact List.cons_subset_cons _ hseen

/-- Every symbol that the walk passes is declared under a name of its own, so it passes no more than
there are declarations. -/
theorem le_passLimit_of_goesOn {k : Nat} (hpass : ∀ i < k, c.GoesOn n candidates i) :
    k ≤ c.passLimit := by
  unfold passLimit
  cases hr : c.resolver with
  | some r =>
    obtain ⟨names, hlength, hnodup, hdeclared, -⟩ := exists_names_of_goesOn hr hpass
    have hsub : names.Subperm r.declaredNames.dedup :=
      List.subperm_of_subset hnodup fun x hx => List.mem_dedup.2 (hdeclared hx)
    rw [← hlength]
    exact hsub.length_le
  | none =>
    by_contra hpos
    obtain ⟨s, hs, -⟩ := hpass 0 (Nat.lt_of_not_le hpos)
    rw [chainSymbol_eq_none_of_no_resolver hr] at hs
    cases hs

/-- There is a first place that the walk does not pass. -/
theorem exists_first_not_goesOn (c : Classifier) (n : Node) (candidates : List SpecStyle) :
    ∃ k, (∀ i < k, c.GoesOn n candidates i) ∧ ¬ c.GoesOn n candidates k := by
  by_contra hnone
  have hall : ∀ k, ∀ i < k, c.GoesOn n candidates i := by
    intro k
    induction k with
    | zero => exact fun i hi => absurd hi (Nat.not_lt_zero i)
    | succ k ih =>
      intro i hi
      rcases Nat.lt_succ_iff_lt_or_eq.1 hi with hlt | rfl
      · exact ih i hlt
      · by_contra hstop
        exact hnone ⟨i, ih, hstop⟩
  have hle := le_passLimit_of_goesOn (hall (c.passLimit + 1))
  omega

/-- The walk answers with the verdict on the first place that it does not pass. -/
theorem exists_walk_eq_verdict (c : Classifier) (n : Node) (candidates : List SpecStyle) :
    ∃ k, (∀ i < k, c.GoesOn n candidates i) ∧ ¬ c.GoesOn n candidates k ∧
      ∀ textual, c.walk n candidates textual = c.verdict n candidates textual k := by
  obtain ⟨k, hpass, hstop⟩ := exists_first_not_goesOn c n candidates
  refine ⟨k, hpass, hstop, ?_⟩
  intro textual
  unfold walk
  cases hwritten : superTypeName? n with
  | none =>
    have hname : c.chainName n 0 = none := by rw [chainName, hwritten]; rfl
    have hzero : k = 0 := by
      by_contra hpos
      obtain ⟨s, hs, -⟩ := hpass 0 (by omega)
      rw [chainSymbol, hname] at hs
      cases hs
    rw [hzero, verdict, hname]
    rfl
  | some written =>
    have hname : c.chainName n 0 = some (written, .ofNode n) := by rw [chainName, hwritten]; rfl
    have hsteps : k < c.maxSteps :=
      Nat.lt_of_le_of_lt (le_passLimit_of_goesOn hpass) (passLimit_lt_maxSteps c)
    have hfrom := walkFrom_eq_verdict textual hname (fun i _ hi => hpass i (by omega))
      (by rwa [Nat.zero_add]) hsteps
    rw [Nat.zero_add] at hfrom
    exact hfrom

/-- There is only one such place. -/
theorem walk_eq_verdict {k : Nat} (hpass : ∀ i < k, c.GoesOn n candidates i)
    (hstop : ¬ c.GoesOn n candidates k) :
    c.walk n candidates textual = c.verdict n candidates textual k := by
  obtain ⟨m, hbefore, hend, hwalk⟩ := exists_walk_eq_verdict c n candidates
  have hm : m = k := by
    rcases Nat.lt_trichotomy m k with h | h | h
    · exact absurd (hpass m h) hend
    · exact h
    · exact absurd (hbefore k h) hstop
  rw [hwalk textual, hm]

end Walk

end Classifier

end KotestOutline
