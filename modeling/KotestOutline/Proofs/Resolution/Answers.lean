import KotestOutline.Proofs.Classification.Tiers
import KotestOutline.Proofs.Resolution.Contents

/-!
# What a name resolves to

The class that a written name means has its short name, and stays the same while an index grows but
for what is inserted.
-/

namespace KotestOutline

/-!
## Short names

A written name and the class it means end in the same segment: resolution puts packages and outer
classes in front of what is written, and it follows an import only to a path that ends in the
written name. So a superclass that means the base of a style is written with the short name of the
style, which is all that the textual tier looks at.

* `QualifiedName.short_inside`: what is put in front of a name leaves its last segment alone.
* `Resolver.short_resolveSimple?` and `Resolver.short_resolve`: so does every way to resolve it.
* `Classifier.resolution_keeps_short_name`: the textual tier agrees with a superclass that is the
  base of a style.
-/

section

/-! ### Last segments -/

/-- A text without the separator is its own last segment. -/
theorem lastSegment_of_not_mem {c : Char} {cs : List Char} (h : c ∉ cs) :
    lastSegment c cs = cs := by
  cases cs with
  | nil => rfl
  | cons d cs =>
    rw [List.mem_cons, not_or] at h
    have hrest : cs.contains c = false := by simpa using h.2
    rw [lastSegment, hrest, if_neg Bool.false_ne_true, if_neg (Ne.symm h.1)]

/-- Only what stands behind a separator can be in the last segment. -/
theorem lastSegment_append_cons (c : Char) (front back : List Char) :
    lastSegment c (front ++ c :: back) = lastSegment c back := by
  induction front with
  | nil =>
    rw [List.nil_append, lastSegment, if_pos rfl]
    by_cases hback : c ∈ back
    · rw [if_pos (List.contains_iff_mem.2 hback)]
    · rw [if_neg (by simpa using hback), lastSegment_of_not_mem hback]
  | cons d front ih =>
    have hcontains : (front ++ c :: back).contains c = true := by simp
    rw [List.cons_append, lastSegment, hcontains, if_pos rfl, ih]

/-- The two texts around a separator and the separator make up the whole. -/
theorem eq_append_of_splitAtFirst? {c : Char} {cs head rest : List Char}
    (h : splitAtFirst? c cs = some (head, rest)) : cs = head ++ c :: rest := by
  induction cs generalizing head with
  | nil => cases h
  | cons d cs ih =>
    rw [splitAtFirst?] at h
    split_ifs at h with hd
    · cases h
      rw [hd, List.nil_append]
    · obtain ⟨⟨front, back⟩, hsplit, hpair⟩ := Option.map_eq_some_iff.1 h
      cases hpair
      rw [ih hsplit, List.cons_append]

namespace QualifiedName

variable {name head rest : String}

/-- A name without dots is its own short name. -/
theorem short_of_not_isDotted (h : isDotted name = false) : short name = name := by
  have hdot : '.' ∉ name.toList := by simpa [isDotted] using h
  rw [short, lastSegment_of_not_mem hdot, String.ofList_toList]

/-- A name inside another one keeps its last segment. -/
@[simp] theorem short_inside (outer name : String) : short (inside outer name) = short name := by
  have hdot : (inside outer name).toList = outer.toList ++ '.' :: name.toList := by
    simp [inside]
  rw [short, hdot, lastSegment_append_cons, short]

/-- What stands behind the first segment has the last segment of the whole name. -/
theorem short_of_headAndRest? (h : headAndRest? name = some (head, rest)) :
    short rest = short name := by
  obtain ⟨⟨front, back⟩, hsplit, hpair⟩ := Option.map_eq_some_iff.1 h
  cases hpair
  rw [short, short, eq_append_of_splitAtFirst? hsplit, lastSegment_append_cons,
    String.toList_ofList]

end QualifiedName

open QualifiedName

/-! ### Contexts -/

namespace ImportContext

/-- To put a package in front of a name leaves its short name. -/
theorem short_qualify (context : ImportContext) (name : String) :
    short (context.qualify name) = short name := by
  unfold qualify
  split_ifs
  · rfl
  · exact short_inside _ _

/-- An explicit import of a name ends in it. -/
theorem short_explicitImport? {context : ImportContext} {name path : String}
    (h : context.explicitImport? name = some path) : short path = name := by
  have hfound := List.find?_some h
  simp only [Bool.and_eq_true, beq_iff_eq] at hfound
  exact hfound.2

end ImportContext

/-! ### Resolution -/

namespace Resolver

variable {r : Resolver} {name : String} {context : ImportContext} {s : ClassSymbol}

/-- What a name without a dot means is called by that name, whichever way it is found. -/
theorem short_resolveSimple? (hname : isDotted name = false)
    (h : r.resolveSimple? name context = some s) : short s.fqName = short name := by
  unfold resolveSimple? at h
  cases himport : context.explicitImport? name with
  | some path =>
    rw [himport] at h
    cases h
    rw [fqName_declaredOrExternal, ImportContext.short_explicitImport? himport,
      short_of_not_isDotted hname]
  | none =>
    rw [himport] at h
    rcases Option.or_eq_some_iff.1 h with hown | ⟨-, hwild⟩
    · rw [fqName_of_declared? hown, ImportContext.short_qualify]
    · obtain ⟨package, -, hfound⟩ := List.exists_of_findSome?_eq_some hwild
      rw [fqName_of_declared? hfound, short_inside]

/-- A dotted name is declared itself, or means a class in a package or inside another class, under
what stands behind its first dot. -/
theorem short_resolveQualified? (h : r.resolveQualified? name context = some s) :
    short s.fqName = short name := by
  unfold resolveQualified? at h
  cases hdeclared : r.declared? name with
  | some declared =>
    rw [hdeclared] at h
    cases h
    rw [fqName_of_declared? hdeclared]
  | none =>
    rw [hdeclared] at h
    obtain ⟨⟨head, rest⟩, hsplit, h⟩ := Option.bind_eq_some_iff.1 h
    dsimp only at h
    split_ifs at h
    · cases h
      rfl
    · obtain ⟨outer, -, h⟩ := Option.bind_eq_some_iff.1 h
      cases h
      rw [fqName_declaredOrExternal, short_inside, short_of_headAndRest? hsplit]

/-- Every name means a class that ends in its own last segment. -/
theorem short_resolve (h : r.resolve name context = some s) : short s.fqName = short name := by
  unfold resolve at h
  cases hdotted : isDotted name with
  | true =>
    rw [hdotted, if_pos rfl] at h
    exact short_resolveQualified? h
  | false =>
    rw [hdotted, if_neg Bool.false_ne_true] at h
    exact short_resolveSimple? hdotted h

end Resolver

/-! ### The textual tier -/

namespace Classifier

/-- **Resolution keeps the short name.** Whatever a written name means, under any resolver and in
any context, ends in the last segment of the name. Hence a class whose superclass means the base of
a registered style is of that style by the text of its superclass as well, in agreement with its
classification. -/
theorem resolution_keeps_short_name (r : Resolver) :
    (∀ name context s, r.resolve name context = some s → short s.fqName = short name) ∧
    ∀ (registry : StyleRegistry) (n : Node) (style : SpecStyle) (base : ClassSymbol),
      r.resolveSuper? n = some base → style ∈ registry.styles → base.fqName = style.fqName →
        (mk registry (some r)).classifyTextual n = some style ∧
          (mk registry (some r)).classify n = some ⟨style, .resolved⟩ := by
  refine ⟨fun name context s => Resolver.short_resolve, ?agrees⟩
  case agrees =>
    intro registry n style base hbase hmem hfq
    obtain ⟨written, hwritten, hresolve⟩ := Option.bind_eq_some_iff.1 hbase
    constructor
    · have hshort : short written = style.shortName := by
        rw [← Resolver.short_resolve hresolve, hfq, SpecStyle.shortName]
      rw [classifyTextual, hwritten, Option.bind_some]
      exact matchShortName_eq_some_iff.2 ⟨hmem, hshort⟩
    · -- the base is the first symbol of the chain
      have hname : (mk registry (some r)).chainName n 0 = some (written, .ofNode n) := by
        rw [chainName, hwritten, Option.map_some]
      have hfirst : (mk registry (some r)).chainSymbol n 0 = some base :=
        (chainSymbol_eq hname).trans hresolve
      refine (classify_eq_resolved_iff style).2 ⟨hmem, 0, base, hfirst, hfq, ?_⟩
      intro i hi
      exact absurd hi (Nat.not_lt_zero i)

/-- The base of Fun Spec, imported by name, and a nested class that is found through an imported
package. -/
theorem resolution_keeps_short_name_imported :
    let r : Resolver := .overlay ⟨some (.ofSymbols [⟨"q.Outer", none, .empty⟩]), .empty⟩
    let file : Context Label :=
      [⟨⟨⟨.file, none, .origin⟩, 0⟩,
        [.node ⟨⟨.importDirective, some SpecStyle.funSpec.fqName, .origin⟩, 1⟩ []], []⟩]
    let n : Node := .within file (bareClass.plug (listNaming "FunSpec"))
    r.resolve "Outer.Inner" ⟨"", ["q.*"]⟩ = some (.external "q.Outer.Inner") ∧
      short "q.Outer.Inner" = short "Outer.Inner" ∧
      r.resolveSuper? n = some (.external SpecStyle.funSpec.fqName) ∧
      (mk .full (some r)).classifyTextual n = some .funSpec ∧
      (mk .full (some r)).classify n = some ⟨.funSpec, .resolved⟩ := by
  intro r file n
  have hinner : r.resolve "Outer.Inner" ⟨"", ["q.*"]⟩ = some (.external "q.Outer.Inner") := by
    decide
  have hbase : r.resolveSuper? n = some (.external SpecStyle.funSpec.fqName) := by decide
  obtain ⟨hkept, hagrees⟩ := resolution_keeps_short_name r
  exact ⟨hinner, hkept _ _ _ hinner, hbase, hagrees .full n .funSpec _ hbase (by decide) rfl⟩

end Classifier

end

/-!
## Growing indexes

A name is resolved by a search that takes the first answer it gets: the name itself, an explicit
import, the own package, one imported package after the other, and for a dotted name the class that
its head means. An insertion gives one of these steps another answer, the inserted symbol. So the
search answers as before or with that symbol, and the only other way in which an answer changes is
that the head of a dotted name now means the inserted symbol.

* `KeptOr` relates answers before and after an insertion, and is kept by searches for a first
  answer.
* `Resolver.resolve_eq_or_isWithin` is one insertion, seen from any resolver whose declarations it
  changes.
* `ProjectIndex.resolve_foldl_insert` is a run of insertions.
* `ProjectIndex.resolve_insert`: growth is monotone and local.
-/

section

variable {x : ClassSymbol}

/-! ### First answers -/

/-- Whether the answer `after` an insertion is the one `before`, or the inserted symbol. -/
def KeptOr (x : ClassSymbol) (before after : Option ClassSymbol) : Prop :=
  after = before ∨ after = some x

namespace KeptOr

variable {before after before' after' : Option ClassSymbol}

/-- An alternative keeps its answer, or answers the inserted symbol, if both of its sides do. -/
theorem or (h : KeptOr x before after) (h' : KeptOr x before' after') :
    KeptOr x (before.or before') (after.or after') := by
  rcases h with rfl | rfl
  · cases after with
    | none => exact h'
    | some s => exact Or.inl rfl
  · exact Or.inr rfl

/-- A search keeps its answer, or answers the inserted symbol, if it does so at each place. -/
theorem findSome? {α : Type} {f g : α → Option ClassSymbol} (h : ∀ a, KeptOr x (f a) (g a))
    (l : List α) : KeptOr x (l.findSome? f) (l.findSome? g) := by
  induction l with
  | nil => exact Or.inl rfl
  | cons a l ih =>
    have hfirst : ∀ f : α → Option ClassSymbol,
        (a :: l).findSome? f = (f a).or (l.findSome? f) := by
      intro f
      rw [List.findSome?_cons]
      cases f a <;> rfl
    rw [hfirst, hfirst]
    exact (h a).or ih

end KeptOr

/-! ### One insertion -/

/-- Whether a symbol has the name of another one, or a name inside it. -/
def ClassSymbol.IsWithin (s outer : ClassSymbol) : Prop :=
  s.fqName = outer.fqName ∨ ∃ rest, s.fqName = outer.fqName ++ "." ++ rest

namespace Resolver

section Insertion

variable {r r' : Resolver}
  (h : ∀ fqName, r'.declared? fqName = if x.fqName = fqName then some x else r.declared? fqName)

include h

/-- What is declared under a name stays, or is the inserted symbol. -/
theorem declared?_keptOr (fqName : String) :
    KeptOr x (r.declared? fqName) (r'.declared? fqName) := by
  rw [h]
  split_ifs
  · exact Or.inr rfl
  · exact Or.inl rfl

/-- What is declared or known by name alone stays, or is the inserted symbol. -/
theorem declaredOrExternal_keptOr (fqName : String) :
    KeptOr x (some (r.declaredOrExternal fqName)) (some (r'.declaredOrExternal fqName)) := by
  unfold declaredOrExternal
  rcases declared?_keptOr h fqName with hsame | hnew
  · exact Or.inl (by rw [hsame])
  · exact Or.inr (by rw [hnew, Option.getD_some])

/-- What a simple name means stays, or is the inserted symbol. -/
theorem resolveSimple?_keptOr (name : String) (context : ImportContext) :
    KeptOr x (r.resolveSimple? name context) (r'.resolveSimple? name context) := by
  unfold resolveSimple?
  cases context.explicitImport? name with
  | some path => exact declaredOrExternal_keptOr h path
  | none =>
    exact (declared?_keptOr h _).or (KeptOr.findSome? (fun package => declared?_keptOr h _) _)

/-- A dotted name has another meaning than before only if it means the inserted symbol, or if its
head does. -/
theorem resolveQualified?_eq_or_isWithin (name : String) (context : ImportContext) :
    r'.resolveQualified? name context = r.resolveQualified? name context ∨
      ∃ answer, r'.resolveQualified? name context = some answer ∧ answer.IsWithin x := by
  have hself : x.IsWithin x := Or.inl rfl
  unfold resolveQualified?
  rcases declared?_keptOr h name with hsame | hnew
  · rw [hsame]
    cases r.declared? name with
    | some s => exact Or.inl rfl
    | none =>
      cases QualifiedName.headAndRest? name with
      | none => exact Or.inl rfl
      | some split =>
        obtain ⟨head, rest⟩ := split
        dsimp only [bind, Option.bind_some]
        split_ifs
        · exact Or.inl rfl
        · rcases resolveSimple?_keptOr h head context with hhead | hhead
          · rw [hhead]
            cases r.resolveSimple? head context with
            | none => exact Or.inl rfl
            | some outer =>
              rcases declaredOrExternal_keptOr h (QualifiedName.inside outer.fqName rest) with
                hinner | hinner
              · exact Or.inl hinner
              · exact Or.inr ⟨x, hinner, hself⟩
          · -- the head means the inserted symbol, so the name means something inside it
            rw [hhead]
            exact Or.inr ⟨_, rfl, Or.inr ⟨rest, fqName_declaredOrExternal r' _⟩⟩
  · rw [hnew]
    exact Or.inr ⟨x, rfl, hself⟩

/-- After an insertion a name means what it did before, or it means the inserted symbol or a class
inside it. -/
theorem resolve_eq_or_isWithin (name : String) (context : ImportContext) :
    r'.resolve name context = r.resolve name context ∨
      ∃ answer, r'.resolve name context = some answer ∧ answer.IsWithin x := by
  unfold resolve
  split_ifs
  · exact resolveQualified?_eq_or_isWithin h name context
  · rcases resolveSimple?_keptOr h name context with hsame | hnew
    · exact Or.inl hsame
    · exact Or.inr ⟨x, hnew, Or.inl rfl⟩

end Insertion

end Resolver

/-! ### Indexes -/

namespace ProjectIndex

/-- What a name means stays after an insertion, or is a symbol with the inserted name or inside
it. -/
theorem resolve_insert_eq_or (i : ProjectIndex) (x : ClassSymbol) (name : String)
    (context : ImportContext) :
    (Resolver.index (i.insert x)).resolve name context = (Resolver.index i).resolve name context ∨
      ∃ answer, (Resolver.index (i.insert x)).resolve name context = some answer ∧
        answer.IsWithin x := by
  have hget : ∀ fqName, (Resolver.index (i.insert x)).declared? fqName =
      if x.fqName = fqName then some x else (Resolver.index i).declared? fqName :=
    get?_insert i x
  exact Resolver.resolve_eq_or_isWithin hget name context

/-- A run of insertions changes the meaning of a name only to something inside one of the inserted
symbols. By induction on the run: the last insertion that changes the meaning decides. -/
theorem resolve_foldl_insert (symbols : List ClassSymbol) (i : ProjectIndex) (name : String)
    (context : ImportContext) :
    (Resolver.index (symbols.foldl insert i)).resolve name context =
        (Resolver.index i).resolve name context ∨
      ∃ x ∈ symbols, ∃ answer,
        (Resolver.index (symbols.foldl insert i)).resolve name context = some answer ∧
          answer.IsWithin x := by
  induction symbols generalizing i with
  | nil => exact Or.inl rfl
  | cons x symbols ih =>
    rw [List.foldl_cons]
    rcases ih (i.insert x) with hsame | ⟨y, hy, hanswer⟩
    · rw [hsame]
      rcases resolve_insert_eq_or i x name context with hbefore | hanswer
      · exact Or.inl hbefore
      · exact Or.inr ⟨x, List.mem_cons_self, hanswer⟩
    · exact Or.inr ⟨y, List.mem_cons_of_mem x hy, hanswer⟩

/-- **An index grows monotonically and locally.** A name that has a meaning keeps one when a symbol
is inserted; and where the meaning changes, the new one is named like the inserted symbol, or like
something inside it. The same holds of a run of insertions. -/
theorem resolve_insert (i : ProjectIndex) (name : String) (context : ImportContext) :
    (∀ x : ClassSymbol,
      (((Resolver.index i).resolve name context).isSome = true →
        ((Resolver.index (i.insert x)).resolve name context).isSome = true) ∧
      ((Resolver.index (i.insert x)).resolve name context ≠
          (Resolver.index i).resolve name context →
        ∃ answer, (Resolver.index (i.insert x)).resolve name context = some answer ∧
          answer.IsWithin x)) ∧
    ∀ symbols : List ClassSymbol,
      (((Resolver.index i).resolve name context).isSome = true →
        ((Resolver.index (symbols.foldl insert i)).resolve name context).isSome = true) ∧
      ((Resolver.index (symbols.foldl insert i)).resolve name context ≠
          (Resolver.index i).resolve name context →
        ∃ x ∈ symbols, ∃ answer,
          (Resolver.index (symbols.foldl insert i)).resolve name context = some answer ∧
            answer.IsWithin x) := by
  constructor
  · intro x
    rcases resolve_insert_eq_or i x name context with hsame | ⟨answer, hanswer, hwithin⟩
    · rw [hsame]
      exact ⟨id, fun hne => absurd rfl hne⟩
    · rw [hanswer]
      exact ⟨fun _ => rfl, fun _ => ⟨answer, rfl, hwithin⟩⟩
  · intro symbols
    rcases resolve_foldl_insert symbols i name context with hsame | ⟨x, hx, answer, hanswer, hin⟩
    · rw [hsame]
      exact ⟨id, fun hne => absurd rfl hne⟩
    · rw [hanswer]
      exact ⟨fun _ => rfl, fun _ => ⟨x, hx, answer, rfl, hin⟩⟩

end ProjectIndex

/-- With two packages imported, a class declared in the first of them takes a nested name away from
the class of the second. -/
theorem resolve_insert_hiddenOuter :
    let i : ProjectIndex :=
      .ofSymbols [⟨"b.Outer", none, .empty⟩, ⟨"b.Outer.Inner", none, .empty⟩]
    let x : ClassSymbol := ⟨"a.Outer", none, .empty⟩
    let context : ImportContext := ⟨"", ["a.*", "b.*"]⟩
    (Resolver.index i).resolve "Outer.Inner" context = some ⟨"b.Outer.Inner", none, .empty⟩ ∧
      ((Resolver.index (i.insert x)).resolve "Outer.Inner" context).isSome = true ∧
      ∃ answer, (Resolver.index (i.insert x)).resolve "Outer.Inner" context = some answer ∧
        answer.IsWithin x := by
  intro i x context
  have hbefore : (Resolver.index i).resolve "Outer.Inner" context =
      some ⟨"b.Outer.Inner", none, .empty⟩ := by decide
  have hafter : (Resolver.index (i.insert x)).resolve "Outer.Inner" context =
      some ⟨"a.Outer.Inner", none, .empty⟩ := by decide
  obtain ⟨hkept, hlocal⟩ := (ProjectIndex.resolve_insert i "Outer.Inner" context).1 x
  refine ⟨hbefore, hkept (by rw [hbefore]; rfl), hlocal ?_⟩
  rw [hbefore, hafter]
  decide

end

end KotestOutline
