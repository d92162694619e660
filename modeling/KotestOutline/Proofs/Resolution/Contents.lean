import KotestOutline.Proofs.Classification.Chain
import KotestOutline.Proofs.Table
import KotestOutline.Syntax
import Mathlib.Data.Finset.Card
import Mathlib.Data.List.Perm.Basic

/-!
# The contents of an index

What an index holds after additions, and an overlay of it.
-/

namespace KotestOutline

/-!
## Overlays and merged indexes

An overlay leaves its base as it is, and answers like a copy of the base to which the declarations
of the file have been added.

* `ProjectIndex.get?_addTree`: what an index holds after the declarations of a tree are added.
* `Resolver.resolve_congr`: two resolvers with the same declarations give names the same meaning.
* `Classifier.walk_congr`: two classifiers that give names the same meaning follow every superclass
  chain to the same end, however many declarations each of them has.
* `IndexOverlay.agrees_with_merged`: the overlay and the merged index.
-/

/-! ### Adding declarations -/

namespace ProjectIndex

variable {i : ProjectIndex} {fqName : String}

@[simp] theorem get?_empty (fqName : String) : empty.get? fqName = none := rfl

/-- An insertion changes what the index holds under one name. -/
theorem get?_insert (i : ProjectIndex) (s : ClassSymbol) (fqName : String) :
    (i.insert s).get? fqName = if s.fqName = fqName then some s else i.get? fqName := by
  unfold insert put get?
  by_cases h : s.fqName = fqName
  · simp [h]
  · rw [List.find?_cons_of_neg (by simpa using h), if_neg h, List.find?_filter]
    congr 2
    funext e
    -- an entry that is taken out has another key than the one looked for
    by_cases he : e.1 = fqName
    · simp [he, Ne.symm h]
    · simp [he]

/-- The last insertions win: a name is looked up among them first. -/
theorem get?_foldl_insert (symbols : List ClassSymbol) (i : ProjectIndex) (fqName : String) :
    (symbols.foldl insert i).get? fqName =
      ((symbols.foldl insert empty).get? fqName).or (i.get? fqName) := by
  induction symbols generalizing i with
  | nil => rfl
  | cons s symbols ih =>
    rw [List.foldl_cons, List.foldl_cons, ih (i.insert s), ih (empty.insert s), get?_insert,
      get?_insert, Option.or_assoc]
    by_cases h : s.fqName = fqName <;> simp [h]

/-- The declarations of a tree hide those under the same names. -/
theorem get?_addTree (i : ProjectIndex) (t : SyntaxTree) (fqName : String) :
    (i.addTree t).get? fqName = ((empty.addTree t).get? fqName).or (i.get? fqName) :=
  get?_foldl_insert (declaredSymbols t) i fqName

/-- The declarations of a tree are found after they are added, whatever was there before. -/
theorem get?_addTree_or (i : ProjectIndex) (t : SyntaxTree) (fqName : String) :
    ((empty.addTree t).get? fqName).or ((i.addTree t).get? fqName) = (i.addTree t).get? fqName := by
  rw [get?_addTree i, ← Option.or_assoc, Option.or_self]

end ProjectIndex

/-! ### Resolvers with the same declarations -/

namespace Resolver

variable {r r' : Resolver}

/-- What a simple name means depends on what is declared. -/
theorem resolveSimple?_congr (h : ∀ fqName, r.declared? fqName = r'.declared? fqName)
    (name : String) (context : ImportContext) :
    r.resolveSimple? name context = r'.resolveSimple? name context := by
  simp only [resolveSimple?, declaredOrExternal, h]

/-- The meaning of a name depends on nothing but what is declared. -/
theorem resolve_congr (h : ∀ fqName, r.declared? fqName = r'.declared? fqName) (name : String)
    (context : ImportContext) : r.resolve name context = r'.resolve name context := by
  simp only [resolve, resolveQualified?, declaredOrExternal, h, resolveSimple?_congr h]

end Resolver

/-! ### Classifiers that give names the same meaning -/

namespace Classifier

variable {c c' : Classifier} {n : Node} {candidates : List SpecStyle}

section Congruence

variable (h : ∀ written context, c.meaning? written context = c'.meaning? written context)

include h

/-- The name of the class at a place of the chain depends on what names mean. -/
theorem chainName_congr (n : Node) (k : Nat) : c.chainName n k = c'.chainName n k := by
  induction k with
  | zero => rfl
  | succ k ih => simp only [chainName, ih, h]

/-- The class at a place of the chain depends on what names mean. -/
theorem chainSymbol_congr (n : Node) (k : Nat) : c.chainSymbol n k = c'.chainSymbol n k := by
  simp only [chainSymbol, chainName_congr h, h]

/-- Whether a class was seen before depends on what names mean. -/
theorem seenBefore_congr (n : Node) (k : Nat) : c.seenBefore n k = c'.seenBefore n k := by
  induction k with
  | zero => rfl
  | succ k ih => rw [seenBefore, seenBefore, ih, chainSymbol_congr h]

/-- Whether the walk goes on depends on what names mean. -/
theorem goesOn_congr (n : Node) (candidates : List SpecStyle) (k : Nat) :
    c.GoesOn n candidates k ↔ c'.GoesOn n candidates k := by
  simp only [GoesOn, chainSymbol_congr h, seenBefore_congr h]

/-- What the walk ends with depends on what names mean. -/
theorem verdict_congr (n : Node) (candidates : List SpecStyle) (textual : Bool) (k : Nat) :
    c.verdict n candidates textual k = c'.verdict n candidates textual k := by
  simp only [verdict, chainName_congr h, h]

/-- Both walks end at the first place that either does not pass, so their bounds on the number of
steps, which count declarations, do not matter. -/
theorem walk_congr (n : Node) (candidates : List SpecStyle) (textual : Bool) :
    c.walk n candidates textual = c'.walk n candidates textual := by
  obtain ⟨k, hpass, hstop, hwalk⟩ := exists_walk_eq_verdict c n candidates
  have hpass' : ∀ i < k, c'.GoesOn n candidates i := fun i hi =>
    (goesOn_congr h n candidates i).1 (hpass i hi)
  have hstop' : ¬ c'.GoesOn n candidates k := fun hon =>
    hstop ((goesOn_congr h n candidates k).2 hon)
  rw [hwalk, walk_eq_verdict hpass' hstop', verdict_congr h]

end Congruence

end Classifier

/-! ### Resolvers that cannot be told apart -/

namespace Resolver

/-- Whether no question about a name or a class tells two resolvers apart. -/
structure Alike (r r' : Resolver) : Prop where
  resolve : ∀ name context, r.resolve name context = r'.resolve name context
  classify : ∀ (registry : StyleRegistry) (n : Node),
    (Classifier.mk registry (some r)).classify n = (Classifier.mk registry (some r')).classify n
  classifyResolved : ∀ (registry : StyleRegistry) (n : Node),
    (Classifier.mk registry (some r)).classifyResolved n =
      (Classifier.mk registry (some r')).classifyResolved n
  isSpecificationOf : ∀ (registry : StyleRegistry) (n : Node) (style : SpecStyle),
    (Classifier.mk registry (some r)).isSpecificationOf n style =
      (Classifier.mk registry (some r')).isSpecificationOf n style

variable {r r' : Resolver}

/-- Resolvers with the same declarations are alike. -/
theorem alike_of_declared? (h : ∀ fqName, r.declared? fqName = r'.declared? fqName) :
    r.Alike r' := by
  have hwalk : ∀ (registry : StyleRegistry) (n : Node) (candidates : List SpecStyle)
      (textual : Bool), (Classifier.mk registry (some r)).walk n candidates textual =
        (Classifier.mk registry (some r')).walk n candidates textual := by
    intro registry
    exact Classifier.walk_congr fun written context => resolve_congr h written context
  constructor
  case resolve => exact resolve_congr h
  case classify => exact fun registry n => hwalk registry n registry.styles true
  case classifyResolved =>
    intro registry n
    rw [Classifier.classifyResolved, Classifier.classifyResolved, hwalk]
  case isSpecificationOf =>
    intro registry n style
    rw [Classifier.isSpecificationOf, Classifier.isSpecificationOf, hwalk]

end Resolver

/-! ### The overlay -/

namespace IndexOverlay

variable (base : Option ProjectIndex) (t : SyntaxTree)

/-- A copy of the base, or an empty index where there is none, with the declarations of the tree
added to it. -/
def merged : ProjectIndex := (base.getD .empty).addTree t

/-- The overlay of a tree declares what the index with the tree added declares. -/
theorem declared?_ofTree (fqName : String) :
    (Resolver.overlay (ofTree base t)).declared? fqName =
      (Resolver.index (merged base t)).declared? fqName := by
  show ((ProjectIndex.empty.addTree t).get? fqName).or (base.bind (·.get? fqName)) =
    (merged base t).get? fqName
  rw [merged, ProjectIndex.get?_addTree (base.getD .empty)]
  cases base <;> rfl

/-- Over a base that has the declarations of the tree already, the overlay adds nothing. -/
theorem declared?_ofTree_merged (fqName : String) :
    (Resolver.overlay (ofTree (some (merged base t)) t)).declared? fqName =
      (Resolver.index (merged base t)).declared? fqName :=
  ProjectIndex.get?_addTree_or (base.getD .empty) t fqName

/-- **An overlay is the merged index to every observer.** It gives every name the meaning, and every
class the classification, that the merged index gives them, and it makes no difference to it whether
the declarations of the tree are in the base as well. -/
theorem agrees_with_merged :
    (Resolver.overlay (ofTree base t)).Alike (.index (merged base t)) ∧
    (Resolver.overlay (ofTree (some (merged base t)) t)).Alike (.overlay (ofTree base t)) := by
  constructor
  · exact Resolver.alike_of_declared? (declared?_ofTree base t)
  · apply Resolver.alike_of_declared?
    intro fqName
    rw [declared?_ofTree_merged, declared?_ofTree]

end IndexOverlay

/-!
## What an index holds

An index grows by single symbols and by the declarations of whole trees. What it holds in the end is
told by the list of all symbols that were put into it: under each name the last of them. Where no
name is repeated, the order of the additions does not matter.

* `ProjectIndex.Reflects` is an index that holds what it should after some symbols, and
  `ProjectIndex.Reflects.insert` is one insertion.
* `ProjectIndex.reflects_ofAdditions` is a run of additions.
* `length_declaredSymbols`: a tree declares a symbol for each class below its root that has a name
  and stands in classes with names only.
* `ProjectIndex.contents_ofAdditions` is the whole, and `ProjectIndex.not_forall_addTreeCounted` a
  tree whose root is a class, which is not added.
-/

/-! ### Declared symbols -/

/-- Whether a node is a class or object that has a name, as every class and object around it has. -/
def Node.IsNamedThroughout (n : Node) : Prop :=
  n.kind.isClassOrObject = true ∧ (className? n).isSome = true ∧
    ∀ m ∈ n.ancestors, m.kind.isClassOrObject = true → (className? m).isSome = true

instance (n : Node) : Decidable n.IsNamedThroughout :=
  inferInstanceAs (Decidable (n.kind.isClassOrObject = true ∧ (className? n).isSome = true ∧
    ∀ m ∈ n.ancestors, m.kind.isClassOrObject = true → (className? m).isSome = true))

/-- A list has all values of a partial function, or it has none. -/
theorem isSome_mapM_iff {α β : Type} {f : α → Option β} {xs : List α} :
    (xs.mapM f).isSome = true ↔ ∀ x ∈ xs, (f x).isSome = true := by
  induction xs with
  | nil => simp
  | cons x xs ih =>
    rw [List.forall_mem_cons, ← ih, List.mapM_cons]
    cases f x <;> cases xs.mapM f <;> simp

/-- A class or object has a symbol if it is named throughout. -/
theorem isSome_declaredSymbol?_iff {n : Node} (hkind : n.kind.isClassOrObject = true) :
    (declaredSymbol? n).isSome = true ↔ n.IsNamedThroughout := by
  have houter : ((n.ancestors.filter (·.kind.isClassOrObject)).mapM className?).isSome = true ↔
      ∀ m ∈ n.ancestors, m.kind.isClassOrObject = true → (className? m).isSome = true := by
    simp [isSome_mapM_iff]
  rw [declaredSymbol?, Option.isSome_map, classFqName?, Node.IsNamedThroughout, ← houter]
  cases className? n <;>
    cases (n.ancestors.filter (·.kind.isClassOrObject)).mapM className? <;> simp [hkind]

/-- A tree declares as many symbols as it has classes and objects that are named throughout. -/
theorem length_declaredSymbols (t : SyntaxTree) :
    (declaredSymbols t).length =
      (Node.ofTree t).descendants.countP fun n => decide n.IsNamedThroughout := by
  rw [declaredSymbols, List.length_filterMap_eq_countP, List.countP_filter]
  apply List.countP_congr
  intro n _
  rw [Bool.and_eq_true, decide_eq_true_iff]
  constructor
  · rintro ⟨hsome, hkind⟩
    exact (isSome_declaredSymbol?_iff hkind).1 hsome
  · intro hnamed
    exact ⟨(isSome_declaredSymbol?_iff hnamed.1).2 hnamed, hnamed.1⟩

/-! ### The last symbol with a name -/

/-- The last of some symbols with a name. -/
def lastNamed? (symbols : List ClassSymbol) (fqName : String) : Option ClassSymbol :=
  symbols.reverse.find? (·.fqName == fqName)

section LastNamed

variable {symbols others : List ClassSymbol} {s : ClassSymbol} {fqName : String}

/-- A symbol behind all others is the last one of its name. -/
theorem lastNamed?_append_singleton (symbols : List ClassSymbol) (s : ClassSymbol)
    (fqName : String) :
    lastNamed? (symbols ++ [s]) fqName =
      if s.fqName = fqName then some s else lastNamed? symbols fqName := by
  unfold lastNamed?
  by_cases h : s.fqName = fqName <;> simp [h]

/-- There is a last symbol of a name just if some symbol has the name. -/
theorem isSome_lastNamed?_iff (symbols : List ClassSymbol) (fqName : String) :
    (lastNamed? symbols fqName).isSome = true ↔ fqName ∈ symbols.map ClassSymbol.fqName := by
  simp [lastNamed?]

/-- Where no name is repeated, the only symbol with a name is the last one. -/
theorem lastNamed?_eq_some_iff (h : (symbols.map ClassSymbol.fqName).Nodup) :
    lastNamed? symbols fqName = some s ↔ s ∈ symbols ∧ s.fqName = fqName := by
  have hkey : ∀ x ∈ symbols.reverse, ∀ y ∈ symbols.reverse, x.fqName = y.fqName → x = y := by
    intro x hx y hy
    exact List.inj_on_of_nodup_map h (List.mem_reverse.1 hx) (List.mem_reverse.1 hy)
  rw [lastNamed?, find?_key_eq_some_iff hkey, List.mem_reverse]

/-- There the order of the symbols does not matter. -/
theorem lastNamed?_eq_of_perm (hperm : symbols.Perm others)
    (h : (symbols.map ClassSymbol.fqName).Nodup) (fqName : String) :
    lastNamed? symbols fqName = lastNamed? others fqName := by
  have hothers : (others.map ClassSymbol.fqName).Nodup := (hperm.map _).nodup_iff.1 h
  ext s
  rw [lastNamed?_eq_some_iff h, lastNamed?_eq_some_iff hothers, hperm.mem_iff]

end LastNamed

/-! ### Indexes -/

namespace ProjectIndex

variable {i : ProjectIndex} {history : List ClassSymbol} {s : ClassSymbol} {fqName : String}

/-- A symbol is found under a name just if it is stored and has that name. -/
theorem get?_eq_some_iff : i.get? fqName = some s ↔ s ∈ i.classes ∧ s.fqName = fqName := by
  have hkey : ∀ x ∈ i.entries, ∀ y ∈ i.entries, x.1 = y.1 → x = y :=
    fun x hx y hy => List.inj_on_of_nodup_map i.distinct hx hy
  rw [get?, Option.map_eq_some_iff, classes, List.mem_map]
  constructor
  · rintro ⟨e, he, rfl⟩
    obtain ⟨hmem, rfl⟩ := (find?_key_eq_some_iff hkey).1 he
    exact ⟨⟨e, hmem, rfl⟩, (i.keyed e hmem).symm⟩
  · rintro ⟨⟨e, hmem, rfl⟩, rfl⟩
    exact ⟨e, (find?_key_eq_some_iff hkey).2 ⟨hmem, i.keyed e hmem⟩, rfl⟩

/-- Whether an index holds what it should after some symbols were put into it: under each name the
last one. -/
def Reflects (i : ProjectIndex) (history : List ClassSymbol) : Prop :=
  ∀ fqName, i.get? fqName = lastNamed? history fqName

/-- The empty index holds what it should after nothing was put in. -/
theorem reflects_empty : empty.Reflects [] := fun _ => rfl

/-- An inserted symbol is the last one with its name. -/
theorem Reflects.insert (h : i.Reflects history) (s : ClassSymbol) :
    (i.insert s).Reflects (history ++ [s]) := by
  intro fqName
  rw [get?_insert, lastNamed?_append_singleton, h]

/-- An index goes on to hold what it should when more symbols are put in. -/
theorem Reflects.foldl_insert (h : i.Reflects history) (more : List ClassSymbol) :
    (more.foldl ProjectIndex.insert i).Reflects (history ++ more) := by
  induction more generalizing i history with
  | nil => rwa [List.append_nil]
  | cons s more ih =>
    have hrest := ih (h.insert s)
    rwa [List.append_assoc, List.singleton_append] at hrest

/-- There are as many symbols as there are names. -/
theorem Reflects.size_eq (h : i.Reflects history) :
    i.size = (history.map ClassSymbol.fqName).toFinset.card := by
  have hnames : (i.entries.map Prod.fst).toFinset =
      (history.map ClassSymbol.fqName).toFinset := by
    ext fqName
    rw [List.mem_toFinset, List.mem_toFinset, ← map_fqName_classes, ← isSome_get?_iff, h,
      isSome_lastNamed?_iff]
  rw [← hnames, List.toFinset_card_of_nodup i.distinct, List.length_map, size]

/-! ### Additions -/

/-- One addition to an index. -/
inductive Addition where
  | symbol (s : ClassSymbol)
  | tree (t : SyntaxTree)

/-- The symbols that an addition puts into an index, in order. -/
def Addition.symbols : Addition → List ClassSymbol
  | symbol s => [s]
  | tree t => declaredSymbols t

/-- The index after an addition. -/
def add (i : ProjectIndex) : Addition → ProjectIndex
  | .symbol s => i.insert s
  | .tree t => (i.addTreeCounted t).1

/-- The index after some additions, made to an empty one. -/
def ofAdditions (additions : List Addition) : ProjectIndex := additions.foldl add empty

/-- One step: an addition puts its symbols into the index. -/
theorem Reflects.add (h : i.Reflects history) (addition : Addition) :
    (i.add addition).Reflects (history ++ addition.symbols) := by
  cases addition with
  | symbol s => exact h.insert s
  | tree t => exact h.foldl_insert (declaredSymbols t)

/-- A run: the index reflects the symbols of all additions. By induction from the end. -/
theorem reflects_ofAdditions (additions : List Addition) :
    (ofAdditions additions).Reflects (additions.flatMap Addition.symbols) := by
  induction additions using List.reverseRecOn with
  | nil => exact reflects_empty
  | append_singleton additions addition ih =>
    have hlast : ofAdditions (additions ++ [addition]) = (ofAdditions additions).add addition := by
      simp [ofAdditions]
    rw [hlast, List.flatMap_append, List.flatMap_singleton]
    exact ih.add addition

/-- The order of the additions does not matter where no name is repeated. -/
theorem get?_ofAdditions_of_perm {additions others : List Addition} (hperm : additions.Perm others)
    (h : ((additions.flatMap Addition.symbols).map ClassSymbol.fqName).Nodup) (fqName : String) :
    (ofAdditions additions).get? fqName = (ofAdditions others).get? fqName := by
  rw [reflects_ofAdditions additions, reflects_ofAdditions others]
  exact lastNamed?_eq_of_perm (hperm.flatMap_right _) h fqName

/-- **The contents of an index** after any additions: a symbol is found under its own name and under
no other, the last symbol with a name counts, and there are as many symbols as names. A tree adds,
and counts, a symbol for each class and object below its root that is named throughout. Where no
name is repeated, the order of the additions makes no difference to what a name means or how a class
is classified, be it by the index or by an overlay of it. -/
theorem contents_ofAdditions :
    (∀ additions : List Addition,
      (∀ fqName s, (ofAdditions additions).get? fqName = some s ↔
        s ∈ (ofAdditions additions).classes ∧ s.fqName = fqName) ∧
      (∀ fqName, (ofAdditions additions).get? fqName =
        lastNamed? (additions.flatMap Addition.symbols) fqName) ∧
      (ofAdditions additions).size =
        ((additions.flatMap Addition.symbols).map ClassSymbol.fqName).toFinset.card) ∧
    (∀ (i : ProjectIndex) (t : SyntaxTree), (i.addTreeCounted t).2 =
      (Node.ofTree t).descendants.countP fun n => decide n.IsNamedThroughout) ∧
    ∀ additions others : List Addition, additions.Perm others →
      ((additions.flatMap Addition.symbols).map ClassSymbol.fqName).Nodup →
        (Resolver.index (ofAdditions additions)).Alike (.index (ofAdditions others)) ∧
        ∀ t, (Resolver.overlay (.ofTree (some (ofAdditions additions)) t)).Alike
          (.overlay (.ofTree (some (ofAdditions others)) t)) := by
  refine ⟨fun additions => ?contents, fun _ t => length_declaredSymbols t,
    fun additions others hperm hnodup => ?order⟩
  case contents =>
    have h := reflects_ofAdditions additions
    exact ⟨fun _ _ => get?_eq_some_iff, h, h.size_eq⟩
  case order =>
    have hget := get?_ofAdditions_of_perm hperm hnodup
    refine ⟨Resolver.alike_of_declared? hget, fun t => Resolver.alike_of_declared? ?_⟩
    intro fqName
    simp only [Resolver.declared?, IndexOverlay.ofTree, Option.bind_some, hget]

/-! ### Two trees -/

/-- A file with a class, a class inside it, and an object without a name that holds one more. -/
def nestedNamesArena : Arena :=
  .ofRows
    [(0, .classDeclaration, none), (1, .identifier, some "Outer"), (1, .classDeclaration, none),
      (3, .identifier, some "Inner"), (0, .objectDeclaration, none), (5, .classDeclaration, none),
      (6, .identifier, some "Hidden")]

/-- The tree declares two of its four classes and objects. Added before or behind a symbol from
elsewhere, they mean the same. -/
theorem contents_nestedNames :
    let tree : Addition := .tree nestedNamesArena.toTree
    let other : Addition := .symbol ⟨"Outer.Other", some "FunSpec", .empty⟩
    ([tree, other].Perm [other, tree] ∧
      (([tree, other].flatMap Addition.symbols).map ClassSymbol.fqName).Nodup) ∧
    (empty.addTreeCounted nestedNamesArena.toTree).2 = 2 ∧
    (ofAdditions [tree, other]).size = 3 ∧
    (ofAdditions [tree, other]).get? "Outer.Inner" = some ⟨"Outer.Inner", none, .empty⟩ ∧
    (Resolver.index (ofAdditions [tree, other])).Alike (.index (ofAdditions [other, tree])) := by
  intro tree other
  have hperm : [tree, other].Perm [other, tree] := List.Perm.swap other tree []
  have hnodup : (([tree, other].flatMap Addition.symbols).map ClassSymbol.fqName).Nodup := by
    decide
  obtain ⟨hcontents, hcount, horder⟩ := contents_ofAdditions
  obtain ⟨hown, hlast, hsize⟩ := hcontents [tree, other]
  refine ⟨⟨hperm, hnodup⟩, ?_, ?_, ?_, (horder _ _ hperm hnodup).1⟩
  · rw [hcount]
    decide
  · rw [hsize]
    decide
  · rw [hlast]
    decide

/-- A tree whose root is a class with a name. -/
def classRootArena : Arena :=
  (Arena.new .classDeclaration .origin).addLeaf 0 .identifier "A" .origin

/-- The root of a tree stands for the file. A class in its place is named, and is not counted. -/
theorem not_forall_addTreeCounted :
    ¬ ∀ (i : ProjectIndex) (t : SyntaxTree), (i.addTreeCounted t).2 =
      t.nodes.countP fun n => decide n.IsNamedThroughout := by
  intro h
  exact absurd (h empty classRootArena.toTree) (by decide)

end ProjectIndex

end KotestOutline
