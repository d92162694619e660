import KotestOutline.Proofs.Classification.Semantics
import KotestOutline.Proofs.Syntax.Alike
import KotestOutline.Symbol
import Mathlib.Data.List.Forall2

/-!
# The two tiers

What a class is called and how its superclass is written make no difference where both have symbols.
-/

namespace KotestOutline

/-!
## Rewriting around names

The qualified name of a class and the import context of its file are read off a few nodes, the
identifiers of the classes, the package header and the imports. Everything else can be rewritten
without a change to either, unless it is itself part of the text of one of these.

* `SyntaxTree.NamesAlike` compares two subtrees by what they say as children, and
  `SyntaxTree.ReadsAlike` two trees by what is read off their children.
* `Node.ReadsAlike.classFqName?_eq` and `Node.ReadsAlike.ofNode_eq` are the two readings.
* `Node.readsAlike_within` is the rewriting of one subtree.
-/

/-- Whether nodes of this kind say by their text what a class or its context is. -/
def NodeKind.isNaming : NodeKind → Bool
  | identifier | packageHeader | importDirective => true
  | _ => false

/-- Related lists have the same values of what a test keeps of them, if related members have. -/
theorem map_filter_eq_of_forall₂ {α β : Type} {R : α → α → Prop} {p : α → Bool} {f : α → β}
    {l l' : List α} (h : List.Forall₂ R l l') (hp : ∀ a b, R a b → p a = p b)
    (hf : ∀ a b, R a b → p a = true → f a = f b) : (l.filter p).map f = (l'.filter p).map f := by
  induction h with
  | nil => rfl
  | @cons a b l l' hab _ ih =>
    rw [List.filter_cons, List.filter_cons, ← hp a b hab]
    split
    next hkept => rw [List.map_cons, List.map_cons, hf a b hab hkept, ih]
    next => exact ih

/-! ### Trees -/

namespace SyntaxTree

variable {t t' : SyntaxTree} {ts ts' : List SyntaxTree} {kind : NodeKind}

/-- Whether two trees are of one kind and, if their text names something, of one text. -/
structure NamesAlike (t t' : SyntaxTree) : Prop where
  kind : t.label.kind = t'.label.kind
  text : t.label.kind.isNaming = true → t.text = t'.text

/-- Whether two trees are of one kind and their children name the same in turn. -/
structure ReadsAlike (t t' : SyntaxTree) : Prop where
  kind : t.label.kind = t'.label.kind
  children : List.Forall₂ NamesAlike t.children t'.children

/-- A tree says the same as itself. -/
theorem NamesAlike.refl (t : SyntaxTree) : t.NamesAlike t := ⟨rfl, fun _ => rfl⟩

/-- Nodes of a kind that names nothing say the same, whatever is below them. -/
theorem namesAlike_of_kind (h : t.label.kind = kind) (h' : t'.label.kind = kind)
    (hkind : kind.isNaming = false) : t.NamesAlike t' := by
  refine ⟨h.trans h'.symm, fun hnaming => ?_⟩
  rw [h, hkind] at hnaming
  cases hnaming

/-- Lists of trees that say the same in turn have the same texts under each kind that names
something. -/
theorem map_text_filter_eq (h : List.Forall₂ NamesAlike ts ts') (hkind : kind.isNaming = true) :
    (ts.filter (·.label.kind == kind)).map text =
      (ts'.filter (·.label.kind == kind)).map text := by
  apply map_filter_eq_of_forall₂ h
  · intro t t' htt
    rw [htt.kind]
  · intro t t' htt hsame
    exact htt.text (by rwa [beq_iff_eq.1 hsame])

end SyntaxTree

/-! ### Nodes -/

namespace Node

variable {n n' : Node} {kind : NodeKind}

/-- The texts of the children of a kind are read off the subtrees. -/
theorem map_text_childrenOf (n : Node) (kind : NodeKind) :
    (n.childrenOf kind).map text =
      (n.tree.children.filter (·.label.kind == kind)).map SyntaxTree.text := by
  rw [childrenOf, children, List.filter_map, List.map_map]
  rfl

/-- The text of the first child of a kind is the first of those texts. -/
theorem map_text_firstChild? (n : Node) (kind : NodeKind) :
    (n.firstChild? kind).map text = ((n.childrenOf kind).map text).head? := by
  rw [List.head?_map, childrenOf, List.head?_filter]
  rfl

/-- Nodes that read alike have children of the same texts. -/
theorem map_text_childrenOf_eq (h : n.tree.ReadsAlike n'.tree) (hkind : kind.isNaming = true) :
    (n.childrenOf kind).map text = (n'.childrenOf kind).map text := by
  rw [map_text_childrenOf, map_text_childrenOf, SyntaxTree.map_text_filter_eq h.children hkind]

/-- The first of them has the same text as well. -/
theorem map_text_firstChild?_eq (h : n.tree.ReadsAlike n'.tree) (hkind : kind.isNaming = true) :
    (n.firstChild? kind).map text = (n'.firstChild? kind).map text := by
  rw [map_text_firstChild?, map_text_firstChild?, map_text_childrenOf_eq h hkind]

/-- So nodes that read alike declare the same name. -/
theorem className?_eq (h : n.tree.ReadsAlike n'.tree) : className? n = className? n' :=
  map_text_firstChild?_eq h rfl

/-- Files that read alike have the same package and imports. -/
theorem ofFile_eq (h : n.tree.ReadsAlike n'.tree) :
    ImportContext.ofFile n = ImportContext.ofFile n' := by
  rw [ImportContext.ofFile, ImportContext.ofFile, map_text_firstChild?_eq h rfl,
    map_text_childrenOf_eq h rfl]

/-- Whether two nodes and the nodes around them read alike. -/
def ReadsAlike (n n' : Node) : Prop :=
  List.Forall₂ SyntaxTree.ReadsAlike (n.tree :: n.above) (n'.tree :: n'.above)

/-- A relation between trees one by one is one between the nodes above a place. -/
theorem forall₂_chain {R : SyntaxTree → SyntaxTree → Prop} {ts ts' : List SyntaxTree}
    (h : List.Forall₂ R ts ts') :
    List.Forall₂ (fun n n' : Node => R n.tree n'.tree) (chain ts) (chain ts') := by
  induction h with
  | nil => exact .nil
  | cons hhead _ ih => exact .cons hhead ih

/-- The outermost of related trees are related; the last node is the root of the file. -/
theorem getLast?_chain {R : SyntaxTree → SyntaxTree → Prop} {ts ts' : List SyntaxTree}
    (h : List.Forall₂ R ts ts') (hn : R n.tree n'.tree) :
    R ((chain ts).getLast?.getD n).tree ((chain ts').getLast?.getD n').tree := by
  induction h generalizing n n' with
  | nil => exact hn
  | cons hhead _ ih =>
    rw [chain, chain, List.getLast?_cons, List.getLast?_cons, Option.getD_some, Option.getD_some]
    exact ih hhead

/-- The context of a node is that of the file around it. -/
theorem ReadsAlike.ofNode_eq (h : n.ReadsAlike n') :
    ImportContext.ofNode n = ImportContext.ofNode n' := by
  obtain ⟨hown, habove⟩ := List.forall₂_cons.1 h
  exact ofFile_eq (getLast?_chain habove hown)

/-- The classes around a node have the same names in turn. -/
theorem map_className?_eq {ms ms' : List Node}
    (h : List.Forall₂ (fun m m' : Node => m.tree.ReadsAlike m'.tree) ms ms') :
    (ms.filter (·.kind.isClassOrObject)).map className? =
      (ms'.filter (·.kind.isClassOrObject)).map className? := by
  apply map_filter_eq_of_forall₂ h
  · intro m m' hread
    exact congrArg NodeKind.isClassOrObject hread.kind
  · intro m m' hread _
    exact className?_eq hread

/-- The qualified name of a class is read off the nodes above it. -/
theorem ReadsAlike.classFqName?_eq (h : n.ReadsAlike n') : classFqName? n = classFqName? n' := by
  have hnames : ∀ ms : List Node,
      ms.mapM className? = (ms.map className?).mapM (fun name => name) := by
    intro ms
    rw [List.mapM_map]
    rfl
  obtain ⟨hown, habove⟩ := List.forall₂_cons.1 h
  rw [classFqName?, classFqName?, className?_eq hown, h.ofNode_eq, hnames, hnames, ancestors,
    ancestors, map_className?_eq (forall₂_chain habove)]

end Node

/-! ### Replacing one subtree -/

/-- Whether no node around the hole takes a name from the texts below it. -/
def Context.KeepsNames (context : Context Label) : Prop :=
  ∀ frame ∈ context, frame.label.kind.isNaming = true → frame.label.text.isSome = true

instance (context : Context Label) : Decidable context.KeepsNames :=
  inferInstanceAs (Decidable (∀ frame ∈ context, _ → _))

/-- A subtree that says the same in its place leaves all trees around it alike. -/
theorem Context.forall₂_above {context : Context Label} (hkeep : context.KeepsNames)
    {t t' : SyntaxTree} (h : t.NamesAlike t') :
    List.Forall₂ SyntaxTree.ReadsAlike (context.above t) (context.above t') := by
  induction context generalizing t t' with
  | nil => exact .nil
  | cons frame outer ih =>
    have hsame : ∀ ts : List SyntaxTree, List.Forall₂ SyntaxTree.NamesAlike ts ts := fun ts =>
      List.forall₂_same.2 fun t _ => .refl t
    have hread : SyntaxTree.ReadsAlike (frame.plug t) (frame.plug t') :=
      ⟨rfl, List.rel_append (hsame frame.left) (.cons h (hsame frame.right))⟩
    refine .cons hread (ih (fun f hf => hkeep f (List.mem_cons_of_mem frame hf)) ⟨rfl, ?_⟩)
    intro hnaming
    obtain ⟨text, htext⟩ := Option.isSome_iff_exists.1 (hkeep frame List.mem_cons_self hnaming)
    rw [SyntaxTree.text, SyntaxTree.text, Frame.label_plug, Frame.label_plug, htext]
    rfl

/-- A node reads as before when a child of it that names nothing is replaced by another. -/
theorem Node.readsAlike_within {frame : Frame Label} {outer : Context Label}
    (hkeep : Context.KeepsNames (frame :: outer)) {t t' : SyntaxTree} (h : t.NamesAlike t') :
    (within outer (frame.plug t)).ReadsAlike (within outer (frame.plug t')) :=
  Context.forall₂_above hkeep h

/-!
## The two tiers

A class is classified by symbols, or by the short name of a superclass that has no symbol. Whether
the second way is open makes no difference to how far the chain is followed: the walk ends at one
place, and only what it says there can differ.

* `Classifier.walk_resolved_congr`: an answer of the first tier is given with and without the
  second.
* `Classifier.walk_of_no_resolver`: without a resolver there is only the second.
* `Classifier.walk_eq_of_superclass`: where the superclass has a symbol, its spelling makes no
  difference; `Node.readsAlike_within` lets it be rewritten in place.
* `Classifier.tiers_stay_apart` says this of the questions about a class.
-/

namespace Classifier

variable {c : Classifier} {n n' : Node} {candidates : List SpecStyle} {textual : Bool}

/-! ### The tier of an answer -/

/-- A walk without the fallback answers in the first tier. -/
theorem confidence_of_walk_false {found : Classification}
    (h : c.walk n candidates false = some found) : found.confidence = .resolved := by
  obtain ⟨k, -, -, hwalk⟩ := exists_walk_eq_verdict c n candidates
  rw [hwalk] at h
  obtain ⟨-, ⟨hresolved, -⟩ | ⟨-, htextual, -⟩⟩ := verdict_eq_some_iff.1 h
  · exact hresolved
  · cases htextual

/-- An answer of the first tier does not depend on the fallback. -/
theorem walk_resolved_congr (c : Classifier) (n : Node) (candidates : List SpecStyle)
    (textual textual' : Bool) (style : SpecStyle) :
    c.walk n candidates textual = some ⟨style, .resolved⟩ ↔
      c.walk n candidates textual' = some ⟨style, .resolved⟩ := by
  obtain ⟨k, -, -, hwalk⟩ := exists_walk_eq_verdict c n candidates
  rw [hwalk, hwalk, verdict_eq_some_iff, verdict_eq_some_iff]
  simp

/-- The first tier finds a style just if the classification has it with that tier. -/
theorem classifyResolved_eq_some_iff (style : SpecStyle) :
    c.classifyResolved n = some style ↔ c.classify n = some ⟨style, .resolved⟩ := by
  rw [classify, walk_resolved_congr c n c.registry.styles true false, classifyResolved,
    Option.map_eq_some_iff]
  constructor
  · rintro ⟨⟨found, confidence⟩, hfound, rfl⟩
    obtain rfl : confidence = .resolved := confidence_of_walk_false hfound
    exact hfound
  · intro h
    exact ⟨_, h, rfl⟩

/-- It finds none for a class that is classified by its short name. -/
theorem classifyResolved_of_textual {style : SpecStyle}
    (h : c.classify n = some ⟨style, .textual⟩) : c.classifyResolved n = none := by
  by_contra hne
  obtain ⟨other, hother⟩ := Option.ne_none_iff_exists'.1 hne
  cases h.symm.trans ((classifyResolved_eq_some_iff other).1 hother)

/-! ### Without a resolver -/

/-- Without a resolver the written superclass decides, by its short name. -/
theorem walk_of_no_resolver (hr : c.resolver = none) (n : Node) (candidates : List SpecStyle) :
    c.walk n candidates true =
      ((superTypeName? n).bind (matchShortName candidates)).map (⟨·, .textual⟩) := by
  rw [walk, Option.map_bind]
  congr 1
  funext written
  have hm : c.meaning? written (.ofNode n) = none := by rw [meaning?, hr, Option.bind_none]
  rw [maxSteps, walkFrom_succ, hm]
  rfl

/-! ### The spelling of the superclass -/

/-- Classes of one name that extend the same symbol, however they write it, are walked from
alike. -/
theorem walk_eq_of_superclass {written written' : String} {s : ClassSymbol}
    (hname : classFqName? n' = classFqName? n) (hwritten : superTypeName? n = some written)
    (hwritten' : superTypeName? n' = some written')
    (hs : c.meaning? written (.ofNode n) = some s) (hs' : c.meaning? written' (.ofNode n') = some s)
    (candidates : List SpecStyle) (textual : Bool) :
    c.walk n' candidates textual = c.walk n candidates textual := by
  rw [walk, walk, hwritten, hwritten', Option.bind_some, Option.bind_some, maxSteps, walkFrom_succ,
    walkFrom_succ, hs, hs', hname]

/-- A file that imports `p.A`, around the hole for a class. -/
def importingFile : Context Label :=
  [⟨⟨⟨.file, none, .origin⟩, 0⟩, [.node ⟨⟨.importDirective, some "p.A", .origin⟩, 1⟩ []], []⟩]

/-- A class without its supertypes. -/
def bareClass : Frame Label :=
  ⟨⟨⟨.classDeclaration, none, .origin⟩, 2⟩, [.node ⟨⟨.identifier, some "T", .origin⟩, 3⟩ []], []⟩

/-- A list of one supertype with a constructor call. -/
def listNaming (written : String) : SyntaxTree :=
  .node ⟨⟨.superTypeList, none, .origin⟩, 4⟩
    [.node ⟨⟨.superTypeCallEntry, none, .origin⟩, 5⟩
      [.node ⟨⟨.typeReference, some written, .origin⟩, 6⟩ []]]

end Classifier

end KotestOutline
