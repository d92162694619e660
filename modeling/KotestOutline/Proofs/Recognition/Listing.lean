import KotestOutline.Proofs.Recognition.Match
import KotestOutline.Proofs.Suite.Calls
import KotestOutline.Proofs.Syntax.Order
import Mathlib.Data.List.Nodup

/-!
# Listed tests

The tests that a class lists, seen from the tests: the listing has what recognition finds, and the
containers of what it has.
-/

namespace KotestOutline

/-!
## Recognition agrees with the listing

A test can be found from above, in the listing of a spec, and from below, by asking about one node.
Both ways find the same tests.

The way from below asks for the nearest class of the node; the way from above walks under each spec
and enters no class. They meet because the nodes that such a walk finds are exactly those whose
nearest class is the one it starts from.
-/

section

variable {c : Classifier} {tree : SyntaxTree} {n : Node} {t : RecognizedTest}

/-! ### Recognition from below -/

/-- A node is recognized just if its class has a style and the style recognizes the node. -/
theorem Classifier.recognize_eq_ok_iff :
    c.recognize n = .ok t ↔
      ∃ k style, n.enclosingClass? = some k ∧ c.resolveStyle k = some style ∧
        style.tryRecognize c.isSpecificationOf n = .ok t := by
  unfold Classifier.recognize
  cases n.enclosingClass? with
  | none => simp
  | some k => cases hstyle : c.resolveStyle k <;> simp [hstyle]

/-- A recognized node is no class itself. -/
theorem Classifier.kind_of_recognize (h : c.recognize n = .ok t) :
    n.kind.isClassOrObject = false := by
  obtain ⟨k, style, -, -, hrec⟩ := recognize_eq_ok_iff.1 h
  exact NodeKind.not_isClassOrObject_of_mayDeclareTest
    (SpecStyle.kind_of_tryMatch (SpecStyle.tryMatch_of_tryRecognize hrec))

/-! ### The listing from above -/

/-- The listed specs are the classes and objects of the file that are classified as one. -/
theorem mem_listSpecifications {file : Node} {spec : Node × Classification} :
    spec ∈ listSpecifications c file ↔
      spec.1 ∈ file.descendants ∧ spec.1.kind.isClassOrObject = true ∧
        c.classify spec.1 = some spec.2 := by
  obtain ⟨k, classification⟩ := spec
  simp only [listSpecifications, List.mem_filterMap, List.mem_filter, Option.map_eq_some_iff,
    Prod.mk.injEq]
  constructor
  · rintro ⟨k, ⟨hk, hclass⟩, _, hstyle, rfl, rfl⟩
    exact ⟨hk, hclass, hstyle⟩
  · rintro ⟨hk, hclass, hstyle⟩
    exact ⟨k, ⟨hk, hclass⟩, classification, hstyle, rfl, rfl⟩

/-- What is found for some members of a list stands in the order of the members. -/
theorem map_filterMap_sublist {α β γ : Type} {f : α → Option β} {g : β → γ} {h : α → γ}
    (hfound : ∀ a b, f a = some b → g b = h a) (l : List α) :
    ((l.filterMap f).map g).Sublist (l.map h) := by
  induction l with
  | nil => exact List.Sublist.refl _
  | cons a l ih =>
    rw [List.map_cons]
    cases hf : f a with
    | none =>
      rw [List.filterMap_cons_none hf]
      exact ih.cons (h a)
    | some b =>
      rw [List.filterMap_cons_some hf, List.map_cons, hfound a b hf]
      exact ih.cons_cons (h a)

/-- The specs stand in the listing in tree order. -/
theorem listSpecifications_map_fst_sublist (c : Classifier) (file : Node) :
    ((listSpecifications c file).map Prod.fst).Sublist file.descendants := by
  have hclass : ∀ (k : Node) (spec : Node × Classification),
      (c.classify k).map (k, ·) = some spec → spec.1 = id k := by
    intro k spec h
    obtain ⟨classification, -, rfl⟩ := Option.map_eq_some_iff.1 h
    rfl
  have hsub := map_filterMap_sublist hclass (file.descendants.filter (·.kind.isClassOrObject))
  rw [List.map_id] at hsub
  exact hsub.trans List.filter_sublist

/-- The tests of a class are listed in the order of the walk, each at its own node. -/
theorem listTests_map_anchor_sublist (style : SpecStyle) (membership : Membership) (n : Node) :
    ((listTests style membership n).map (·.anchor)).Sublist
      ((n.below NodeKind.isClassOrObject).map Node.id) := by
  rw [listTests_eq_filterMap]
  apply map_filterMap_sublist
  intro m t h
  exact SpecStyle.anchor_of_tryMatch (SpecStyle.tryMatch_of_recognize? h)

/-- Every test of a listed spec stands at a node whose nearest class is the spec. -/
theorem exists_node_of_mem_listTests {spec : Node × Classification}
    (hspec : spec ∈ listSpecifications c (.ofTree tree))
    (ht : t ∈ listTests spec.2.style c.isSpecificationOf spec.1) :
    ∃ m ∈ (Node.ofTree tree).descendants, m.id = t.anchor ∧ m.enclosingClass? = some spec.1 ∧
      spec.2.style.tryRecognize c.isSpecificationOf m = .ok t := by
  obtain ⟨hdesc, hclass, -⟩ := mem_listSpecifications.1 hspec
  obtain ⟨m, hm, hrec⟩ := mem_listTests.1 ht
  refine ⟨m, (Node.descendants_sublist hdesc).subset (Node.mem_descendants_of_mem_below hm), ?_,
    Node.enclosingClass?_of_mem_below hclass hm, hrec⟩
  exact (SpecStyle.anchor_of_tryMatch (SpecStyle.tryMatch_of_tryRecognize hrec)).symm

/-! ### Both ways -/

/-- A listed test of a spec is recognized at the node it stands for, and the class around that node
is the spec. -/
theorem recognize_of_mem_listTests (hids : tree.HasDistinctIds)
    (hn : n ∈ (Node.ofTree tree).descendants) {spec : Node × Classification}
    (hspec : spec ∈ listSpecifications c (.ofTree tree))
    (ht : t ∈ listTests spec.2.style c.isSpecificationOf spec.1) (hanchor : t.anchor = n.id) :
    n.enclosingClass? = some spec.1 ∧ c.recognize n = .ok t := by
  obtain ⟨m, hm, hid, hclass, hrec⟩ := exists_node_of_mem_listTests hspec ht
  have hmn : m = n := hids.eq_of_id_eq (List.mem_cons_of_mem _ hm) (List.mem_cons_of_mem _ hn)
    (hid.trans hanchor)
  subst hmn
  have hstyle : c.resolveStyle spec.1 = some spec.2.style := by
    rw [Classifier.resolveStyle, (mem_listSpecifications.1 hspec).2.2, Option.map_some]
  exact ⟨hclass, Classifier.recognize_eq_ok_iff.2 ⟨spec.1, spec.2.style, hclass, hstyle, hrec⟩⟩

/-- A test that is recognized at a node of a file is listed for one of its specs. -/
theorem exists_mem_listTests_of_recognize (hfile : tree.label.kind = .file)
    (hn : n ∈ (Node.ofTree tree).descendants) (h : c.recognize n = .ok t) :
    ∃ spec ∈ listSpecifications c (.ofTree tree),
      t ∈ listTests spec.2.style c.isSpecificationOf spec.1 ∧ t.anchor = n.id := by
  obtain ⟨k, style, henclosing, hstyle, hrec⟩ := Classifier.recognize_eq_ok_iff.1 h
  obtain ⟨classification, hclassify, rfl⟩ := Option.map_eq_some_iff.1 hstyle
  have hanchor := SpecStyle.anchor_of_tryMatch (SpecStyle.tryMatch_of_tryRecognize hrec)
  rcases Node.mem_below_class_or hn (Classifier.kind_of_recognize h) with
    htop | ⟨k', hk', hclass, hbelow⟩
  · have hroot : tree.label.kind.isClassOrObject = false := by rw [hfile]; rfl
    rw [Node.enclosingClass?_eq_none_of_mem_below hroot htop] at henclosing
    cases henclosing
  · have hk : k' = k :=
      Option.some.inj ((Node.enclosingClass?_of_mem_below hclass hbelow).symm.trans henclosing)
    subst hk
    exact ⟨(k', classification), mem_listSpecifications.2 ⟨hk', hclass, hclassify⟩,
      mem_listTests.2 ⟨n, hbelow, hrec⟩, hanchor⟩

/-- Over all specs of a file together, no node is listed twice. -/
theorem anchors_nodup (c : Classifier) (hids : tree.HasDistinctIds) :
    ((listSpecifications c (.ofTree tree)).flatMap fun spec =>
      (listTests spec.2.style c.isSpecificationOf spec.1).map (·.anchor)).Nodup := by
  have hnodup : ((Node.ofTree tree).descendants.map Node.id).Nodup := hids.tail
  rw [List.nodup_flatMap]
  constructor
  · intro spec hspec
    have hdesc := (mem_listSpecifications.1 hspec).1
    refine List.Nodup.sublist ?_ hnodup
    refine (listTests_map_anchor_sublist spec.2.style c.isSpecificationOf spec.1).trans ?_
    exact ((Node.below_sublist_descendants spec.1 _).trans (Node.descendants_sublist hdesc)).map _
  · have hspecs : ((listSpecifications c (.ofTree tree)).map Prod.fst).Nodup :=
      List.Nodup.sublist (listSpecifications_map_fst_sublist c _) (List.Nodup.of_map _ hnodup)
    refine List.Pairwise.imp_of_mem ?_ (List.pairwise_map.1 hspecs)
    intro spec spec' hspec hspec' hne anchor ha ha'
    obtain ⟨t, ht, rfl⟩ := List.mem_map.1 ha
    obtain ⟨t', ht', hanchor⟩ := List.mem_map.1 ha'
    -- one node with two nearest classes
    obtain ⟨m, hm, hid, hclass, -⟩ := exists_node_of_mem_listTests hspec ht
    have hclass' := (recognize_of_mem_listTests hids hm hspec' ht' (hanchor.trans hid.symm)).1
    exact hne (Option.some.inj (hclass.symm.trans hclass'))

/-- Asking about a node finds exactly the tests that the listing of the specs has at the node. The
spec is the nearest class of the node, no node is listed twice, and the tests of a spec stand in
pre-order. Both front ends number nodes differently: see `Arena.hasDistinctIds_toTree` and
`Cst.hasDistinctIds_lower`. -/
theorem recognize_eq_ok_iff_listed (c : Classifier) (tree : SyntaxTree)
    (hfile : tree.label.kind = .file) (hids : tree.HasDistinctIds) :
    (∀ n ∈ (Node.ofTree tree).descendants, ∀ t, c.recognize n = .ok t ↔
      ∃ spec ∈ listSpecifications c (.ofTree tree),
        t ∈ listTests spec.2.style c.isSpecificationOf spec.1 ∧ t.anchor = n.id) ∧
    (∀ n ∈ (Node.ofTree tree).descendants, ∀ spec ∈ listSpecifications c (.ofTree tree),
      ∀ t ∈ listTests spec.2.style c.isSpecificationOf spec.1,
        t.anchor = n.id → n.enclosingClass? = some spec.1) ∧
    ((listSpecifications c (.ofTree tree)).flatMap fun spec =>
      (listTests spec.2.style c.isSpecificationOf spec.1).map (·.anchor)).Nodup ∧
    ∀ spec ∈ listSpecifications c (.ofTree tree),
      ((listTests spec.2.style c.isSpecificationOf spec.1).map (·.anchor)).Sublist
        (tree.nodes.map Node.id) := by
  refine ⟨?_, ?_, anchors_nodup c hids, ?_⟩
  · intro n hn t
    constructor
    · exact exists_mem_listTests_of_recognize hfile hn
    · rintro ⟨spec, hspec, ht, hanchor⟩
      exact (recognize_of_mem_listTests hids hn hspec ht hanchor).2
  · intro n hn spec hspec t ht hanchor
    exact (recognize_of_mem_listTests hids hn hspec ht hanchor).1
  · intro spec hspec
    have hdesc := (mem_listSpecifications.1 hspec).1
    refine (listTests_map_anchor_sublist spec.2.style c.isSpecificationOf spec.1).trans ?_
    refine List.Sublist.map _ ((Node.below_sublist_descendants spec.1 _).trans ?_)
    exact (Node.descendants_sublist hdesc).trans (List.sublist_cons_self _ _)

/-- A Fun Spec with one test, node by node: the parent of each, its kind and its text. -/
def oneTestArena : Arena :=
  .ofRows
    [(0, .classDeclaration, none), (1, .identifier, some "T"), (1, .superTypeList, none),
      (3, .superTypeCallEntry, none), (4, .typeReference, some "FunSpec"),
      (1, .callExpression, none), (6, .nameReference, none), (7, .identifier, some "test"),
      (6, .valueArgumentList, none), (9, .valueArgument, none), (10, .stringTemplate, none),
      (11, .openQuote, some "\""), (11, .literalStringEntry, some "a"),
      (11, .closingQuote, some "\""), (6, .lambdaArgument, none), (15, .lambdaExpression, none)]

/-- The call in that spec is recognized, so the listing has it, under the class. -/
theorem listed_oneTestArena :
    oneTestArena.toTree.label.kind = .file ∧ oneTestArena.toTree.HasDistinctIds ∧
    ∃ spec ∈ listSpecifications ⟨.full, none⟩ (.ofTree oneTestArena.toTree),
      ⟨"a", "a", [], .test, 6, .origin⟩ ∈
        listTests spec.2.style (Classifier.isSpecificationOf ⟨.full, none⟩) spec.1 := by
  have hids := oneTestArena.hasDistinctIds_toTree
  refine ⟨rfl, hids, ?_⟩
  have hcall : (Node.ofTree oneTestArena.toTree).descendants.get ⟨5, by decide⟩ ∈
      (Node.ofTree oneTestArena.toTree).descendants := List.get_mem _ _
  obtain ⟨hagree, -⟩ := recognize_eq_ok_iff_listed ⟨.full, none⟩ oneTestArena.toTree rfl hids
  obtain ⟨spec, hspec, ht, -⟩ := (hagree _ hcall ⟨"a", "a", [], .test, 6, .origin⟩).1 (by rfl)
  exact ⟨spec, hspec, ht⟩

end

/-!
## Listings are closed under containers

The containers of a test are read off the chain of its ancestors, each asked whether it is a
container. The listing finds containers by another rule, which tries the test function first and
never looks above the class. The two agree: the containers of a listed test are those around the
class and the listed ones above the test.

* `SpecStyle.map_name_recognize?`: a node is recognized as a container exactly if it is asked for as
  one, under the same name.
* `containerNames_of_path`: the names around a node are those around a class above it, and those in
  between.
* `containers_of_mem_listTests`: what the listing has above a listed test.
-/

section

variable {style : SpecStyle} {membership : Membership} {t u : RecognizedTest} {c m n : Node}

/-! ### The two rules for containers -/

/-- Neither trying the test function first nor the membership of the class hides a container, and
nothing else is recognized as one. -/
theorem SpecStyle.map_name_recognize? (style : SpecStyle) (membership : Membership) (n : Node) :
    ((style.recognize? membership n).filter (·.isContainer)).map (·.name) =
      style.containerName? n := by
  ext name
  rw [Option.map_eq_some_iff, containerName?_eq_some_iff]
  simp only [Option.filter_eq_some_iff, recognize?_eq_some_iff]
  constructor
  · rintro ⟨t, ⟨hrec, hkind⟩, rfl⟩
    have hmatch := tryMatch_of_tryRecognize hrec
    cases hnested : style.nested? with
    | none =>
      rw [tryMatch_of_flat hnested] at hmatch
      rcases FlatStyle.tryMatch_eq_ok_iff.1 hmatch with ⟨_, -, rfl⟩ | ⟨_, -, rfl⟩ <;> cases hkind
    | some rules =>
      rw [tryMatch_of_nested? hnested] at hmatch
      rcases NestedStyle.tryMatch_eq_ok_iff.1 hmatch with
        ⟨_, -, rfl⟩ | ⟨-, name, hname, rfl⟩ | ⟨_, -, rfl⟩
      · cases hkind
      · exact ⟨rules, rfl, hname⟩
      · cases hkind
  · rintro ⟨rules, hnested, hname⟩
    obtain ⟨-, callee, arguments, lambda, helements, hcallee, -⟩ := namedCall_eq_ok_iff.1 hname
    -- a callee has one name, and the two functions have different ones
    have htest : ∀ value, namedCall rules.testFn n ≠ .ok value := fun value hvalue =>
      (functions_ne hnested).1 (function_eq_of_namedCall hvalue helements hcallee)
    refine ⟨rules.build n .container name, ⟨?_, rfl⟩, rfl⟩
    rw [tryRecognize_eq_ok_iff, tryMatch_of_nested? hnested, requiresMembership, hnested]
    exact ⟨NestedStyle.tryMatch_eq_ok_iff.2 (Or.inr (Or.inl ⟨htest, name, hname, rfl⟩)), by simp⟩

/-- A node that is a container is listed wherever the walk of a listing meets it. -/
theorem exists_listed_of_containerName? {name : String} (hname : style.containerName? m = some name)
    (hm : m ∈ c.below NodeKind.isClassOrObject) :
    ∃ u ∈ listTests style membership c, u.isContainer = true ∧ u.name = name ∧
      style.tryMatch m = .ok u := by
  rw [← SpecStyle.map_name_recognize? style membership, Option.map_eq_some_iff] at hname
  obtain ⟨u, hu, rfl⟩ := hname
  obtain ⟨hrec, hkind⟩ := Option.filter_eq_some_iff.1 hu
  have hfound := SpecStyle.recognize?_eq_some_iff.1 hrec
  exact ⟨u, mem_listTests.2 ⟨m, hm, hfound⟩, hkind, rfl, SpecStyle.tryMatch_of_tryRecognize hfound⟩

/-! ### The names around a node -/

/-- A listed test has the names around its node, and its path joins them with its own name. -/
theorem SpecStyle.containers_of_tryMatch (h : style.tryMatch n = .ok t) :
    t.containers = containerNames style.containerName? n ∧
      t.path = " -- ".intercalate (t.containers ++ [t.name]) := by
  cases hnested : style.nested? with
  | none =>
    have hnone : ∀ a, style.containerName? a = none := by
      intro a
      rw [containerName?, hnested, Option.bind_none]
    rw [tryMatch_of_flat hnested] at h
    have hnames : containerNames style.containerName? n = [] := by
      rw [containerNames, List.filterMap_eq_nil_iff.2 fun a _ => hnone a, List.reverse_nil]
    rw [hnames]
    rcases FlatStyle.tryMatch_eq_ok_iff.1 h with ⟨name, -, rfl⟩ | ⟨name, -, rfl⟩ <;>
      exact ⟨rfl, joinPath_eq_intercalate [] name⟩
  | some rules =>
    rw [tryMatch_of_nested? hnested] at h
    rw [containerName?_of_nested? hnested]
    rcases NestedStyle.tryMatch_eq_ok_iff.1 h with
      ⟨name, -, rfl⟩ | ⟨-, name, -, rfl⟩ | ⟨name, -, rfl⟩ <;>
      exact ⟨rfl, joinPath_eq_intercalate _ name⟩

/-- Only calls are containers, so the walk up may as well ask every ancestor. -/
theorem containerNames_eq (style : SpecStyle) (n : Node) :
    containerNames style.containerName? n =
      n.ancestors.reverse.filterMap style.containerName? := by
  rw [containerNames, List.filterMap_filter, ← List.filterMap_reverse]
  apply List.filterMap_congr
  intro a _
  split_ifs with hcall
  · rfl
  · symm
    apply SpecStyle.containerName?_eq_none
    intro rules _ name hname
    exact hcall (beq_iff_eq.2 (kind_of_namedCall hname))

/-- Between a class and a node under it, the names add up. -/
theorem containerNames_of_path {path : List Node} (hclass : c.kind.isClassOrObject = true)
    (hpath : m.ancestors = path ++ c :: c.ancestors) :
    containerNames style.containerName? m =
      containerNames style.containerName? c ++ path.reverse.filterMap style.containerName? := by
  have hnone : style.containerName? c = none := by
    apply SpecStyle.containerName?_eq_none
    intro rules _ name hname
    rw [kind_of_namedCall hname] at hclass
    cases hclass
  rw [containerNames_eq, containerNames_eq, hpath, List.reverse_append, List.reverse_cons,
    List.filterMap_append, List.filterMap_append, List.filterMap_cons_none hnone,
    List.filterMap_nil, List.append_nil]

/-! ### The listed containers -/

variable {tree : SyntaxTree} {path : List Node}

/-- The names of the listed containers above a node are the names asked for on the way down to it
from the class. -/
theorem map_name_filter_listTests
    (habove : (c.below NodeKind.isClassOrObject).filter (tree.isAbove ·.id m.id) = path.reverse) :
    ((listTests style membership c).filter fun u =>
        u.isContainer && tree.isAbove u.anchor m.id).map (·.name) =
      path.reverse.filterMap style.containerName? := by
  rw [← habove, List.filterMap_filter, listTests_eq_filterMap, ← List.filterMap_eq_filter,
    List.filterMap_filterMap, List.map_filterMap]
  apply List.filterMap_congr
  intro x _
  rw [← SpecStyle.map_name_recognize? style membership x]
  cases hfound : style.recognize? membership x with
  | none => simp
  | some u =>
    have hanchor := SpecStyle.anchor_of_tryMatch (SpecStyle.tryMatch_of_recognize? hfound)
    by_cases hkind : u.isContainer = true <;>
      by_cases hover : tree.isAbove x.id m.id = true <;>
        simp [Option.guard, hanchor, hkind, hover, Option.filter]

/-- Each of those names is the name of a listed container, which has the names before it around
itself. -/
theorem exists_listed_of_segment (hclass : c.kind.isClassOrObject = true)
    (hpath : m.ancestors = path ++ c :: c.ancestors)
    (habove : (c.below NodeKind.isClassOrObject).filter (tree.isAbove ·.id m.id) = path.reverse)
    {outer inner : List String} {name : String}
    (hnames : path.reverse.filterMap style.containerName? = outer ++ name :: inner) :
    ∃ u ∈ listTests style membership c, u.isContainer = true ∧ u.name = name ∧
      u.containers = containerNames style.containerName? c ++ outer ∧
      tree.isAbove u.anchor m.id = true := by
  obtain ⟨front, back, hsplit, rfl, hback⟩ := List.filterMap_eq_append_iff.1 hnames
  obtain ⟨skipped, a, rest, rfl, hskipped, hname, -⟩ := List.filterMap_eq_cons_iff.1 hback
  have hmem : a ∈ path.reverse := by
    rw [hsplit]
    simp
  rw [← habove] at hmem
  obtain ⟨ha, hover⟩ := List.mem_filter.1 hmem
  have hchain : m.ancestors =
      rest.reverse ++ a :: ((front ++ skipped).reverse ++ c :: c.ancestors) := by
    rw [hpath, ← List.reverse_reverse path, hsplit]
    simp
  have hup : a.ancestors = (front ++ skipped).reverse ++ c :: c.ancestors :=
    Node.ancestors_of_append hchain
  obtain ⟨u, hu, hkind, hname', hmatch⟩ := exists_listed_of_containerName? hname ha
  refine ⟨u, hu, hkind, hname', ?_, (SpecStyle.anchor_of_tryMatch hmatch).symm ▸ hover⟩
  rw [(SpecStyle.containers_of_tryMatch hmatch).1, containerNames_of_path hclass hup,
    List.reverse_reverse, List.filterMap_append, List.filterMap_eq_nil_iff.2 hskipped,
    List.append_nil]

/-- **A listing is closed under containers.** The containers of a listed test are those around the
class, then the listed containers above the test, in list order; the path joins them with the name
of the test. Every segment that is not from around the class is the name of a listed container with
the segments before it around itself. A class inside no container, where `containerNames` is empty,
has no other segments. -/
theorem containers_of_mem_listTests (hids : tree.HasDistinctIds) (hc : c ∈ tree.nodes)
    (hclass : c.kind.isClassOrObject = true) (ht : t ∈ listTests style membership c) :
    t.containers = containerNames style.containerName? c ++
        ((listTests style membership c).filter fun u =>
          u.isContainer && tree.isAbove u.anchor t.anchor).map (·.name) ∧
      t.path = " -- ".intercalate (t.containers ++ [t.name]) ∧
      ∀ outer name inner,
        t.containers = containerNames style.containerName? c ++ (outer ++ name :: inner) →
          ∃ u ∈ listTests style membership c, u.isContainer = true ∧ u.name = name ∧
            u.containers = containerNames style.containerName? c ++ outer ∧
            tree.isAbove u.anchor t.anchor = true := by
  obtain ⟨m, hm, hrec⟩ := mem_listTests.1 ht
  have hmatch := SpecStyle.tryMatch_of_tryRecognize hrec
  obtain ⟨hcontainers, hjoined⟩ := SpecStyle.containers_of_tryMatch hmatch
  obtain ⟨path, hpath, habove⟩ := hids.exists_filter_isAbove_below hc hm
  rw [SpecStyle.anchor_of_tryMatch hmatch]
  refine ⟨?_, hjoined, ?_⟩
  · rw [hcontainers, containerNames_of_path hclass hpath, map_name_filter_listTests habove]
  · intro outer name inner hnames
    apply exists_listed_of_segment hclass hpath habove
    rwa [hcontainers, containerNames_of_path hclass hpath, List.append_cancel_left_eq] at hnames

/-- The rows of a call with a name and a trailing lambda, numbered from `start` on. The lambda is
the row `start + 10`. -/
def callRows (parent start : Nat) (function name : String) :
    List (Nat × NodeKind × Option String) :=
  [(parent, .callExpression, none), (start, .nameReference, none),
    (start + 1, .identifier, some function), (start, .valueArgumentList, none),
    (start + 3, .valueArgument, none), (start + 4, .stringTemplate, none),
    (start + 5, .openQuote, some "\""), (start + 5, .literalStringEntry, some name),
    (start + 5, .closingQuote, some "\""), (start, .lambdaArgument, none),
    (start + 9, .lambdaExpression, none)]

/-- A class with a test in a container, and another class in that container with a test. -/
def nestedClassArena : Arena :=
  .ofRows <| [(0, .classDeclaration, none)] ++ callRows 1 2 "context" "a" ++
    callRows 12 13 "test" "b" ++ [(12, .classDeclaration, none)] ++ callRows 24 25 "test" "c"

/-- The test of the outer class has the listed container above it. For the inner class the container
is not listed but around the class. -/
theorem containers_nestedClassArena :
    ∃ c ∈ nestedClassArena.toTree.nodes, ∃ c' ∈ nestedClassArena.toTree.nodes,
      (∃ t ∈ listTests .funSpec .assumed c, t.name = "b" ∧ t.path = "a -- b" ∧
        t.containers = containerNames (SpecStyle.containerName? .funSpec) c ++ ["a"]) ∧
      ∃ t ∈ listTests .funSpec .assumed c', t.name = "c" ∧ t.path = "a -- c" ∧
        t.containers = containerNames (SpecStyle.containerName? .funSpec) c' ++ [] := by
  have hids := nestedClassArena.hasDistinctIds_toTree
  let c := nestedClassArena.toTree.nodes.get ⟨1, by decide⟩
  let c' := nestedClassArena.toTree.nodes.get ⟨24, by decide⟩
  have ht : ⟨"b", "a -- b", ["a"], .test, 13, .origin⟩ ∈ listTests .funSpec .assumed c := by decide
  have ht' : ⟨"c", "a -- c", ["a"], .test, 25, .origin⟩ ∈ listTests .funSpec .assumed c' := by
    decide
  obtain ⟨hlisted, -⟩ := containers_of_mem_listTests hids (List.get_mem _ _) rfl ht
  obtain ⟨hlisted', -⟩ := containers_of_mem_listTests hids (List.get_mem _ _) rfl ht'
  have habove : (listTests .funSpec .assumed c).filter (fun u =>
      u.isContainer && nestedClassArena.toTree.isAbove u.anchor 13) =
        [⟨"a", "a", [], .container, 2, .origin⟩] := by decide
  have habove' : (listTests .funSpec .assumed c').filter (fun u =>
      u.isContainer && nestedClassArena.toTree.isAbove u.anchor 25) = [] := by decide
  rw [habove] at hlisted
  rw [habove'] at hlisted'
  exact ⟨c, List.get_mem _ _, c', List.get_mem _ _, ⟨_, ht, rfl, rfl, hlisted⟩,
    ⟨_, ht', rfl, rfl, hlisted'⟩⟩

end

end KotestOutline
