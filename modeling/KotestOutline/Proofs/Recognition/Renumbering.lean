import KotestOutline.Proofs.Recognition.Reform
import KotestOutline.Proofs.Recognition.Token
import KotestOutline.Proofs.Syntax.Arena
import KotestOutline.Recognition

/-!
# Recognition under other numbers

What is recognized in a tree does not depend on the numbers of its nodes, except that it names nodes
by them. Classes and matches never look at numbers. Only the way up from a token compares two of
them, so there the new numbers of different nodes must differ.

* `SpecStyle.tryMatch_renumber` and `Classifier.walk_renumber`: matches and classes.
* `SpecStyle.candidate?_renumber`: the way up from a token.
* `Arena.IsRenaming.recognition_agrees`: two arenas with the same nodes, added in any order.
-/

namespace KotestOutline

variable {f : Nat → Nat} {n : Node} {style : SpecStyle} {c : Classifier} {t : SyntaxTree}

/-! ### Names and contexts -/

/-- The name of a class does not depend on the numbers of its nodes. -/
@[simp] theorem className?_renumber (n : Node) : className? (n.renumber f) = className? n := by
  simp [className?, Function.comp_def]

/-- What a file imports does not depend on the numbers of its nodes. -/
@[simp] theorem ImportContext.ofNode_renumber (n : Node) :
    ImportContext.ofNode (n.renumber f) = .ofNode n := by
  simp [ofNode, ofFile, Function.comp_def]

/-- The name of a superclass does not depend on the numbers of the nodes. -/
@[simp] theorem superTypeName?_renumber (n : Node) :
    superTypeName? (n.renumber f) = superTypeName? n := by
  unfold superTypeName?
  simp only [Node.firstChild?_renumber, Option.bind_eq_bind, Option.bind_map, Function.comp_def,
    ← Option.map_or, Node.text_renumber]

/-- The full name of a class does not depend on the numbers of the nodes around it. -/
@[simp] theorem classFqName?_renumber (n : Node) :
    classFqName? (n.renumber f) = classFqName? n := by
  simp [classFqName?, List.filter_map, Function.comp_def]

/-- The symbol that a class declares does not depend on the numbers of the nodes. -/
@[simp] theorem declaredSymbol?_renumber (n : Node) :
    declaredSymbol? (n.renumber f) = declaredSymbol? n := by
  simp [declaredSymbol?]

/-- The declarations of a tree say nothing about numbers. -/
theorem declaredSymbols_renumber (f : Nat → Nat) (t : SyntaxTree) :
    declaredSymbols (t.renumber f) = declaredSymbols t := by
  rw [declaredSymbols, declaredSymbols, Node.ofTree_renumber]
  simp [List.filter_map, List.filterMap_map, Function.comp_def]

/-! ### Classes -/

namespace Classifier

/-- The walk over superclasses does not depend on the numbers of the nodes. -/
@[simp] theorem walk_renumber (c : Classifier) (n : Node) (candidates : List SpecStyle)
    (textual : Bool) : c.walk (n.renumber f) candidates textual = c.walk n candidates textual := by
  simp [walk]

/-- What a class is classified as does not depend on the numbers of its nodes. -/
@[simp] theorem classify_renumber (c : Classifier) (n : Node) :
    c.classify (n.renumber f) = c.classify n :=
  c.walk_renumber n _ true

/-- The style that a class resolves to does not depend on the numbers of its nodes. -/
@[simp] theorem resolveStyle_renumber (c : Classifier) (n : Node) :
    c.resolveStyle (n.renumber f) = c.resolveStyle n := by
  simp [resolveStyle]

/-- Whether a class is a spec of a style does not depend on the numbers of its nodes. -/
@[simp] theorem isSpecificationOf_renumber (c : Classifier) (n : Node) (style : SpecStyle) :
    c.isSpecificationOf (n.renumber f) style = c.isSpecificationOf n style := by
  simp [isSpecificationOf]

end Classifier

/-! ### Declarations -/

/-- The test under the new number of its node. -/
def RecognizedTest.renumber (f : Nat → Nat) (t : RecognizedTest) : RecognizedTest :=
  { t with anchor := f t.anchor }

/-- The hook under the new number of its node. -/
def Callback.renumber (f : Nat → Nat) (c : Callback) : Callback := { c with anchor := f c.anchor }

namespace SpecStyle

/-- What a node declares does not depend on the numbers of the nodes. -/
theorem outcome_renumber (style : SpecStyle) (n : Node) :
    style.outcome (n.renumber f) = style.outcome n :=
  outcome_eq_of_alike (SyntaxTree.alike_renumber f n.tree)

/-- The names of the containers around a node do not depend on the numbers of the nodes. -/
theorem containerNames_renumber (style : SpecStyle) (n : Node) :
    containerNames style.containerName? (n.renumber f) = containerNames style.containerName? n := by
  have hname : ∀ m : Node, style.containerName? (m.renumber f) = style.containerName? m :=
    fun m => containerName?_congr (style.outcome_renumber m)
  simp [containerNames, List.filter_map, List.filterMap_map, Function.comp_def, hname]

/-- A match names the node by its new number. -/
theorem tryMatch_renumber (style : SpecStyle) (n : Node) :
    style.tryMatch (n.renumber f) = (style.tryMatch n).map (RecognizedTest.renumber f) := by
  rw [tryMatch_eq_map_outcome, tryMatch_eq_map_outcome, outcome_renumber, containerNames_renumber]
  cases style.outcome n with
  | error reason => rfl
  | ok declared => simp [Except.map, RecognizedTest.ofNode, RecognizedTest.renumber]

variable {membership : Membership}

/-- A test is recognized under the new number of its node, if membership does not depend on
numbers. -/
theorem tryRecognize_renumber
    (h : ∀ m : Node, membership (m.renumber f) style = membership m style) (n : Node) :
    style.tryRecognize membership (n.renumber f) =
      (style.tryRecognize membership n).map (RecognizedTest.renumber f) := by
  have hgate : (n.renumber f).enclosingClass?.any (membership · style) =
      n.enclosingClass?.any (membership · style) := by
    rw [Node.enclosingClass?_renumber, Option.any_map]
    simp only [h]
  rw [tryRecognize, tryRecognize, tryMatch_renumber, hgate]
  cases style.tryMatch n with
  | error reason => rfl
  | ok test =>
    show (if _ then _ else _) = Except.map _ (if _ then _ else _)
    split_ifs <;> rfl

/-- A test is found under the new number of its node, if membership does not depend on numbers. -/
theorem recognize?_renumber
    (h : ∀ m : Node, membership (m.renumber f) style = membership m style) (n : Node) :
    style.recognize? membership (n.renumber f) =
      (style.recognize? membership n).map (RecognizedTest.renumber f) := by
  rw [recognize?, recognize?, tryRecognize_renumber h]
  cases style.tryRecognize membership n <;> rfl

end SpecStyle

/-! ### Listings -/

/-- The same specs are listed under new numbers, in the same order. -/
theorem listSpecifications_renumber (c : Classifier) (n : Node) :
    listSpecifications c (n.renumber f) =
      (listSpecifications c n).map (Prod.map (Node.renumber f) id) := by
  simp [listSpecifications, List.filter_map, List.filterMap_map, List.map_filterMap,
    Function.comp_def, Option.map_map]

/-- The same tests are listed under the new numbers of their nodes, in the same order. -/
theorem listTests_renumber {membership : Membership}
    (h : ∀ m : Node, membership (m.renumber f) style = membership m style) (n : Node) :
    listTests style membership (n.renumber f) =
      (listTests style membership n).map (RecognizedTest.renumber f) := by
  simp [listTests, List.filter_map, List.filterMap_map, List.map_filterMap, Function.comp_def,
    SpecStyle.recognize?_renumber h]

/-! ### Hooks -/

/-- Whether a call has a block does not depend on the numbers of its nodes. -/
theorem isBlockCall_renumber (n : Node) : isBlockCall (n.renumber f) = isBlockCall n := by
  unfold isBlockCall
  rw [Node.is_renumber, Node.elements_renumber]
  generalize n.elements = pieces
  rcases pieces with _ | ⟨callee, _ | ⟨lambda, _ | _⟩⟩ <;> simp

/-- The name of a called function does not depend on the numbers of the nodes. -/
theorem calleeName?_renumber (n : Node) : calleeName? (n.renumber f) = calleeName? n := by
  unfold calleeName?
  rw [Node.is_renumber, Node.firstElement?_renumber]
  cases n.firstElement? with
  | none => rfl
  | some callee => simp [Option.filter]

namespace Callback

/-- A hook is read off a call under the new number of the call. -/
theorem ofCall?_renumber (n : Node) : ofCall? (n.renumber f) = (ofCall? n).map (renumber f) := by
  unfold ofCall?
  rw [isBlockCall_renumber, calleeName?_renumber, Node.id_renumber, Node.span_renumber]
  split_ifs
  · rw [Option.map_map]
    rfl
  · rfl

/-- The block of hooks is found in the same place under new numbers. -/
theorem initializerBlock?_renumber (n : Node) :
    initializerBlock? (n.renumber f) = (initializerBlock? n).map (Node.renumber f) := by
  simp only [initializerBlock?, Node.firstChild?_renumber, Option.bind_eq_bind, Option.bind_map,
    Function.comp_def, Option.map_bind]

/-- The hooks of a class are named by the new numbers. -/
theorem ofClass_renumber (n : Node) : ofClass (n.renumber f) = (ofClass n).map (renumber f) := by
  unfold ofClass
  rw [initializerBlock?_renumber]
  cases initializerBlock? n with
  | none => rfl
  | some block =>
    simp [List.filterMap_map, List.map_filterMap, ofCall?_renumber]

end Callback

/-! ### Climbing from a token -/

/-- The dotted access of a dot is found in the same place under new numbers. -/
theorem expressionOfDot?_renumber (n : Node) :
    expressionOfDot? (n.renumber f) = (expressionOfDot? n).map (Node.renumber f) := by
  unfold expressionOfDot?
  rw [Node.is_renumber, Node.parent?_renumber]
  split_ifs
  · simp [Option.filter_map, Function.comp_def]
  · rfl

section Climbing

variable (h : t.KeepsApart f) (hn : n ∈ t.nodes)

include h hn

/-- A node is the first element of its parent exactly if it is under the new numbers. -/
theorem callOfCallee?_renumber :
    callOfCallee? (n.renumber f) = (callOfCallee? n).map (Node.renumber f) := by
  unfold callOfCallee?
  rw [Node.parent?_renumber, Node.id_renumber]
  cases hparent : n.parent? with
  | none => rfl
  | some call =>
    have hcallee : ((call.renumber f).firstElement?.map Node.id == some (f n.id)) =
        (call.firstElement?.map Node.id == some n.id) := by
      rw [Node.firstElement?_renumber]
      cases hfirst : call.firstElement? with
      | none => rfl
      | some first =>
        have hchild : first ∈ call.children :=
          Node.mem_children_of_mem_elements (List.mem_of_mem_head? hfirst)
        have hmem : first ∈ t.nodes :=
          SyntaxTree.mem_nodes_of_mem_descendants (Node.mem_descendants_of_mem_children hchild)
            (SyntaxTree.mem_nodes_of_parent? hparent hn).1
        rw [Bool.eq_iff_iff]
        simpa using ⟨h first hmem n hn, congrArg f⟩
    rw [Option.map_some, Option.filter_some, Option.filter_some, Node.is_renumber, hcallee]
    split_ifs <;> rfl

/-- The call of a quote is found in the same place under numbers that tell the nodes apart. -/
theorem callOfQuote?_renumber :
    callOfQuote? (n.renumber f) = (callOfQuote? n).map (Node.renumber f) := by
  unfold callOfQuote?
  rw [Node.is_renumber, Node.parent?_renumber]
  split_ifs
  · cases hparent : n.parent? with
    | none => rfl
    | some p =>
      rw [Option.map_some, Option.bind_some, Option.bind_some]
      exact callOfCallee?_renumber h (SyntaxTree.mem_nodes_of_parent? hparent hn).1
  · rfl

/-- The call of an identifier is found in the same place under numbers that tell the nodes apart. -/
theorem callOfIdentifier?_renumber :
    callOfIdentifier? (n.renumber f) = (callOfIdentifier? n).map (Node.renumber f) := by
  unfold callOfIdentifier?
  rw [Node.is_renumber, Node.parent?_renumber]
  split_ifs
  · cases hparent : n.parent? with
    | none => rfl
    | some p =>
      simp only [Option.map_some, Option.filter_some, Node.is_renumber]
      split_ifs
      · rw [Option.bind_some, Option.bind_some]
        exact callOfCallee?_renumber h (SyntaxTree.mem_nodes_of_parent? hparent hn).1
      · rfl
  · rfl

/-- A token starts the same expression under the new numbers. -/
theorem SpecStyle.candidate?_renumber (style : SpecStyle) :
    style.candidate? (n.renumber f) = (style.candidate? n).map (Node.renumber f) := by
  unfold candidate?
  cases style.nested? with
  | none =>
    rw [Option.elim_none, Option.elim_none, FlatStyle.candidate?, FlatStyle.candidate?,
      Node.kind_renumber]
    split
    · exact callOfQuote?_renumber h hn
    · exact expressionOfDot?_renumber n
    · rfl
  | some rules =>
    rw [Option.elim_some, Option.elim_some, NestedStyle.candidate?, NestedStyle.candidate?,
      Node.kind_renumber, Node.text_renumber]
    split
    · rw [callOfIdentifier?_renumber h hn]
      split_ifs <;> rfl
    · exact expressionOfDot?_renumber n
    · rfl

/-- A style recognizes the same test at a token under numbers that tell the nodes apart. -/
theorem SpecStyle.recognizeFromToken?_renumber {membership : Membership}
    (hmembership : ∀ m : Node, membership (m.renumber f) style = membership m style) :
    style.recognizeFromToken? membership (n.renumber f) =
      (style.recognizeFromToken? membership n).map (RecognizedTest.renumber f) := by
  rw [recognizeFromToken?, recognizeFromToken?, candidate?_renumber h hn, Option.bind_map,
    Option.map_bind]
  exact congrArg _ (funext fun m => recognize?_renumber hmembership m)

end Climbing

namespace Classifier

/-- What a node is recognized as is named by the new number. -/
theorem recognize_renumber (c : Classifier) (n : Node) :
    c.recognize (n.renumber f) = (c.recognize n).map (RecognizedTest.renumber f) := by
  unfold recognize
  rw [Node.enclosingClass?_renumber, Option.bind_map]
  simp only [Function.comp_def, resolveStyle_renumber]
  cases n.enclosingClass?.bind c.resolveStyle with
  | none => rfl
  | some style =>
    exact style.tryRecognize_renumber (fun m => c.isSpecificationOf_renumber m style) n

/-- The same test is recognized at a token under numbers that tell the nodes apart. -/
theorem recognizeFromToken?_renumber (c : Classifier) (h : t.KeepsApart f) (hn : n ∈ t.nodes) :
    c.recognizeFromToken? (n.renumber f) =
      (c.recognizeFromToken? n).map (RecognizedTest.renumber f) := by
  have hstyle : ∀ style : SpecStyle, style.recognizeFromToken? c.isSpecificationOf (n.renumber f) =
      (style.recognizeFromToken? c.isSpecificationOf n).map (RecognizedTest.renumber f) :=
    fun style => style.recognizeFromToken?_renumber h hn fun m =>
      c.isSpecificationOf_renumber m style
  unfold recognizeFromToken?
  simp only [SpecStyle.candidate?_renumber h hn, Option.isSome_map, Node.enclosingClass?_renumber,
    Option.bind_map, Function.comp_def, resolveStyle_renumber, hstyle]
  split_ifs
  · rw [Option.map_bind]
    rfl
  · rfl

end Classifier

/-! ### Arenas with the same nodes -/

/-- **The order in which nodes are added does not matter.** Two arenas whose nodes match, root to
root, in what they hold and in the order of their children, give the same results under any
registry and resolver, up to the numbers of nodes: the same declarations and specs, and for every
node the same specs below it, the same tests of every style, the same hooks, and the same
recognition at the node and from it as a token. -/
theorem Arena.IsRenaming.recognition_agrees {a b : Arena} (h : IsRenaming f a b) (ha : a.IsBuilt)
    (hb : b.IsBuilt) (c : Classifier) :
    declaredSymbols b.toTree = declaredSymbols a.toTree ∧
    listSpecifications c (.ofTree b.toTree) =
      (listSpecifications c (.ofTree a.toTree)).map (Prod.map (Node.renumber f) id) ∧
    ∀ i < a.size, ∃ n m, a.toTree.node? i = some n ∧ b.toTree.node? (f i) = some m ∧
      m = n.renumber f ∧
      listSpecifications c m = (listSpecifications c n).map (Prod.map (Node.renumber f) id) ∧
      (∀ style, ∀ membership ∈ [c.isSpecificationOf, Membership.assumed],
        listTests style membership m =
          (listTests style membership n).map (RecognizedTest.renumber f)) ∧
      Callback.ofClass m = (Callback.ofClass n).map (Callback.renumber f) ∧
      c.recognize m = (c.recognize n).map (RecognizedTest.renumber f) ∧
      c.recognizeFromToken? m = (c.recognizeFromToken? n).map (RecognizedTest.renumber f) := by
  have htree := h.toTree_eq ha hb
  refine ⟨?_, ?_, fun i hi => ?_⟩
  · rw [htree, declaredSymbols_renumber]
  · rw [htree, Node.ofTree_renumber, listSpecifications_renumber]
  · obtain ⟨n, hn, hm⟩ := h.exists_node? ha hb hi
    have hmem : n ∈ a.toTree.nodes := List.mem_of_find?_eq_some hn
    refine ⟨n, _, hn, hm, rfl, listSpecifications_renumber c n, ?_, Callback.ofClass_renumber n,
      c.recognize_renumber n, c.recognizeFromToken?_renumber (h.keepsApart ha) hmem⟩
    intro style membership hmembership
    rcases List.mem_pair.1 hmembership with rfl | rfl
    · exact listTests_renumber (fun m => c.isSpecificationOf_renumber m style) n
    · exact listTests_renumber (fun _ => rfl) n

/-- The nodes of `oneTestArena`, added level by level. -/
def levelwiseArena : Arena :=
  .ofRows
    [(0, .classDeclaration, none), (1, .identifier, some "T"), (1, .superTypeList, none),
      (1, .callExpression, none), (3, .superTypeCallEntry, none), (4, .nameReference, none),
      (4, .valueArgumentList, none), (4, .lambdaArgument, none),
      (5, .typeReference, some "FunSpec"), (6, .identifier, some "test"),
      (7, .valueArgument, none), (8, .lambdaExpression, none), (11, .stringTemplate, none),
      (13, .openQuote, some "\""), (13, .literalStringEntry, some "a"),
      (13, .closingQuote, some "\"")]

/-- The number of a node of `oneTestArena` in the other order. -/
def levelwiseNumber (i : Nat) : Nat :=
  [0, 1, 2, 3, 5, 9, 4, 6, 10, 7, 11, 13, 14, 15, 16, 8, 12].getD i 0

/-- The two arenas have the same nodes under different numbers. -/
theorem isRenaming_levelwiseArena :
    Arena.IsRenaming levelwiseNumber oneTestArena levelwiseArena := by
  have hmaps : ∀ i < oneTestArena.size, levelwiseNumber i < levelwiseArena.size := by decide
  have hinj : ∀ i < oneTestArena.size, ∀ j < oneTestArena.size,
      levelwiseNumber i = levelwiseNumber j → i = j := by decide
  have hsurj : ∀ k < levelwiseArena.size, ∃ i < oneTestArena.size, levelwiseNumber i = k := by
    decide
  have hcontent : ∀ i < oneTestArena.size,
      levelwiseArena.content? (levelwiseNumber i) = oneTestArena.content? i := by decide
  have hchildren : ∀ i < oneTestArena.size,
      levelwiseArena.childIds (levelwiseNumber i) =
        (oneTestArena.childIds i).map levelwiseNumber := by decide
  exact ⟨⟨hmaps, fun i hi j hj => hinj i hi j hj, hsurj⟩, rfl, hcontent, hchildren⟩

/-- The call that is number 6 in one order is number 4 in the other, and recognized in both. -/
theorem recognize_levelwiseArena :
    oneTestArena.IsBuilt ∧ levelwiseArena.IsBuilt ∧
      ∃ m, levelwiseArena.toTree.node? 4 = some m ∧
        Classifier.recognize ⟨.full, none⟩ m = .ok ⟨"a", "a", [], .test, 4, .origin⟩ := by
  have ha : oneTestArena.IsBuilt := Arena.isBuilt_of_parent_lt rfl (by decide)
  have hb : levelwiseArena.IsBuilt := Arena.isBuilt_of_parent_lt rfl (by decide)
  obtain ⟨-, -, hnodes⟩ :=
    isRenaming_levelwiseArena.recognition_agrees ha hb ⟨.full, none⟩
  obtain ⟨n, m, hn, hm, -, -, -, -, hrecognize, -⟩ := hnodes 6 (by decide)
  have hcall : oneTestArena.toTree.node? 6 =
      some (oneTestArena.toTree.nodes.get ⟨6, by decide⟩) := by
    rfl
  obtain rfl := Option.some.inj (hn.symm.trans hcall)
  exact ⟨ha, hb, m, hm, hrecognize⟩

end KotestOutline
