import KotestOutline.Proofs.Classification.Chain
import KotestOutline.Proofs.Lowering.Building
import KotestOutline.Proofs.Lowering.Row
import KotestOutline.Proofs.Recognition.Listing
import KotestOutline.Proofs.Recognition.Match

/-!
# Recognition from a token

A test can also be found from one of its tokens: the quote that opens its name, the identifier of
the function or the dot before its configuration. This way in looks at the class around the token
and climbs by fixed steps.

* `SpecStyle.candidate?_eq_some` lists the climbs.
* `SpecStyle.enclosingClass?_of_candidate?`: a climb that ends at a match stays inside the class.
* `Classifier.exists_node_of_recognizeFromToken?`: in any tree, a token finds what is recognized at
  the node that the test is anchored at.
* `Classifier.exists_token_of_recognize`: in a lowered tree, every recognized node has a token that
  finds it. Together they are `Classifier.recognizeFromToken?_agrees`.
-/

namespace KotestOutline

variable {c : Classifier} {tree : SyntaxTree} {l n p : Node} {t : RecognizedTest}
  {style : SpecStyle}

/-! ### Climbing -/

/-- A call is the one of a callee just if the callee is its first structural child. -/
theorem callOfCallee?_eq_some_iff :
    callOfCallee? p = some n ↔
      p.parent? = some n ∧ n.kind = .callExpression ∧ n.firstElement?.map Node.id = some p.id := by
  simp [callOfCallee?, Option.filter_eq_some_iff, Node.is]

/-- A dotted access is the one of a dot just if the dot is one of its children. -/
theorem expressionOfDot?_eq_some_iff :
    expressionOfDot? l = some n ↔
      l.kind = .dot ∧ l.parent? = some n ∧ n.kind = .dotQualifiedExpression := by
  unfold expressionOfDot?
  by_cases hkind : l.kind = .dot
  · simp [hkind, Option.filter_eq_some_iff, Node.is]
  · simp [hkind, Node.is]

/-- A call is the one of an identifier just if its callee is the reference that the identifier is
in. -/
theorem callOfIdentifier?_eq_some_iff :
    callOfIdentifier? l = some n ↔
      l.kind = .identifier ∧
        ∃ p, l.parent? = some p ∧ p.kind = .nameReference ∧ callOfCallee? p = some n := by
  unfold callOfIdentifier?
  by_cases hkind : l.kind = .identifier
  · simp [hkind, Option.bind_eq_some_iff, Option.filter_eq_some_iff, Node.is, and_assoc]
  · simp [hkind, Node.is]

/-- A call is the one of a quote just if its callee is the string that the quote is in. -/
theorem callOfQuote?_eq_some_iff :
    callOfQuote? l = some n ↔
      l.kind = .openQuote ∧ ∃ p, l.parent? = some p ∧ callOfCallee? p = some n := by
  unfold callOfQuote?
  by_cases hkind : l.kind = .openQuote
  · simp [hkind, Node.is, Option.bind_eq_some_iff]
  · simp [hkind, Node.is]

namespace SpecStyle

/-- The three climbs: to the parent of a dot, and from an identifier or a quote to the call whose
first element is the parent. A quote counts in the flat style only. -/
theorem candidate?_eq_some (h : style.candidate? l = some n) :
    (l.kind = .dot ∧ l.parent? = some n ∧ n.kind = .dotQualifiedExpression) ∨
      ∃ p, l.parent? = some p ∧ callOfCallee? p = some n ∧
        (l.kind = .identifier ∧ p.kind = .nameReference ∨
          l.kind = .openQuote ∧ style.nested? = none) := by
  unfold candidate? at h
  cases hnested : style.nested? with
  | none =>
    rw [hnested, Option.elim_none, FlatStyle.candidate?] at h
    split at h
    · obtain ⟨hkind, p, hparent, hcall⟩ := callOfQuote?_eq_some_iff.1 h
      exact Or.inr ⟨p, hparent, hcall, Or.inr ⟨hkind, rfl⟩⟩
    · exact Or.inl (expressionOfDot?_eq_some_iff.1 h)
    · cases h
  | some rules =>
    rw [hnested, Option.elim_some, NestedStyle.candidate?] at h
    split at h
    · split at h
      · obtain ⟨hkind, p, hparent, hp, hcall⟩ := callOfIdentifier?_eq_some_iff.1 h
        exact Or.inr ⟨p, hparent, hcall, Or.inl ⟨hkind, hp⟩⟩
      · cases h
    · exact Or.inl (expressionOfDot?_eq_some_iff.1 h)
    · cases h

/-- The candidate for a dot is its dotted access. -/
theorem candidate?_of_dot (style : SpecStyle) (hl : l.kind = .dot) :
    style.candidate? l = expressionOfDot? l := by
  unfold candidate?
  cases style.nested? with
  | none => rw [Option.elim_none, FlatStyle.candidate?, hl]
  | some rules => rw [Option.elim_some, NestedStyle.candidate?, hl]

/-- The candidate for a quote in a flat style is the call of its string. -/
theorem candidate?_of_quote (hflat : style.nested? = none) (hl : l.kind = .openQuote) :
    style.candidate? l = callOfQuote? l := by
  rw [candidate?, hflat, Option.elim_none, FlatStyle.candidate?, hl]

/-- The candidate for an identifier in a style with containers is the call of the function, if the
function is one of the two of the style. -/
theorem candidate?_of_identifier {rules : NestedStyle} (hnested : style.nested? = some rules)
    (hl : l.kind = .identifier) (htext : l.text = rules.testFn ∨ l.text = rules.containerFn) :
    style.candidate? l = callOfIdentifier? l := by
  have hfunction : (l.text == rules.testFn || l.text == rules.containerFn) = true := by
    simpa using htext
  rw [candidate?, hnested, Option.elim_some, NestedStyle.candidate?, hl]
  dsimp only
  rw [hfunction]
  rfl

/-! ### Staying in the class -/

/-- In the flat style the callee of a matched call is a string, as it has the number of the
receiver. -/
theorem kind_of_callee (hids : tree.HasDistinctIds) (hp : p ∈ tree.nodes) (hn : n ∈ tree.nodes)
    (hflat : style.nested? = none) (hcallee : callOfCallee? p = some n)
    (hmatch : style.tryMatch n = .ok t) : p.kind = .stringTemplate := by
  obtain ⟨-, hcall, hfirst⟩ := callOfCallee?_eq_some_iff.1 hcallee
  rcases (tryMatch_eq_ok hmatch).1 with ⟨rules, -, -, hnested, -⟩ | ⟨-, name, hstring⟩ |
    ⟨hdotted, -⟩
  · rw [hflat] at hnested
    cases hnested
  · obtain ⟨-, receiver, lambda, helements, -, hvalue⟩ := stringCall_eq_ok_iff.1 hstring
    rw [Node.firstElement?, helements] at hfirst
    have hreceiver : receiver ∈ tree.nodes := SyntaxTree.mem_nodes_of_mem_descendants
      (Node.mem_descendants_of_mem_children (Node.mem_children_of_elements_eq helements)) hn
    have hsame : receiver = p := hids.eq_of_id_eq hreceiver hp (Option.some.inj hfirst)
    rw [← hsame]
    exact (stringLiteralValue_eq_ok_iff.1 hvalue).1
  · rw [hcall] at hdotted
    cases hdotted

/-- Where a climb ends at a match, neither of the nodes on the way is a class. -/
theorem enclosingClass?_of_candidate? (hids : tree.HasDistinctIds) (hl : l ∈ tree.nodes)
    (h : style.candidate? l = some n) (hmatch : style.tryMatch n = .ok t) :
    n ∈ tree.nodes ∧ l.enclosingClass? = n.enclosingClass? := by
  have hn := NodeKind.not_isClassOrObject_of_mayDeclareTest (kind_of_tryMatch hmatch)
  rcases candidate?_eq_some h with ⟨-, hparent, -⟩ | ⟨p, hlp, hcallee, hp⟩
  · exact ⟨(SyntaxTree.mem_nodes_of_parent? hparent hl).1,
      Node.enclosingClass?_of_parent? hparent hn⟩
  · have hpn := (callOfCallee?_eq_some_iff.1 hcallee).1
    have hpnodes := (SyntaxTree.mem_nodes_of_parent? hlp hl).1
    have hnnodes := (SyntaxTree.mem_nodes_of_parent? hpn hpnodes).1
    have hpclass : p.kind.isClassOrObject = false := by
      rcases hp with ⟨-, hreference⟩ | ⟨-, hflat⟩
      · rw [hreference]
        rfl
      · rw [kind_of_callee hids hpnodes hnnodes hflat hcallee hmatch]
        rfl
    refine ⟨hnnodes, ?_⟩
    calc l.enclosingClass? = p.enclosingClass? := Node.enclosingClass?_of_parent? hlp hpclass
      _ = n.enclosingClass? := Node.enclosingClass?_of_parent? hpn hn

/-! ### Tokens of a match -/

/-- The first structural child of a call is its callee. -/
theorem callOfCallee?_of_elements {rest : List Node} (hkind : n.kind = .callExpression)
    (helements : n.elements = p :: rest) : callOfCallee? p = some n := by
  have hparent := Node.parent?_of_mem_children (Node.mem_children_of_elements_eq helements)
  refine callOfCallee?_eq_some_iff.2 ⟨hparent, hkind, ?_⟩
  rw [Node.firstElement?, helements]
  rfl

/-- In a lowered tree every match has a token below it that climbs to it. -/
theorem exists_candidate? {src : Source} {cst : Cst} (hn : n ∈ (Cst.lower src cst).nodes)
    (h : style.tryMatch n = .ok t) :
    ∃ l ∈ n.descendants, l.kind.isToken = true ∧ style.candidate? l = some n := by
  -- the child of the callee of a call
  have hdescendant : ∀ {p l : Node} {rest : List Node}, n.elements = p :: rest → l ∈ p.children →
      l ∈ n.descendants := by
    intro p l rest helements hl
    exact Node.mem_below_iff.2 ⟨p, Node.mem_children_of_elements_eq helements, rfl,
      Or.inr (Node.mem_descendants_of_mem_children hl)⟩
  rcases (tryMatch_eq_ok h).1 with ⟨rules, function, name, hnested, hfunction, hcall⟩ |
    ⟨hflat, name, hstring⟩ | ⟨hdotted, -⟩
  · obtain ⟨hkind, callee, arguments, lambda, helements, hname, -⟩ := namedCall_eq_ok_iff.1 hcall
    obtain ⟨hreference, htext⟩ := isName_eq_true_iff.1 hname
    have hchild := Node.mem_children_of_elements_eq helements
    have hcallee : callee ∈ (Cst.lower src cst).nodes :=
      SyntaxTree.mem_nodes_of_mem_descendants (Node.mem_descendants_of_mem_children hchild) hn
    obtain ⟨l, hl, hlkind, hltext⟩ := Cst.exists_identifier hcallee hreference
    have hlfunction : l.text = rules.testFn ∨ l.text = rules.containerFn := by
      rw [hltext, htext]
      exact hfunction
    refine ⟨l, hdescendant helements hl, by rw [hlkind]; rfl, ?_⟩
    rw [candidate?_of_identifier hnested hlkind hlfunction]
    exact callOfIdentifier?_eq_some_iff.2 ⟨hlkind, callee, Node.parent?_of_mem_children hl,
      hreference, callOfCallee?_of_elements hkind helements⟩
  · obtain ⟨hkind, receiver, lambda, helements, -, hvalue⟩ := stringCall_eq_ok_iff.1 hstring
    have hterminated := (stringLiteralValue_eq_ok_iff.1 hvalue).2.1
    rw [isTerminated, Bool.and_eq_true, Bool.and_eq_true] at hterminated
    obtain ⟨l, hquote⟩ := Option.isSome_iff_exists.1 hterminated.1.1
    have hl : l ∈ receiver.children := List.mem_of_find?_eq_some hquote
    have hlkind : l.kind = .openQuote := by simpa [Node.is] using List.find?_some hquote
    refine ⟨l, hdescendant helements hl, by rw [hlkind]; rfl, ?_⟩
    rw [candidate?_of_quote hflat hlkind]
    exact callOfQuote?_eq_some_iff.2 ⟨hlkind, receiver, Node.parent?_of_mem_children hl,
      callOfCallee?_of_elements hkind helements⟩
  · obtain ⟨l, hl, hkind⟩ := Cst.exists_dot hn hdotted
    refine ⟨l, Node.mem_descendants_of_mem_children hl, by rw [hkind]; rfl, ?_⟩
    rw [candidate?_of_dot style hkind]
    exact expressionOfDot?_eq_some_iff.2 ⟨hkind, Node.parent?_of_mem_children hl, hdotted⟩

end SpecStyle

namespace Classifier

/-- A test is recognized at a token just if the class around the token has a style that recognizes
its candidate for it. -/
theorem recognizeFromToken?_eq_some_iff :
    c.recognizeFromToken? l = some t ↔
      ∃ k style n, l.enclosingClass? = some k ∧ c.resolveStyle k = some style ∧
        style.candidate? l = some n ∧ style.tryRecognize c.isSpecificationOf n = .ok t := by
  unfold recognizeFromToken?
  constructor
  · intro h
    split_ifs at h
    · obtain ⟨style, hstyle, h⟩ := Option.bind_eq_some_iff.1 h
      obtain ⟨k, hk, hstyle⟩ := Option.bind_eq_some_iff.1 hstyle
      obtain ⟨n, hn, h⟩ := Option.bind_eq_some_iff.1 h
      exact ⟨k, style, n, hk, hstyle, hn, SpecStyle.recognize?_eq_some_iff.1 h⟩
  · rintro ⟨k, style, n, hk, hstyle, hn, h⟩
    obtain ⟨found, hfound, rfl⟩ := Option.map_eq_some_iff.1 hstyle
    have hmem : found.style ∈ c.registry.styles := by
      obtain ⟨written, -, hwalk⟩ := Option.bind_eq_some_iff.1 hfound
      exact style_mem_of_walkFrom hwalk
    rw [if_pos (List.any_eq_true.2 ⟨found.style, hmem, by rw [hn]; rfl⟩), hk, Option.bind_some,
      hstyle, Option.bind_some, SpecStyle.recognizeFromToken?, hn, Option.bind_some]
    exact SpecStyle.recognize?_eq_some_iff.2 h

/-- What a token finds is what is recognized at the node that the test is anchored at. -/
theorem exists_node_of_recognizeFromToken? (hids : tree.HasDistinctIds) (hl : l ∈ tree.nodes)
    (h : c.recognizeFromToken? l = some t) :
    ∃ n, tree.node? t.anchor = some n ∧ c.recognize n = .ok t := by
  obtain ⟨k, style, n, hk, hstyle, hcandidate, hrec⟩ := recognizeFromToken?_eq_some_iff.1 h
  have hmatch := SpecStyle.tryMatch_of_tryRecognize hrec
  obtain ⟨hn, hclass⟩ := SpecStyle.enclosingClass?_of_candidate? hids hl hcandidate hmatch
  refine ⟨n, hids.node?_eq_some_iff.2 ⟨hn, (SpecStyle.anchor_of_tryMatch hmatch).symm⟩, ?_⟩
  exact recognize_eq_ok_iff.2 ⟨k, style, hclass.symm.trans hk, hstyle, hrec⟩

/-- In a lowered tree every recognized node has a token below it that finds the same test. -/
theorem exists_token_of_recognize {src : Source} {cst : Cst} (hn : n ∈ (Cst.lower src cst).nodes)
    (h : c.recognize n = .ok t) :
    ∃ l ∈ n.descendants, l.kind.isToken = true ∧ c.recognizeFromToken? l = some t := by
  obtain ⟨k, style, hk, hstyle, hrec⟩ := recognize_eq_ok_iff.1 h
  have hmatch := SpecStyle.tryMatch_of_tryRecognize hrec
  obtain ⟨l, hl, htoken, hcandidate⟩ := SpecStyle.exists_candidate? hn hmatch
  obtain ⟨-, hclass⟩ := SpecStyle.enclosingClass?_of_candidate? (Cst.hasDistinctIds_lower src cst)
    (SyntaxTree.mem_nodes_of_mem_descendants hl hn) hcandidate hmatch
  exact ⟨l, hl, htoken, recognizeFromToken?_eq_some_iff.2
    ⟨k, style, n, hclass.trans hk, hstyle, hcandidate, hrec⟩⟩

/-- A token finds only what is recognized at the node that the test is anchored at. In a lowered
tree every recognized node is found from a token below it, so that tokens and nodes find the same
tests. -/
theorem recognizeFromToken?_agrees (c : Classifier) :
    (∀ tree : SyntaxTree, tree.HasDistinctIds → ∀ l ∈ tree.nodes, ∀ t,
      c.recognizeFromToken? l = some t →
        ∃ n, tree.node? t.anchor = some n ∧ c.recognize n = .ok t) ∧
    ∀ (src : Source) (cst : Cst),
      (∀ n ∈ (Cst.lower src cst).nodes, ∀ t, c.recognize n = .ok t →
        ∃ l ∈ n.descendants, l.kind.isToken = true ∧ c.recognizeFromToken? l = some t) ∧
      ∀ t, (∃ l ∈ (Cst.lower src cst).nodes, l.kind.isToken = true ∧
          c.recognizeFromToken? l = some t) ↔
        ∃ n ∈ (Cst.lower src cst).nodes, c.recognize n = .ok t := by
  refine ⟨?_, fun src cst => ⟨?_, fun t => ⟨?_, ?_⟩⟩⟩
  · intro tree hids l hl t h
    exact exists_node_of_recognizeFromToken? hids hl h
  · intro n hn t h
    exact exists_token_of_recognize hn h
  · rintro ⟨l, hl, -, h⟩
    have hids := Cst.hasDistinctIds_lower src cst
    obtain ⟨n, hfound, hrec⟩ := exists_node_of_recognizeFromToken? hids hl h
    exact ⟨n, (hids.node?_eq_some_iff.1 hfound).1, hrec⟩
  · rintro ⟨n, hn, h⟩
    obtain ⟨l, hl, htoken, hfound⟩ := exists_token_of_recognize hn h
    exact ⟨l, SyntaxTree.mem_nodes_of_mem_descendants hl hn, htoken, hfound⟩

/-- A String Spec with one test. -/
def stringSpecSource : Source := .ofString "class T : StringSpec(\x7b \"a\" \x7b \x7d \x7d)"

/-- The concrete tree of that source. -/
def stringSpecCst : Cst :=
  let construct (kind : String) (start stop : UInt32) (ts : List Cst) : Cst :=
    .node ⟨kind, true, false, false, start, stop⟩ ts
  let token (text : String) (start stop : UInt32) : Cst :=
    .node ⟨text, false, false, false, start, stop⟩ []
  let literal := construct "string_literal" 23 26
    [token "\"" 23 24, construct "string_content" 24 25 [], token "\"" 25 26]
  let test := construct "call_expression" 23 30
    [literal, construct "annotated_lambda" 27 30
      [construct "lambda_literal" 27 30 [token "\x7b" 27 28, token "\x7d" 29 30]]]
  let body := construct "lambda_literal" 21 32 [token "\x7b" 21 22, test, token "\x7d" 31 32]
  let invocation := construct "constructor_invocation" 10 33
    [construct "user_type" 10 20 [construct "identifier" 10 20 []],
      construct "value_arguments" 20 33
        [token "(" 20 21, construct "value_argument" 21 32 [body], token ")" 32 33]]
  construct "source_file" 0 33 [construct "class_declaration" 0 33
    [token "class" 0 5, construct "identifier" 6 7 [], token ":" 8 9,
      construct "delegation_specifiers" 10 33
        [construct "delegation_specifier" 10 33 [invocation]]]]

/-- In a tree of an arena the function name finds what the call is recognized as. In a lowered file
the test has a token that finds it, the quote that opens its name. -/
theorem found_from_tokens :
    (oneTestArena.toTree.HasDistinctIds ∧
      ∃ n, oneTestArena.toTree.node? 6 = some n ∧
        recognize ⟨.full, none⟩ n = .ok ⟨"a", "a", [], .test, 6, .origin⟩) ∧
    ∃ l ∈ (Cst.lower stringSpecSource stringSpecCst).nodes, l.kind.isToken = true ∧
      recognizeFromToken? ⟨.full, none⟩ l =
        some ⟨"a", "a", [], .test, 13, ⟨⟨0, 23⟩, ⟨0, 30⟩⟩⟩ := by
  have hids := oneTestArena.hasDistinctIds_toTree
  have hname : oneTestArena.toTree.nodes.get ⟨8, by decide⟩ ∈ oneTestArena.toTree.nodes :=
    List.get_mem _ _
  have hcall : (Cst.lower stringSpecSource stringSpecCst).nodes.get ⟨13, by decide +kernel⟩ ∈
      (Cst.lower stringSpecSource stringSpecCst).nodes := List.get_mem _ _
  obtain ⟨hsound, hlowered⟩ := recognizeFromToken?_agrees ⟨.full, none⟩
  obtain ⟨n, hn, hrec⟩ := hsound oneTestArena.toTree hids _ hname
    ⟨"a", "a", [], .test, 6, .origin⟩ (by rfl)
  obtain ⟨-, hsame⟩ := hlowered stringSpecSource stringSpecCst
  exact ⟨⟨hids, n, hn, hrec⟩, (hsame _).2 ⟨_, hcall, by decide +kernel⟩⟩

end Classifier

end KotestOutline
