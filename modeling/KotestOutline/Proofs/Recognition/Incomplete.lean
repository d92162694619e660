import KotestOutline.Proofs.Recognition.Parts
import KotestOutline.Proofs.Syntax.Missing

/-!
# Incomplete constructs

A declaration is recognized only if the source lacks none of the tokens that close its parts. What
is lacking elsewhere does not matter, and what is lacking in one declaration matters to that one.

* `SpecStyle.tryMatch_addMissing_ne_ok`: a match that begins to lack a token in a part of its own is
  rejected.
* `SpecStyle.outcome_addMissing_of_ne`: a token that one match begins to lack changes the outcome of
  no other node.
* `tryMatch_addMissing` is the result for a tree, with the containers of the other nodes.
-/

namespace KotestOutline

variable {style : SpecStyle} {c m n p : Node} {parent id : Nat} {span : Span}

namespace SpecStyle

/-! ### The match itself -/

/-- A call reads the same parts with a missing token more somewhere. -/
theorem Reads.addMissing (h : style.Reads c p) :
    style.Reads (c.addMissing parent id span) (p.addMissing parent id span) := by
  have hmem : ∀ {e : Node}, e ∈ c.elements →
      e.addMissing parent id span ∈ (c.addMissing parent id span).elements := by
    intro e he
    rw [Node.elements_addMissing]
    exact List.mem_map_of_mem he
  have hone : ∀ {e f : Node}, e.elements = [f] →
      (e.addMissing parent id span).elements = [f.addMissing parent id span] := by
    intro e f he
    rw [Node.elements_addMissing, he, List.map_singleton]
  cases h with
  | arguments h hkind => exact .arguments (hmem h) (by rw [Node.kind_addMissing, hkind])
  | body h hlambda hbody =>
    refine .body (hmem h) (by rw [Node.kind_addMissing, hlambda]) ?_
    rw [Node.firstChild?_addMissing _ (by decide), hbody, Option.map_some]
  | literal hnested h harguments hargument hexpression hkind =>
    exact .literal hnested (hmem h) (by rw [Node.kind_addMissing, harguments]) (hone hargument)
      (hone hexpression) (by rw [Node.kind_addMissing, hkind])
  | string hflat h hkind => exact .string hflat (hmem h) (by rw [Node.kind_addMissing, hkind])

/-- A declaration has the same own parts with a missing token more somewhere. -/
theorem IsOwnPart.addMissing (h : style.IsOwnPart n p) :
    style.IsOwnPart (n.addMissing parent id span) (p.addMissing parent id span) := by
  rcases h with ⟨hkind, hread⟩ | ⟨hkind, receiver, selector, helements, hpart⟩
  · exact Or.inl ⟨by rw [Node.kind_addMissing, hkind], hread.addMissing⟩
  · refine Or.inr ⟨by rw [Node.kind_addMissing, hkind], receiver.addMissing parent id span,
      selector.addMissing parent id span, by rw [Node.elements_addMissing, helements]; rfl, ?_⟩
    rw [Node.kind_addMissing, Node.kind_addMissing]
    rcases hpart with ⟨rfl, htemplate⟩ | ⟨hcall, hread⟩ | ⟨hread, hne⟩
    · exact Or.inl ⟨rfl, htemplate⟩
    · exact Or.inr (Or.inl ⟨hcall, hread.addMissing⟩)
    · exact Or.inr (Or.inr ⟨hread.addMissing, hne⟩)

/-- A match that begins to lack a token in one of its parts is no match any more. -/
theorem tryMatch_addMissing_ne_ok (hpart : style.IsOwnPart n p) (t : RecognizedTest) :
    style.tryMatch (n.addMissing p.id id span) ≠ .ok t := by
  intro h
  have hcomplete := complete_of_match h hpart.addMissing
  rw [Node.hasMissingChild_addMissing, beq_self_eq_true, Bool.or_true] at hcomplete
  cases hcomplete

/-! ### Where nothing is read -/

/-- The value of a string does not depend on what is missing below its entries. -/
theorem entriesValue_addMissing (entries : List Node) :
    entriesValue (entries.map (Node.addMissing parent id span)) = entriesValue entries := by
  induction entries with
  | nil => rfl
  | cons entry entries ih =>
    rw [List.map_cons, entriesValue, entriesValue, Node.kind_addMissing, ih, Node.text_addMissing]

/-- A string that does not get the token keeps its value. -/
theorem stringLiteralValue_addMissing (h : n.is .stringTemplate = true → n.id ≠ parent) :
    stringLiteralValue (n.addMissing parent id span) = stringLiteralValue n := by
  unfold stringLiteralValue
  rw [Node.is_addMissing]
  by_cases htemplate : n.is .stringTemplate = true
  · have hne := h htemplate
    have hchildren : (n.addMissing parent id span).children =
        n.children.map (Node.addMissing parent id span) := by
      rw [Node.children_addMissing, if_neg hne, List.append_nil]
    have hterminated : isTerminated (n.addMissing parent id span) = isTerminated n := by
      rw [isTerminated, isTerminated, Node.firstChild?_addMissing _ (by decide),
        Node.firstChild?_addMissing _ (by decide), Option.isSome_map, Option.isSome_map,
        Node.hasMissingChild_addMissing, beq_eq_false_iff_ne.2 hne, Bool.or_false]
    rw [hterminated, hchildren, entriesValue_addMissing]
  · rw [if_pos (by simpa using htemplate), if_pos (by simpa using htemplate)]

/-- A name stays a name whatever is missing. -/
theorem isName_addMissing (n : Node) (name : String) :
    isName (n.addMissing parent id span) name = isName n name := by
  rw [isName, isName, Node.is_addMissing, Node.text_addMissing]

/-! Unless the token goes to what is read of a call, its elements are the same to every matcher. -/

section Elements

variable {e : Node}

/-- A lambda stays a trailing lambda if nothing is missing in a part that its call reads. -/
theorem isTrailingLambda_addMissing (he : e ∈ c.elements)
    (h : ∀ p, style.Reads c p → p.id ≠ parent) :
    isTrailingLambda (e.addMissing parent id span) = isTrailingLambda e := by
  unfold isTrailingLambda
  rw [Node.is_addMissing, Node.firstChild?_addMissing _ (by decide), Option.any_map]
  by_cases hkind : e.is .lambdaArgument = true
  · cases hbody : e.firstChild? .lambdaExpression with
    | none => rfl
    | some body =>
      have hne := h body (.body he (beq_iff_eq.1 hkind) hbody)
      rw [Option.any_some, Option.any_some, Node.hasMissingChild_addMissing,
        beq_eq_false_iff_ne.2 hne, Bool.or_false]
  · rw [Bool.eq_false_iff.2 hkind, Bool.false_and, Bool.false_and]

/-- An argument list stays complete if nothing is missing in a part that its call reads. -/
theorem hasMissingChild_addMissing_of_arguments (he : e ∈ c.elements)
    (h : ∀ p, style.Reads c p → p.id ≠ parent) (hkind : e.is .valueArgumentList = true) :
    (e.addMissing parent id span).hasMissingChild = e.hasMissingChild := by
  have hne := h e (.arguments he (beq_iff_eq.1 hkind))
  rw [Node.hasMissingChild_addMissing, beq_eq_false_iff_ne.2 hne, Bool.or_false]

/-- A piece of a call keeps its shape if nothing is missing in a part that the call reads. -/
theorem sameShape_addMissing (he : e ∈ c.elements) (h : ∀ p, style.Reads c p → p.id ≠ parent) :
    e.SameShape (e.addMissing parent id span) := by
  refine ⟨fun name => (isName_addMissing e name).symm, (Node.is_addMissing e _).symm, ?_,
    (isTrailingLambda_addMissing he h).symm⟩
  rw [Node.is_addMissing]
  by_cases hkind : e.is .valueArgumentList = true
  · rw [hasMissingChild_addMissing_of_arguments he h hkind]
  · rw [Bool.eq_false_iff.2 hkind, Bool.false_and, Bool.false_and]

/-- The one string of an argument list stays the same if nothing is missing in a part that the call
reads. -/
theorem singleStringArgument_addMissing (hnested : style.nested? ≠ none) (he : e ∈ c.elements)
    (h : ∀ p, style.Reads c p → p.id ≠ parent) (hkind : e.is .valueArgumentList = true) :
    singleStringArgument (e.addMissing parent id span) = singleStringArgument e := by
  unfold singleStringArgument
  rw [hasMissingChild_addMissing_of_arguments he h hkind, Node.elements_addMissing]
  split
  · rfl
  · rcases hargument : e.elements with _ | ⟨argument, _ | _⟩ <;> try rfl
    simp only [List.map_cons, List.map_nil, Node.elements_addMissing]
    rcases hexpression : argument.elements with _ | ⟨expression, _ | _⟩ <;> try rfl
    simp only [List.map_cons, List.map_nil, Node.is_addMissing]
    rw [stringLiteralValue_addMissing]
    intro htemplate
    exact h expression (.literal hnested he (beq_iff_eq.1 hkind) hargument hexpression
      (beq_iff_eq.1 htemplate))

/-- A piece of a call stays the same to a style if nothing is missing in a part that the call
reads. -/
theorem samePiece_addMissing (he : e ∈ c.elements) (h : ∀ p, style.Reads c p → p.id ≠ parent) :
    style.SamePiece e (e.addMissing parent id span) := by
  constructor
  · intro hnested
    refine ⟨sameShape_addMissing he h, fun hkind => ?_⟩
    exact (singleStringArgument_addMissing (Option.isSome_iff_ne_none.1 hnested) he h hkind).symm
  · intro hflat
    refine ⟨(Node.is_addMissing e _).symm, (isTrailingLambda_addMissing he h).symm, ?_⟩
    intro htemplate
    exact (stringLiteralValue_addMissing fun _ =>
      h e (.string hflat he (beq_iff_eq.1 htemplate))).symm

end Elements

/-- What relates each piece of a call to itself with something missing relates the pieces of the two
calls. -/
theorem forall₂_elements_addMissing {relation : Node → Node → Prop}
    (h : ∀ e ∈ c.elements, relation e (e.addMissing parent id span)) :
    List.Forall₂ relation c.elements (c.addMissing parent id span).elements := by
  rw [Node.elements_addMissing, List.forall₂_map_right_iff, List.forall₂_same]
  exact h

/-- A call declares what it did unless the token goes to what is read of it. -/
theorem outcome_addMissing_of_call (hkind : c.kind = .callExpression)
    (h : ∀ p, style.Reads c p → p.id ≠ parent) :
    style.outcome (c.addMissing parent id span) = style.outcome c := by
  symm
  apply outcome_congr (Node.kind_addMissing c).symm
  · intro _
    exact forall₂_elements_addMissing fun _ he => samePiece_addMissing he h
  · intro hdotted
    rw [hkind] at hdotted
    cases hdotted

/-- An operand is the same to a dotted expression unless the token goes to what is read of it. -/
theorem sameOperand_addMissing
    (hcall : c.kind = .callExpression → ∀ p, style.Reads c p → p.id ≠ parent)
    (hstring : style.nested? = none → c.kind = .stringTemplate → c.id ≠ parent) :
    style.SameOperand c (c.addMissing parent id span) := by
  have hvalue : style.nested? = none →
      stringLiteralValue c = stringLiteralValue (c.addMissing parent id span) := by
    intro hflat
    exact (stringLiteralValue_addMissing fun htemplate =>
      hstring hflat (beq_iff_eq.1 htemplate)).symm
  refine ⟨?_, ?_, fun _ => (Node.is_addMissing c _).symm, hvalue⟩
  · by_cases hkind : c.kind = .callExpression
    · exact isConfigCall_congr (Node.is_addMissing c _).symm (forall₂_elements_addMissing
        fun _ he => sameShape_addMissing he (hcall hkind))
    · rw [isConfigCall, isConfigCall, Node.is_addMissing, Node.is, beq_eq_false_iff_ne.2 hkind,
        Bool.false_and, Bool.false_and]
  · intro rules hnested
    by_cases hkind : c.kind = .callExpression
    · exact plainCall_congr (Node.is_addMissing c _).symm (forall₂_elements_addMissing
        fun _ he => (samePiece_addMissing he (hcall hkind)).named (by rw [hnested]; rfl))
    · rw [plainCall, plainCall, Node.is_addMissing, Node.is, beq_eq_false_iff_ne.2 hkind]
      rfl

/-! ### The calls of a chain -/

/-- A call with two elements declares nothing in a nested style. -/
theorem outcome_of_length {rules : NestedStyle} (hnested : style.nested? = some rules)
    (hkind : c.kind = .callExpression) (hlength : c.elements.length = 2) :
    style.outcome c = .error .shape := by
  rw [outcome_of_call hkind, hnested, Option.elim_some, NestedStyle.callOutcome,
    namedCall_of_length_ne (by omega), namedCall_of_length_ne (by omega)]
  rfl

/-- A call of `config` declares nothing. -/
theorem outcome_of_isName {callee : Node} {rest : List Node} (hkind : c.kind = .callExpression)
    (helements : c.elements = callee :: rest) (hname : isName callee configFunction = true) :
    style.outcome c = .error .shape := by
  rw [outcome_of_call hkind]
  cases hnested : style.nested? with
  | none =>
    have hstring : stringCall c = .error .shape := by
      unfold stringCall
      split
      · rfl
      · split
        next helements' =>
          obtain ⟨rfl, -⟩ := List.cons.inj (helements.symm.trans helements')
          simp [Node.is, (isName_eq_true_iff.1 hname).1]
        · rfl
    rw [Option.elim_none, hstring]
    rfl
  | some rules =>
    obtain ⟨-, htest, hcontainer⟩ := functions_ne hnested
    rw [Option.elim_some, NestedStyle.callOutcome,
      namedCall_of_isName_eq_false helements (isName_eq_false hname htest.symm),
      namedCall_of_isName_eq_false helements (isName_eq_false hname hcontainer.symm)]
    rfl

/-- As an operand a call that declares something is the same whatever it lacks. -/
theorem sameOperand_of_match {t : RecognizedTest} (hkind : n.kind = .callExpression)
    (hmatch : style.tryMatch n = .ok t) :
    style.SameOperand n (n.addMissing parent id span) := by
  obtain ⟨kind, name, hout, -⟩ := tryMatch_eq_ok_iff_outcome.1 hmatch
  obtain ⟨callee, rest, helements, hname, hlength⟩ := callee_of_outcome hkind hout
  have helements' : (n.addMissing parent id span).elements =
      callee.addMissing parent id span :: rest.map (Node.addMissing parent id span) := by
    rw [Node.elements_addMissing, helements, List.map_cons]
  refine ⟨?_, fun rules hnested => ?_, fun _ => (Node.is_addMissing n _).symm, fun _ => ?_⟩
  · rw [isConfigCall_of_isName_eq_false helements hname,
      isConfigCall_of_isName_eq_false helements' (by rw [isName_addMissing, hname])]
  · have hthree := hlength (by rw [hnested]; rfl)
    rw [plainCall_of_length_ne (by omega), plainCall_of_length_ne]
    rw [Node.elements_addMissing, List.length_map]
    omega
  · symm
    apply stringLiteralValue_addMissing
    intro htemplate
    rw [beq_iff_eq.1 htemplate] at hkind
    cases hkind

/-- The calls that make up a chain declare nothing, and so with a missing token. -/
theorem outcome_of_mem_elements {t : RecognizedTest} (hkind : n.kind = .dotQualifiedExpression)
    (hmatch : style.tryMatch n = .ok t) (hc : c ∈ n.elements) (hcall : c.kind = .callExpression) :
    style.outcome c = .error .shape ∧
      style.outcome (c.addMissing parent id span) = .error .shape := by
  obtain ⟨kind, name, hout, -⟩ := tryMatch_eq_ok_iff_outcome.1 hmatch
  obtain ⟨receiver, selector, helements, hconfig, hreceiver⟩ := chain_of_outcome hkind hout
  have hcall' : (c.addMissing parent id span).kind = .callExpression := by
    rw [Node.kind_addMissing, hcall]
  rw [helements] at hc
  rcases List.mem_pair.1 hc with rfl | rfl
  · rcases hreceiver with ⟨rules, hnested, hplain⟩ | ⟨-, hvalue⟩
    · obtain ⟨-, _, _, hpieces, -⟩ := plainCall_eq_ok_iff.1 hplain
      have hlength : c.elements.length = 2 := by rw [hpieces]; rfl
      refine ⟨outcome_of_length hnested hcall hlength, outcome_of_length hnested hcall' ?_⟩
      rw [Node.elements_addMissing, List.length_map, hlength]
    · rw [(stringLiteralValue_eq_ok_iff.1 hvalue).1] at hcall
      cases hcall
  · obtain ⟨-, callee, rest, hpieces, hname⟩ := exists_callee_of_isConfigCall hconfig
    have hpieces' : (c.addMissing parent id span).elements =
        callee.addMissing parent id span :: rest.map (Node.addMissing parent id span) := by
      rw [Node.elements_addMissing, hpieces, List.map_cons]
    exact ⟨outcome_of_isName hcall hpieces hname,
      outcome_of_isName hcall' hpieces' (by rw [isName_addMissing, hname])⟩

/-! ### Other nodes -/

variable {tree : SyntaxTree} {t : RecognizedTest}

/-- **Only locally.** Where a match begins to lack a token in one of its parts, every other node
declares what it did. -/
theorem outcome_addMissing_of_ne (hids : tree.HasDistinctIds) (hn : n ∈ tree.nodes)
    (hm : m ∈ tree.nodes) (hne : m ≠ n) (hmatch : style.tryMatch n = .ok t)
    (hpart : style.IsOwnPart n p) :
    style.outcome (m.addMissing p.id id span) = style.outcome m := by
  have hp := hpart.mem_nodes hn
  have hother : ∀ {q : Node}, q ∈ tree.nodes → q ≠ p → q.id ≠ p.id := fun hq hqp hid =>
    hqp (hids.eq_of_id_eq hq hp hid)
  by_cases hcall : m.kind = .callExpression
  · by_cases hread : style.Reads m p
    · -- a call that reads the part is one side of the match, and declares nothing of its own
      rcases hpart.owner hread hcall with rfl | ⟨hkind, hmem⟩
      · exact absurd rfl hne
      · have hshape : style.outcome m = .error .shape ∧
            style.outcome (m.addMissing p.id id span) = .error .shape :=
          outcome_of_mem_elements hkind hmatch hmem hcall
        rw [hshape.1, hshape.2]
    · apply outcome_addMissing_of_call hcall
      intro q hq
      exact hother (hq.mem_nodes hm) fun hqp => hread (hqp ▸ hq)
  · by_cases hdotted : m.kind = .dotQualifiedExpression
    · symm
      apply outcome_congr (Node.kind_addMissing m).symm
      · intro hkind
        exact absurd hkind hcall
      · intro _
        apply forall₂_elements_addMissing
        intro e he
        by_cases hread : e.kind = .callExpression ∧ style.Reads e p
        · -- a side that reads the part is the match itself, the same operand whatever it lacks
          rcases hpart.owner hread.2 hread.1 with rfl | ⟨-, hmem⟩
          · exact sameOperand_of_match hread.1 hmatch
          · exact absurd (eq_of_mem_elements he hmem) hne
        · apply sameOperand_addMissing
          · intro hkind q hq
            exact hother (hq.mem_nodes (mem_nodes_of_mem_elements hm he)) fun hqp =>
              hread ⟨hkind, hqp ▸ hq⟩
          · intro hflat htemplate
            apply hother (mem_nodes_of_mem_elements hm he)
            rintro rfl
            exact hne (hpart.eq_of_flat hflat htemplate he hdotted)
    · rw [outcome_of_other hcall hdotted, outcome_of_other] <;> rw [Node.kind_addMissing]
      · exact hcall
      · exact hdotted

/-! ### Containers -/

/-- No node is above itself. -/
theorem not_mem_ancestors (n : Node) : n ∉ n.ancestors := by
  intro h
  obtain ⟨path, hpath⟩ := Node.exists_append_of_mem_ancestors h
  have hlength := congrArg List.length hpath
  rw [List.length_append, List.length_cons] at hlength
  omega

/-- A node stands once in a chain of ancestors. -/
theorem ne_of_ancestors {path : List Node} (hpath : m.ancestors = path ++ n :: n.ancestors) :
    (∀ a ∈ path, a ≠ n) ∧ ∀ a ∈ n.ancestors, a ≠ n := by
  constructor
  · rintro a ha rfl
    obtain ⟨front, back, rfl⟩ := List.append_of_mem ha
    rw [List.append_assoc, List.cons_append] at hpath
    apply not_mem_ancestors a
    rw [Node.ancestors_of_append hpath]
    simp
  · rintro a ha rfl
    exact not_mem_ancestors a ha

/-- The names of the containers, asked for in the tree with the token. -/
theorem containerNames_addMissing (m : Node) :
    containerNames style.containerName? (m.addMissing parent id span) =
      m.ancestors.reverse.filterMap fun a =>
        style.containerName? (a.addMissing parent id span) := by
  rw [containerNames_eq, Node.ancestors_addMissing, ← List.map_reverse, List.filterMap_map]
  rfl

/-- Away from the match that begins to lack a token, the names stay. -/
theorem filterMap_containerName?_addMissing (hids : tree.HasDistinctIds) (hn : n ∈ tree.nodes)
    (hmatch : style.tryMatch n = .ok t) (hpart : style.IsOwnPart n p) {chain : List Node}
    (hchain : ∀ a ∈ chain, a ∈ tree.nodes ∧ a ≠ n) :
    (chain.filterMap fun a => style.containerName? (a.addMissing p.id id span)) =
      chain.filterMap style.containerName? := by
  apply List.filterMap_congr
  intro a ha
  obtain ⟨hmem, hne⟩ := hchain a ha
  exact containerName?_congr (outcome_addMissing_of_ne hids hn hmem hne hmatch hpart)

/-- Nodes under a container that begins to lack a token lose its segment. -/
theorem containerNames_addMissing_of_mem_ancestors (hids : tree.HasDistinctIds)
    (hn : n ∈ tree.nodes) (hm : m ∈ tree.nodes) (hmatch : style.tryMatch n = .ok t)
    (hpart : style.IsOwnPart n p) (hmem : n ∈ m.ancestors) (hcontainer : t.isContainer = true) :
    ∃ inner, containerNames style.containerName? m = t.containers ++ t.name :: inner ∧
      containerNames style.containerName? (m.addMissing p.id id span) = t.containers ++ inner := by
  obtain ⟨kind, name, hout, ht⟩ := tryMatch_eq_ok_iff_outcome.1 hmatch
  have hname : style.containerName? n = some t.name := by
    subst ht
    rw [containerName?_eq_some_iff_outcome, hout]
    exact congrArg (fun kind => Except.ok (kind, name)) (beq_iff_eq.1 hcontainer)
  have houter : n.ancestors.reverse.filterMap style.containerName? = t.containers := by
    rw [← containerNames_eq, (containers_of_tryMatch hmatch).1]
  obtain ⟨path, hpath⟩ := Node.exists_append_of_mem_ancestors hmem
  obtain ⟨hdown, hup⟩ := ne_of_ancestors hpath
  have hnode : ∀ a ∈ m.ancestors, a ∈ tree.nodes := fun a ha =>
    Node.mem_nodes_of_mem_ancestors hm ha
  have houter' : (n.ancestors.reverse.filterMap fun a =>
      style.containerName? (a.addMissing p.id id span)) = t.containers := by
    rw [filterMap_containerName?_addMissing hids hn hmatch hpart, houter]
    intro a ha
    have ha' := List.mem_reverse.1 ha
    exact ⟨hnode a (by rw [hpath]; simp [ha']), hup a ha'⟩
  have hnone : style.containerName? (n.addMissing p.id id span) = none :=
    containerName?_eq_none_of_not_match (tryMatch_addMissing_ne_ok hpart)
  refine ⟨path.reverse.filterMap style.containerName?, ?_, ?_⟩
  · rw [containerNames_eq, hpath, List.reverse_append, List.reverse_cons, List.append_assoc,
      List.filterMap_append, houter, List.singleton_append, List.filterMap_cons_some hname]
  · rw [containerNames_addMissing, hpath, List.reverse_append, List.reverse_cons,
      List.append_assoc, List.filterMap_append, houter', List.singleton_append, List.filterMap_cons,
      hnone, filterMap_containerName?_addMissing hids hn hmatch hpart]
    intro a ha
    have ha' := List.mem_reverse.1 ha
    exact ⟨hnode a (by rw [hpath]; simp [ha']), hdown a ha'⟩

/-- Everywhere else the containers stay. -/
theorem containerNames_addMissing_eq (hids : tree.HasDistinctIds) (hn : n ∈ tree.nodes)
    (hm : m ∈ tree.nodes) (hmatch : style.tryMatch n = .ok t) (hpart : style.IsOwnPart n p)
    (hnot : ¬(n ∈ m.ancestors ∧ t.isContainer = true)) :
    containerNames style.containerName? (m.addMissing p.id id span) =
      containerNames style.containerName? m := by
  rw [containerNames_addMissing, containerNames_eq]
  apply List.filterMap_congr
  intro a ha
  have ha' := List.mem_reverse.1 ha
  by_cases hself : a = n
  · -- the match is a test then, so that it was no container before
    subst hself
    rw [containerName?_eq_none_of_not_match (tryMatch_addMissing_ne_ok hpart)]
    symm
    apply Option.eq_none_iff_forall_ne_some.2
    intro name hname
    rw [tryMatch_eq_map_outcome, containerName?_eq_some_iff_outcome.1 hname] at hmatch
    cases hmatch
    exact hnot ⟨ha', rfl⟩
  · exact containerName?_congr (outcome_addMissing_of_ne hids hn
      (Node.mem_nodes_of_mem_ancestors hm ha') hself hmatch hpart)

end SpecStyle

/-! ### Incomplete declarations -/

variable {tree : SyntaxTree} {t : RecognizedTest}

/-- **Incomplete constructs are rejected, and only locally.** In a tree whose nodes are numbered
differently, such as that of a file (`Cst.hasDistinctIds_lower`), let one part of a match get a
missing token as its last child, under a new number. The match is rejected. Every other node keeps
its outcome: the reason of its rejection, or its name, kind and place. It keeps its containers too,
but for the segment of the match where that is a container above it. -/
theorem tryMatch_addMissing (id : Nat) (span : Span) (hids : tree.HasDistinctIds)
    (hn : n ∈ tree.nodes) (hmatch : style.tryMatch n = .ok t) (hpart : style.IsOwnPart n p)
    (hnew : ∀ m ∈ tree.nodes, m.id ≠ id) :
    (∃ n', (SyntaxTree.addMissing p.id id span tree).node? n.id = some n' ∧
      ∃ reason, style.tryMatch n' = .error reason) ∧
    ∀ m ∈ tree.nodes, m ≠ n →
      ∃ m', (SyntaxTree.addMissing p.id id span tree).node? m.id = some m' ∧
        (∀ reason, style.tryMatch m = .error reason → style.tryMatch m' = .error reason) ∧
        ∀ r, style.tryMatch m = .ok r → ∃ r', style.tryMatch m' = .ok r' ∧
          r'.name = r.name ∧ r'.kind = r.kind ∧ r'.anchor = r.anchor ∧ r'.span = r.span ∧
          (n ∈ m.ancestors ∧ t.isContainer = true → ∃ inner,
            r.containers = t.containers ++ t.name :: inner ∧
              r'.containers = t.containers ++ inner) ∧
          (¬(n ∈ m.ancestors ∧ t.isContainer = true) → r'.containers = r.containers) := by
  have hfound : ∀ m ∈ tree.nodes,
      (SyntaxTree.addMissing p.id id span tree).node? m.id = some (m.addMissing p.id id span) := by
    intro m hm
    rw [SyntaxTree.node?_addMissing tree (hnew m hm), hids.node?_eq_some_iff.2 ⟨hm, rfl⟩,
      Option.map_some]
  constructor
  · refine ⟨_, hfound n hn, ?_⟩
    cases hafter : style.tryMatch (n.addMissing p.id id span) with
    | error reason => exact ⟨reason, rfl⟩
    | ok t' => exact absurd hafter (SpecStyle.tryMatch_addMissing_ne_ok hpart t')
  · intro m hm hne
    have hout : style.outcome (m.addMissing p.id id span) = style.outcome m :=
      SpecStyle.outcome_addMissing_of_ne hids hn hm hne hmatch hpart
    refine ⟨_, hfound m hm, ?_, ?_⟩
    · intro reason hreason
      rwa [SpecStyle.tryMatch_eq_error_iff, hout, ← SpecStyle.tryMatch_eq_error_iff]
    · intro r hr
      obtain ⟨kind, name, hdeclared, rfl⟩ := SpecStyle.tryMatch_eq_ok_iff_outcome.1 hr
      refine ⟨_, SpecStyle.tryMatch_eq_ok_iff_outcome.2 ⟨kind, name, hout.trans hdeclared, rfl⟩,
        rfl, rfl, Node.id_addMissing m, Node.span_addMissing m, ?_, ?_⟩
      · rintro ⟨hmem, hcontainer⟩
        exact SpecStyle.containerNames_addMissing_of_mem_ancestors hids hn hm hmatch hpart hmem
          hcontainer
      · exact SpecStyle.containerNames_addMissing_eq hids hn hm hmatch hpart

/-- The test in the container of a class. -/
def nestedTest : Node := nestedClassArena.toTree.nodes.get ⟨13, by decide⟩

/-- The container. -/
def nestedContainer : Node := nestedTest.ancestors.get ⟨2, by decide⟩

/-- The argument list of the container. -/
def nestedArguments : Node := nestedContainer.elements.get ⟨1, by decide⟩

/-- In the class with a test in a container, the argument list of the container gets the token: the
container is rejected, and the test is left without containers. -/
theorem tryMatch_addMissing_nestedClassArena :
    ∃ parent,
      (∃ n', (SyntaxTree.addMissing parent 100 .origin nestedClassArena.toTree).node? 2 = some n' ∧
        ∃ reason, SpecStyle.tryMatch .funSpec n' = .error reason) ∧
      ∃ m', (SyntaxTree.addMissing parent 100 .origin nestedClassArena.toTree).node? 13 = some m' ∧
        ∃ r', SpecStyle.tryMatch .funSpec m' = .ok r' ∧ r'.name = "b" ∧ r'.containers = [] := by
  have hm : nestedTest ∈ nestedClassArena.toTree.nodes := List.get_mem _ _
  have hmem : nestedContainer ∈ nestedTest.ancestors := List.get_mem _ _
  have hn : nestedContainer ∈ nestedClassArena.toTree.nodes :=
    Node.mem_nodes_of_mem_ancestors hm hmem
  have hmatch : SpecStyle.tryMatch .funSpec nestedContainer =
      .ok ⟨"a", "a", [], .container, 2, .origin⟩ := by rfl
  have hpart : SpecStyle.IsOwnPart .funSpec nestedContainer nestedArguments :=
    Or.inl ⟨rfl, .arguments (List.get_mem _ _) rfl⟩
  have hnew : ∀ k ∈ nestedClassArena.toTree.nodes, k.id ≠ 100 := by decide
  have hr : SpecStyle.tryMatch .funSpec nestedTest =
      .ok ⟨"b", "a -- b", ["a"], .test, 13, .origin⟩ := by rfl
  obtain ⟨hrejected, hothers⟩ := tryMatch_addMissing 100 .origin
    nestedClassArena.hasDistinctIds_toTree hn hmatch hpart hnew
  have hne : nestedTest ≠ nestedContainer := by
    intro h
    have hid : nestedTest.id = nestedContainer.id := congrArg Node.id h
    revert hid
    decide
  obtain ⟨m', hfound, -, hkept⟩ := hothers nestedTest hm hne
  obtain ⟨r', hr', hname, -, -, -, hlost, -⟩ := hkept _ hr
  obtain ⟨inner, hinner, hcontainers⟩ := hlost ⟨hmem, rfl⟩
  refine ⟨nestedArguments.id, hrejected, m', hfound, r', hr', hname, ?_⟩
  rw [hcontainers]
  exact (List.cons.inj hinner).2.symm

end KotestOutline
