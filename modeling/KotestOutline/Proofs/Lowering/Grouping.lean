import KotestOutline.Proofs.Lowering.Call
import KotestOutline.Proofs.Suite.RoundTrip

/-!
# How a grammar groups calls

Grammars differ in the rows they put around the pieces of a call: arguments and trailing lambda
stand in one row or in two, bare or in a suffix, and so do dot and name of a dotted access. The
pieces are the same, and so is what they lower to.

* `Cst.IsCallOver` and `Cst.IsNavigationOver` list the ways to group.
* `Cst.IsCallOver.callParts_eq`: however a call is grouped, its parts are its three pieces.
* `Cst.exists_sketch_of_grouping`: one sketch for all ways, with a dotted callee or without.
-/

namespace KotestOutline

variable {src : Source}

namespace Cst

/-! ### Ways to group -/

/-- The ways to put callee, arguments and trailing lambda into the row of a call. The rows in
between may have any range. -/
inductive IsCallOver (row : Row) (callee arguments lambda : Cst) : Cst → Prop where
  | flat : IsCallOver row callee arguments lambda (.node row [callee, arguments, lambda])
  /-- The lambda follows a call with the arguments. -/
  | nested {inner : Row} (hkind : inner.kind = "call_expression") (hnamed : inner.named = true) :
      IsCallOver row callee arguments lambda
        (.node row [.node inner [callee, arguments], lambda])
  /-- Arguments and lambda are one suffix. -/
  | suffixed {suffix : Row} (hsuffix : suffix.kind = "call_suffix") :
      IsCallOver row callee arguments lambda
        (.node row [callee, .node suffix [arguments, lambda]])
  /-- Arguments and lambda are a suffix each. -/
  | nestedSuffixed {inner suffix suffix' : Row} (hkind : inner.kind = "call_expression")
      (hnamed : inner.named = true) (hsuffix : suffix.kind = "call_suffix")
      (hsuffix' : suffix'.kind = "call_suffix") :
      IsCallOver row callee arguments lambda
        (.node row [.node inner [callee, .node suffix [arguments]], .node suffix' [lambda]])

/-- The ways to put receiver, dot and name into the row of a dotted access. -/
inductive IsNavigationOver (row : Row) (receiver dot name : Cst) : Cst → Prop where
  | flat : IsNavigationOver row receiver dot name (.node row [receiver, dot, name])
  /-- Dot and name are a suffix. -/
  | suffixed {suffix : Row} (hkind : suffix.kind = "navigation_suffix")
      (hnamed : suffix.named = true) :
      IsNavigationOver row receiver dot name (.node row [receiver, .node suffix [dot, name]])

/-- The kinds that a piece of a call has by its place in it. -/
def callKinds : List String :=
  ["call_expression", "call_suffix", "value_arguments", "annotated_lambda"]

/-- Whether a row is a callee, and the two behind it are its arguments and its lambda. -/
structure ArePieces (callee arguments lambda : Cst) : Prop where
  named : callee.label.named = true
  other : callee.label.kind ∉ callKinds
  arguments : arguments.label.kind = "value_arguments"
  lambda : lambda.label.kind = "annotated_lambda"

/-- Whether some rows are the receiver, the dot and the name of a dotted access. -/
structure AreSteps (src : Source) (receiver dot name : Cst) : Prop where
  named : receiver.label.named = true
  other : receiver.label.kind ≠ "navigation_suffix"
  token : dot.label.named = false
  text_eq : src.rowText dot.label = ['.']
  identifier : name.label.isIdentifier = true

/-! ### Calls -/

variable {row : Row} {callee arguments lambda receiver dot name t u : Cst}

/-- A row that is no suffix stays when suffixes are unwrapped. -/
theorem unwrapSuffixes_of_ne (h : t.label.kind ≠ "call_suffix") (ps : List Part) :
    Part.unwrapSuffixes (toPart src t :: ps) = toPart src t :: Part.unwrapSuffixes ps := by
  rw [Part.unwrapSuffixes_cons, isKind_toPart, beq_eq_false_iff_ne.2 h, if_neg Bool.false_ne_true,
    List.singleton_append]

/-- A suffix is replaced by the rows in it. -/
theorem unwrapSuffixes_of_eq {suffix : Row} (h : suffix.kind = "call_suffix") (ts : List Cst)
    (ps : List Part) : Part.unwrapSuffixes (toPart src (.node suffix ts) :: ps) =
      ts.map (toPart src) ++ Part.unwrapSuffixes ps := by
  rw [Part.unwrapSuffixes_cons, isKind_toPart, RoseTree.label_node, h, beq_self_eq_true, if_pos rfl,
    children_toPart, RoseTree.children_node]

namespace ArePieces

/-- The callee of a call in three pieces is of none of the kinds that a place in a call gives. -/
theorem kind_ne (h : ArePieces callee arguments lambda) {kind : String} (hkind : kind ∈ callKinds) :
    callee.label.kind ≠ kind :=
  fun heq => h.other (heq ▸ hkind)

/-- The callee of a call in three pieces is no call that could be taken in. -/
theorem mergeCallee_eq (h : ArePieces callee arguments lambda) (ps : List Part) :
    Part.mergeCallee (toPart src callee :: ps) = toPart src callee :: ps := by
  apply Part.mergeCallee_of_not_call
  · rw [isNamed_toPart, h.named]
  · rw [isKind_toPart, beq_eq_false_iff_ne]
    exact h.kind_ne (by decide)

/-- A call of the callee with its arguments alone waits for the lambda, and takes it in. -/
theorem mergeCallee_of_inner (h : ArePieces callee arguments lambda) {inner : Row} {ts : List Cst}
    (hkind : inner.kind = "call_expression") (hnamed : inner.named = true)
    (hparts : Part.unwrapSuffixes (ts.map (toPart src)) =
      [toPart src callee, toPart src arguments]) :
    Part.mergeCallee [toPart src (.node inner ts), toPart src lambda] =
      [toPart src callee, toPart src arguments, toPart src lambda] := by
  have hinner : Part.callParts (toPart src (.node inner ts)) =
      [toPart src callee, toPart src arguments] := by
    rw [toPart_node, Part.callParts_eq, hparts, h.mergeCallee_eq]
  have hawaits : Part.awaitsLambda [toPart src callee, toPart src arguments] = true := by
    simp [Part.awaitsLambda, isKind_toPart, h.arguments,
      h.kind_ne (show "annotated_lambda" ∈ callKinds by decide)]
  rw [Part.mergeCallee_of_call _ _ (List.cons_ne_nil _ _) _ (hinner ▸ hawaits), hinner]
  · rfl
  · rw [isNamed_toPart, RoseTree.label_node, hnamed]
  · rw [isKind_toPart, RoseTree.label_node, hkind, beq_self_eq_true]
  · intro p hp
    rw [List.mem_singleton.1 hp, isKind_toPart, h.lambda, beq_self_eq_true]

end ArePieces

/-- However a call is grouped, its parts are its callee, its arguments and its lambda. -/
theorem IsCallOver.callParts_eq (h : IsCallOver row callee arguments lambda t)
    (hpieces : ArePieces callee arguments lambda) (label : Row × List Sketch) :
    Part.callParts (.node label (t.children.map (toPart src))) =
      [toPart src callee, toPart src arguments, toPart src lambda] := by
  have hcallee : callee.label.kind ≠ "call_suffix" := hpieces.kind_ne (by decide)
  have harguments : arguments.label.kind ≠ "call_suffix" := by simp [hpieces.arguments]
  have hlambda : lambda.label.kind ≠ "call_suffix" := by simp [hpieces.lambda]
  have hcall : ∀ {inner : Row} (ts : List Cst), inner.kind = "call_expression" →
      (RoseTree.node inner ts).label.kind ≠ "call_suffix" := by
    intro inner ts hkind
    simp [hkind]
  rw [Part.callParts_eq]
  cases h with
  | flat =>
    simp only [RoseTree.children_node, List.map_cons, List.map_nil]
    rw [unwrapSuffixes_of_ne hcallee, unwrapSuffixes_of_ne harguments,
      unwrapSuffixes_of_ne hlambda]
    exact hpieces.mergeCallee_eq _
  | nested hkind hnamed =>
    simp only [RoseTree.children_node, List.map_cons, List.map_nil]
    rw [unwrapSuffixes_of_ne (hcall _ hkind), unwrapSuffixes_of_ne hlambda]
    apply hpieces.mergeCallee_of_inner hkind hnamed
    rw [List.map_cons, List.map_singleton, unwrapSuffixes_of_ne hcallee,
      unwrapSuffixes_of_ne harguments]
    rfl
  | suffixed hsuffix =>
    simp only [RoseTree.children_node, List.map_cons, List.map_nil]
    rw [unwrapSuffixes_of_ne hcallee, unwrapSuffixes_of_eq hsuffix]
    exact hpieces.mergeCallee_eq _
  | nestedSuffixed hkind hnamed hsuffix hsuffix' =>
    simp only [RoseTree.children_node, List.map_cons, List.map_nil]
    rw [unwrapSuffixes_of_ne (hcall _ hkind), unwrapSuffixes_of_eq hsuffix']
    apply hpieces.mergeCallee_of_inner hkind hnamed
    rw [List.map_cons, List.map_singleton, unwrapSuffixes_of_ne hcallee,
      unwrapSuffixes_of_eq hsuffix]
    rfl

/-- All groupings of a call have the row of the call at their root. -/
theorem IsCallOver.label_eq (h : IsCallOver row callee arguments lambda t) : t.label = row := by
  cases h <;> rfl

/-- A grouped call lowers to the node of a call. -/
theorem IsCallOver.sketches_eq (h : IsCallOver row callee arguments lambda t)
    (hrow : row.IsConstruct "call_expression") :
    sketches src t = [Part.callNode src row (t.children.map (toPart src))] := by
  have hlabel := h.label_eq
  obtain ⟨row', ts⟩ := t
  obtain rfl : row' = row := hlabel
  rw [hrow.sketches_of_call, RoseTree.children_node]

/-! ### Dotted access -/

namespace IsNavigationOver

/-- All groupings of a dotted access have its row at their root. -/
theorem label_eq (h : IsNavigationOver row receiver dot name t) : t.label = row := by
  cases h <;> rfl

/-- However a dotted access is grouped, it has one dot. -/
theorem dotToken?_eq (h : IsNavigationOver row receiver dot name t)
    (hsteps : AreSteps src receiver dot name) :
    Part.dotToken? src (t.children.map (toPart src)) = some (toPart src dot) := by
  have hreceiver : Part.isDotToken src (toPart src receiver) = false := by
    simp [Part.isDotToken, isNamed_toPart, hsteps.named]
  have hother : Part.isKind (toPart src receiver) "navigation_suffix" = false := by
    rw [isKind_toPart, beq_eq_false_iff_ne]
    exact hsteps.other
  have hdot : Part.isDotToken src (toPart src dot) = true := by
    simp [Part.isDotToken, isNamed_toPart, row_toPart, hsteps.token, hsteps.text_eq]
  cases h with
  | flat => simp [Part.dotToken?, hreceiver, hother, hdot]
  | @suffixed suffix hkind hnamed =>
    have hsuffix : Part.isDotToken src (toPart src (.node suffix [dot, name])) = false := by
      simp [Part.isDotToken, isNamed_toPart, hnamed]
    have hsuffix' :
        Part.isKind (toPart src (.node suffix [dot, name])) "navigation_suffix" = true := by
      rw [isKind_toPart, RoseTree.label_node, hkind, beq_self_eq_true]
    simp [Part.dotToken?, hreceiver, hother, hsuffix, hsuffix', children_toPart, hdot]

/-- However a dotted access is grouped, it begins with the receiver. -/
theorem head?_filter_isNamed (h : IsNavigationOver row receiver dot name t)
    (hsteps : AreSteps src receiver dot name) :
    ((t.children.map (toPart src)).filter Part.isNamed).head? = some (toPart src receiver) := by
  have hreceiver : Part.isNamed (toPart src receiver) = true := by
    rw [isNamed_toPart, hsteps.named]
  cases h <;> simp [hreceiver]

/-- However a dotted access is grouped, it selects the name. -/
theorem selector?_eq (h : IsNavigationOver row receiver dot name t)
    (hsteps : AreSteps src receiver dot name) :
    Part.selector? (t.children.map (toPart src)) =
      if name.label.named then some (toPart src name) else none := by
  have hother : name.label.kind ≠ "navigation_suffix" := by
    intro hkind
    have hidentifier := hsteps.identifier
    simp [Row.isIdentifier, hkind, KindNames.identifiers] at hidentifier
  cases h with
  | flat =>
    by_cases hname : name.label.named = true <;>
    simp [Part.selector?, isNamed_toPart, hsteps.named, hsteps.token, hname, hother, isKind_toPart,
      row_toPart, hsteps.identifier]
  | suffixed hkind hnamed =>
    by_cases hname : name.label.named = true <;>
    simp [Part.selector?, isNamed_toPart, hsteps.named, hsteps.token, hname, isKind_toPart,
      row_toPart, hsteps.identifier, hkind, hnamed, Part.namedChildren, children_toPart]

/-- All groupings of a dotted access have the same receiver and the same dot. -/
theorem receiverAndDot_eq (h : IsNavigationOver row receiver dot name t)
    (hsteps : AreSteps src receiver dot name) :
    Part.receiverAndDot src (t.children.map (toPart src)) =
      sketches src receiver ++ [.leaf .dot ['.'] (src.rowSpan dot.label)] := by
  rw [Part.receiverAndDot, h.head?_filter_isNamed hsteps, h.dotToken?_eq hsteps]
  simp only [Option.map_some, Option.getD_some, Option.toList_some, row_toPart]
  rfl

end IsNavigationOver

/-- The row that a dotted access selects. -/
def selected (name : Cst) : Option Row := if name.label.named then some name.label else none

/-- All groupings of a dotted access select the same name. -/
theorem IsNavigationOver.map_row_selector?_eq (h : IsNavigationOver row receiver dot name t)
    (hsteps : AreSteps src receiver dot name) :
    (Part.selector? (t.children.map (toPart src))).map Part.row = selected name := by
  rw [h.selector?_eq hsteps, selected]
  split_ifs
  · rw [Option.map_some, row_toPart]
  · rfl

/-- The call of a selector, up to the end of the row. -/
def selectorCall (src : Source) (row : Row) (name : Cst) (rest : List Part) : Sketch :=
  .composite .callExpression
    ⟨((selected name).map (src.rowSpan · |>.start)).getD (src.rowSpan row).start,
      (src.rowSpan row).stop⟩
    (((selected name).map (Part.nameReference src)).toList ++ Part.sketchAll rest)

/-- A dotted expression that ends in `last`. -/
def dottedSketch (src : Source) (row : Row) (receiver dot : Cst) (last : List Sketch) : Sketch :=
  .composite .dotQualifiedExpression (src.rowSpan row)
    (sketches src receiver ++ [.leaf .dot ['.'] (src.rowSpan dot.label)] ++ last)

/-- However a dotted access is grouped, it is a dotted expression that ends in the selector. -/
theorem IsNavigationOver.sketches_eq (h : IsNavigationOver row receiver dot name t)
    (hrow : row.IsConstruct "navigation_expression") (hsteps : AreSteps src receiver dot name) :
    sketches src t =
      [dottedSketch src row receiver dot
        ((selected name).map (Part.nameReference src)).toList] := by
  have hlabel := h.label_eq
  have hdot := h.dotToken?_eq hsteps
  have hparts := h.receiverAndDot_eq hsteps
  have hselector := h.map_row_selector?_eq hsteps
  obtain ⟨row', ts⟩ := t
  obtain rfl : row' = row := hlabel
  rw [RoseTree.children_node] at hdot hparts hselector
  rw [hrow.sketches_of_navigation, Part.navigationNode, hdot, hparts, ← hselector, Option.map_map]
  rfl

/-- However a dotted callee is grouped, its call is a dotted expression that ends in the call of the
selector. -/
theorem IsNavigationOver.callNode_eq {access : Row} {ps rest : List Part}
    (h : IsNavigationOver access receiver dot name t)
    (haccess : access.IsConstruct "navigation_expression") (hsteps : AreSteps src receiver dot name)
    (hparts : Part.callParts (.node (row, []) ps) = toPart src t :: rest) :
    Part.callNode src row ps =
      dottedSketch src row receiver dot [selectorCall src row name rest] := by
  have hnamed : Part.isNamed (toPart src t) = true := by
    rw [isNamed_toPart, h.label_eq, haccess.named]
  have hkind : Part.isKind (toPart src t) "navigation_expression" = true := by
    rw [isKind_toPart, h.label_eq, haccess.kind_eq, beq_self_eq_true]
  have hdot : (Part.dotToken? src (toPart src t).children).isSome = true := by
    rw [children_toPart, h.dotToken?_eq hsteps, Option.isSome_some]
  rw [Part.callNode_of_dot src hparts hnamed hkind hdot, children_toPart,
    h.receiverAndDot_eq hsteps, h.map_row_selector?_eq hsteps]
  rfl

/-! ### One sketch for all groupings -/

/-- **Lowering does not depend on how a grammar groups calls.** A callee that is itself no piece of
a call, arguments and a trailing lambda lower to one and the same sketch in all four groupings. A
dotted access lowers to the same sketch whether dot and name stand in a suffix or not; and so does a
call of it, in each of the groupings of the call. -/
theorem exists_sketch_of_grouping (src : Source) (hrow : row.IsConstruct "call_expression")
    (harguments : arguments.label.kind = "value_arguments")
    (hlambda : lambda.label.kind = "annotated_lambda") :
    (∀ callee : Cst, callee.label.named = true → callee.label.kind ∉ callKinds →
      ∃ s, ∀ t, IsCallOver row callee arguments lambda t → sketches src t = [s]) ∧
    ∀ (access : Row) (receiver dot name : Cst), access.IsConstruct "navigation_expression" →
      AreSteps src receiver dot name →
        (∃ s, ∀ t, IsNavigationOver access receiver dot name t → sketches src t = [s]) ∧
        ∃ s, ∀ callee t, IsNavigationOver access receiver dot name callee →
          IsCallOver row callee arguments lambda t → sketches src t = [s] := by
  constructor
  · intro callee hnamed hother
    have hpieces : ArePieces callee arguments lambda := ⟨hnamed, hother, harguments, hlambda⟩
    have hcallee : Part.isNamed (toPart src callee) = true := by rw [isNamed_toPart, hnamed]
    have hflat : IsCallOver row callee arguments lambda (.node row [callee, arguments, lambda]) :=
      .flat
    -- the node is that of the first grouping
    refine ⟨Part.callNode src row ([callee, arguments, lambda].map (toPart src)), ?_⟩
    intro t ht
    rw [ht.sketches_eq hrow]
    exact congrArg (fun s => [s]) (Part.callNode_eq_of_callParts (ht.callParts_eq hpieces _)
      (hflat.callParts_eq hpieces _) hcallee)
  · intro access receiver dot name haccess hsteps
    refine ⟨⟨_, fun t ht => ht.sketches_eq haccess hsteps⟩, ⟨dottedSketch src row receiver dot
      [selectorCall src row name ([arguments, lambda].map (toPart src))], ?_⟩⟩
    intro callee t hcallee ht
    have hpieces : ArePieces callee arguments lambda := by
      refine ⟨?_, ?_, harguments, hlambda⟩
      · rw [hcallee.label_eq, haccess.named]
      · rw [hcallee.label_eq, haccess.kind_eq]
        decide
    rw [ht.sketches_eq hrow]
    exact congrArg (fun s => [s])
      (hcallee.callNode_eq haccess hsteps (ht.callParts_eq hpieces _))

end Cst

/-! ### One call -/

namespace DottedCallSample

open FunSpecSample (construct token lambda)

def source : Source := .ofString "x.f() \x7b\x7d"

def receiver : Cst := construct "identifier" 0 1 []

def dot : Cst := token "." 1 2

def name : Cst := construct "identifier" 2 3 []

def arguments : Cst := construct "value_arguments" 3 5 [token "(" 3 4, token ")" 4 5]

def trailing : Cst := lambda 6 8 []

def access : Row := ⟨"navigation_expression", true, false, false, 0, 3⟩

def call : Row := ⟨"call_expression", true, false, false, 0, 8⟩

/-- The call with as few rows as there can be. -/
def flat : Cst := .node call [.node access [receiver, dot, name], arguments, trailing]

/-- The call with a suffix for each piece behind the receiver. -/
def suffixed : Cst :=
  .node call [construct "call_expression" 0 5
    [.node access [receiver, construct "navigation_suffix" 1 3 [dot, name]],
      construct "call_suffix" 3 5 [arguments]], construct "call_suffix" 6 8 [trailing]]

end DottedCallSample

open DottedCallSample in
/-- Both rows lower to the same sketch. -/
theorem sketches_dottedCallSample :
    Cst.AreSteps source receiver dot name ∧
      Cst.sketches source flat = Cst.sketches source suffixed := by
  have hsteps : Cst.AreSteps source receiver dot name :=
    ⟨rfl, by decide, rfl, by decide, by decide⟩
  have hcall : call.IsConstruct "call_expression" := ⟨rfl, rfl, rfl, rfl⟩
  have haccess : access.IsConstruct "navigation_expression" := ⟨rfl, rfl, rfl, rfl⟩
  have harguments : arguments.label.kind = "value_arguments" := rfl
  have htrailing : trailing.label.kind = "annotated_lambda" := rfl
  obtain ⟨-, hdotted⟩ := Cst.exists_sketch_of_grouping source hcall harguments htrailing
  obtain ⟨-, s, hs⟩ := hdotted access receiver dot name haccess hsteps
  have hflat : Cst.sketches source flat = [s] := hs _ _ .flat .flat
  have hsuffixed : Cst.sketches source suffixed = [s] :=
    hs _ _ (.suffixed rfl rfl) (.nestedSuffixed rfl rfl rfl rfl)
  exact ⟨hsteps, hflat.trans hsuffixed.symm⟩

end KotestOutline
