import KotestOutline.Lowering
import Mathlib.Data.List.TakeWhile

/-!
# The parts of a call

How the rows of a call are put together, by the shape of its callee.

* `Part.callParts_eq`: the parts of a call in terms of the rows it consists of.
* `Part.callParts_of_not_call`: a callee that is no call itself stands as it is.
* `Part.callParts_of_call`: a callee that is a call with arguments takes the trailing lambda in.
* `Part.callNode_of_navigation`: a callee with a dot makes a dotted expression, and what follows it
  belongs to the selector.
-/

namespace KotestOutline.Part

variable {src : Source} {row : Row} {callee q : Part} {ps rest : List Part}

/-- Suffixes are unwrapped part by part. -/
theorem unwrapSuffixes_cons (p : Part) (ps : List Part) : unwrapSuffixes (p :: ps) =
    (if p.isKind "call_suffix" then p.children else [p]) ++ unwrapSuffixes ps := rfl

/-- Where there is no suffix, unwrapping changes nothing. -/
theorem unwrapSuffixes_of_forall (h : ∀ p ∈ ps, isKind p "call_suffix" = false) :
    unwrapSuffixes ps = ps := by
  induction ps with
  | nil => rfl
  | cons p ps ih =>
    rw [unwrapSuffixes_cons, ih fun q hq => h q (List.mem_cons_of_mem p hq), h p List.mem_cons_self,
      if_neg Bool.false_ne_true, List.singleton_append]

/-! ### The callee of a call -/

/-- The callee of a suffix is its first named row. -/
theorem suffixCalleeParts_of_find? (h : ps.find? isNamed = some q) :
    suffixCalleeParts ps = callParts q := by
  induction ps with
  | nil => cases h
  | cons p ps ih =>
    rw [suffixCalleeParts]
    cases hp : isNamed p with
    | true =>
      rw [List.find?_cons_of_pos hp, Option.some.injEq] at h
      rw [h, if_pos rfl]
    | false =>
      rw [List.find?_cons_of_neg (by simp [hp])] at h
      rw [if_neg Bool.false_ne_true, ih h]

/-- The callee of a call is the first named row once its suffixes are unwrapped. -/
theorem calleeParts_of_find? (h : (unwrapSuffixes ps).find? isNamed = some q) :
    calleeParts ps = callParts q := by
  induction ps with
  | nil => cases h
  | cons p ps ih =>
    rw [unwrapSuffixes_cons, List.find?_append] at h
    obtain ⟨label, inner⟩ := p
    rw [calleeParts]
    by_cases hsuffix : label.1.kind == "call_suffix"
    · have hkind : isKind (.node label inner) "call_suffix" = true := hsuffix
      rw [hkind, if_pos rfl, RoseTree.children_node] at h
      rw [if_pos hsuffix]
      -- a suffix of tokens only is passed over, as its tokens are when it is unwrapped
      cases hfound : inner.find? isNamed with
      | none =>
        have hany : inner.any isNamed = false := by
          simpa [List.find?_eq_none] using hfound
        rw [hfound, Option.none_or] at h
        rw [hany, if_neg Bool.false_ne_true, ih h]
      | some r =>
        have hany : inner.any isNamed = true :=
          List.any_eq_true.2 ⟨r, List.mem_of_find?_eq_some hfound, List.find?_some hfound⟩
        rw [hfound, Option.some_or] at h
        rw [hany, if_pos rfl, suffixCalleeParts_of_find? (hfound.trans h)]
    · have hkind : isKind (.node label inner) "call_suffix" = false := by
        simpa [isKind, row] using hsuffix
      rw [hkind, if_neg Bool.false_ne_true] at h
      rw [if_neg hsuffix]
      cases hnamed : label.1.named with
      | true =>
        rw [List.find?_cons_of_pos (show isNamed (.node label inner) = true from hnamed),
          Option.some_or, Option.some.injEq] at h
        rw [if_pos rfl, h]
      | false =>
        have hnot : ¬ isNamed (.node label inner) = true := by
          simpa [isNamed, row] using hnamed
        rw [List.find?_cons_of_neg hnot, List.find?_nil, Option.none_or] at h
        rw [if_neg Bool.false_ne_true, ih h]

/-- Whether a call takes in the parts of its callee: the callee is a call with arguments, and only
trailing lambdas follow it. -/
def takesIn (callee : Part) (rest : List Part) : Bool :=
  mayExtend callee rest && awaitsLambda (callParts callee)

/-- Whether a call that consists of these rows takes in the parts of its callee. -/
def isMerged (ps : List Part) : Bool :=
  match ps.dropWhile (!isNamed ·) with
  | [] => false
  | callee :: rest => takesIn callee rest

/-- The parts of a call that consists of these rows. -/
def mergeCallee (ps : List Part) : List Part :=
  match ps.dropWhile (!isNamed ·) with
  | [] => ps
  | callee :: rest =>
    if takesIn callee rest then ps.takeWhile (!isNamed ·) ++ callParts callee ++ rest else ps

/-- A call that takes in no parts of its callee keeps the parts it has. -/
theorem mergeCallee_of_isMerged_eq_false (h : isMerged ps = false) : mergeCallee ps = ps := by
  rw [isMerged] at h
  rw [mergeCallee]
  split
  · rfl
  next callee rest hrest =>
    rw [hrest] at h
    rw [if_neg (by simpa using h)]

/-- The parts of a call, said of the rows it consists of once its suffixes are unwrapped. -/
theorem callParts_eq (label : Row × List Sketch) (children : List Part) :
    callParts (.node label children) = mergeCallee (unwrapSuffixes children) := by
  rw [callParts]
  generalize hparts : unwrapSuffixes children = parts
  have hdrop : parts.drop (parts.takeWhile (!isNamed ·)).length = parts.dropWhile (!isNamed ·) := by
    have hfront := List.prefix_iff_eq_append.1 (List.takeWhile_prefix (l := parts) (!isNamed ·))
    exact List.append_cancel_left (hfront.trans List.takeWhile_append_dropWhile.symm)
  dsimp only
  rw [hdrop, mergeCallee]
  cases hrest : parts.dropWhile (!isNamed ·) with
  | nil => rfl
  | cons callee rest =>
    have hfound : (unwrapSuffixes children).find? isNamed = some callee := by
      rw [hparts, List.find?_eq_head?_dropWhile_not, hrest, List.head?_cons]
    rw [calleeParts_of_find? hfound]
    by_cases hextend : mayExtend callee rest = true
    · simp only [takesIn, hextend, if_true, Bool.true_and]
    · simp only [takesIn, hextend, Bool.false_and, Bool.false_eq_true, if_false]

/-! ### Calls by the shape of their callee -/

/-- A call whose callee is no call keeps the parts it has. -/
theorem mergeCallee_of_not_call (hnamed : isNamed callee = true)
    (hkind : isKind callee "call_expression" = false) :
    mergeCallee (callee :: rest) = callee :: rest := by
  simp [mergeCallee, hnamed, takesIn, mayExtend, hkind]

/-- A call with arguments, followed by trailing lambdas only, is one call with them. -/
theorem mergeCallee_of_call (hnamed : isNamed callee = true)
    (hkind : isKind callee "call_expression" = true) (hrest : rest ≠ [])
    (hlambdas : ∀ p ∈ rest, isKind p "annotated_lambda" = true)
    (hawaits : awaitsLambda (callParts callee) = true) :
    mergeCallee (callee :: rest) = callParts callee ++ rest := by
  have hextend : mayExtend callee rest = true := by
    have hall : (rest.all fun p => !isNamed p || isKind p "annotated_lambda") = true := by
      apply List.all_eq_true.2
      intro p hp
      rw [hlambdas p hp, Bool.or_true]
    have hne : rest.isEmpty = false := by simpa using hrest
    unfold mayExtend
    rw [hkind, hne, hall]
    rfl
  simp [mergeCallee, hnamed, takesIn, hextend, hawaits]

/-- A callee that is no call stands with what follows it. -/
theorem callParts_of_not_call (label : Row × List Sketch) (hnamed : isNamed callee = true)
    (hkind : isKind callee "call_expression" = false)
    (hsuffix : ∀ p ∈ callee :: rest, isKind p "call_suffix" = false) :
    callParts (.node label (callee :: rest)) = callee :: rest := by
  rw [callParts_eq, unwrapSuffixes_of_forall hsuffix, mergeCallee_of_not_call hnamed hkind]

/-- A callee that is a call with arguments and without lambda is one call with the lambdas behind
it. -/
theorem callParts_of_call (label : Row × List Sketch) (hnamed : isNamed callee = true)
    (hkind : isKind callee "call_expression" = true)
    (hsuffix : ∀ p ∈ callee :: rest, isKind p "call_suffix" = false) (hrest : rest ≠ [])
    (hlambdas : ∀ p ∈ rest, isKind p "annotated_lambda" = true)
    (hawaits : awaitsLambda (callParts callee) = true) :
    callParts (.node label (callee :: rest)) = callParts callee ++ rest := by
  rw [callParts_eq, unwrapSuffixes_of_forall hsuffix,
    mergeCallee_of_call hnamed hkind hrest hlambdas hawaits]

/-! ### The node of a call -/

/-- A callee without a dot makes a call of all its parts. -/
theorem callNode_of_parts (src : Source) (hparts : callParts (.node (row, []) ps) = callee :: rest)
    (hnamed : isNamed callee = true) (hkind : isKind callee "navigation_expression" = false) :
    callNode src row ps =
      .composite .callExpression (src.rowSpan row) (sketchAll (callee :: rest)) := by
  simp only [callNode, hparts, List.dropWhile_cons, hnamed, Bool.not_true, Bool.false_eq_true,
    if_false, hkind, Bool.false_and]

/-- A callee with a dot makes a dotted expression, in which the call begins at the selector. -/
theorem callNode_of_dot (src : Source) (hparts : callParts (.node (row, []) ps) = callee :: rest)
    (hnamed : isNamed callee = true) (hkind : isKind callee "navigation_expression" = true)
    (hdot : (dotToken? src callee.children).isSome = true) :
    callNode src row ps =
      .composite .dotQualifiedExpression (src.rowSpan row)
        (receiverAndDot src callee.children ++
          [.composite .callExpression
            ⟨(((selector? callee.children).map Part.row).map (src.rowSpan · |>.start)).getD
              (src.rowSpan row).start, (src.rowSpan row).stop⟩
            ((((selector? callee.children).map Part.row).map (nameReference src)).toList ++
              sketchAll rest)]) := by
  simp only [callNode, hparts, List.dropWhile_cons, hnamed, Bool.not_true, Bool.false_eq_true,
    if_false, hkind, hdot, Bool.and_self, if_true]

/-- A callee with receiver, dot and selector makes a dotted expression. -/
theorem callNode_of_navigation (src : Source) {dot selector : Part}
    (hparts : callParts (.node (row, []) ps) = callee :: rest) (hnamed : isNamed callee = true)
    (hkind : isKind callee "navigation_expression" = true)
    (hdot : dotToken? src callee.children = some dot)
    (hselector : selector? callee.children = some selector) :
    ∃ span, callNode src row ps =
      .composite .dotQualifiedExpression (src.rowSpan row)
        (((callee.children.filter isNamed).head?.map sketches).getD [] ++
          [.leaf .dot ['.'] (src.rowSpan dot.row),
            .composite .callExpression span
              (nameReference src selector.row :: sketchAll rest)]) := by
  refine ⟨⟨(src.rowSpan selector.row).start, (src.rowSpan row).stop⟩, ?_⟩
  have hsome : (dotToken? src callee.children).isSome = true := by rw [hdot, Option.isSome_some]
  rw [callNode_of_dot src hparts hnamed hkind hsome]
  simp only [receiverAndDot, hdot, hselector, Option.map_some, Option.toList_some,
    Option.getD_some, List.append_assoc, List.singleton_append]

/-- The node of a call is a matter of its parts alone. -/
theorem callNode_eq_of_callParts {qs : List Part}
    (hparts : callParts (.node (row, []) ps) = callee :: rest)
    (hparts' : callParts (.node (row, []) qs) = callee :: rest) (hnamed : isNamed callee = true) :
    callNode src row ps = callNode src row qs := by
  simp only [callNode, hparts, hparts', List.dropWhile_cons, hnamed, Bool.not_true,
    Bool.false_eq_true, if_false]

end KotestOutline.Part
