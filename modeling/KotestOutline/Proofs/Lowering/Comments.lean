import KotestOutline.Proofs.Lowering.Shed.Row
import KotestOutline.Proofs.Suite.RoundTrip
import KotestOutline.Proofs.Syntax.Alike

/-!
# Comments and lowering

Leaving a comment out of a concrete tree leaves the lowered tree as it is, at every place that no
rule of the lowering reads by position.

* `Cst.IsPassedOver` are these places. A call counts a comment among its parts, so the comment has
  to stand behind a callee, and the call must not be one that takes in its callee's parts; a dotted
  access takes its first and its last named row for receiver and selector.
* `Cst.lower_bare`: a comment at such a place lowers to nothing and changes nothing.
* `Cst.not_forall_lower_bare`: a comment between the arguments and the trailing lambda of a call
  keeps the two apart.
-/

namespace KotestOutline.Cst

variable {src : Source} {t u comment : Cst} {ts : List Cst} {front back : List Cst}

/-! ### Comments in a tree -/

/-- Whether a tree is a comment of the grammar. -/
structure IsComment (t : Cst) : Prop where
  named : t.label.named = true
  missing : t.label.missing = false
  error : t.label.error = false
  comment : t.label.isComment = true

/-- Whether none of the named rows of a tree is one that the search for a supertype and its name
stops at. -/
def IsUnsearched (t : Cst) : Prop :=
  ∀ u ∈ t.preorder, u.label.named = true →
    u.label.kind ∉ Part.searchedKinds ∧ u.label.isIdentifier = false

/-- The children of a call with its suffixes replaced by what they hold. -/
def unwrapSuffixes (ts : List Cst) : List Cst :=
  ts.flatMap fun t => if t.label.kind == "call_suffix" then t.children else [t]

/-- Whether a place among the rows that a call consists of is behind its callee, and the call does
not take in the parts of its callee. -/
structure IsBehindCallee (src : Source) (front back : List Cst) : Prop where
  callee : ∃ callee, front.find? (·.label.named) = some callee ∧ callee.label.isComment = false
  alone : Part.isMerged ((front ++ back).map (toPart src)) = false

/-- Whether the hole of a context is a place that no rule of the lowering reads by position. -/
structure IsPassedOver (src : Source) (frame : Frame Row) (outer : Context Row) : Prop where
  string : KindNames.strings.contains frame.label.kind = false
  call : frame.label.kind = "call_expression" →
    IsBehindCallee src (unwrapSuffixes frame.left) (unwrapSuffixes frame.right)
  callSuffix : ∀ next ∈ outer.head?, next.label.kind = "call_expression" →
    frame.label.kind = "call_suffix" →
    IsBehindCallee src (unwrapSuffixes next.left ++ frame.left)
      (frame.right ++ unwrapSuffixes next.right)
  navigation : frame.label.kind = "navigation_expression" →
    (∃ t ∈ frame.left, t.label.named = true) ∧ ∃ t ∈ frame.right, t.label.named = true
  navigationSuffix : frame.label.kind = "navigation_suffix" →
    ∃ t ∈ frame.right, t.label.named = true

/-! ### Parts of trees -/

/-- A comment lowers to nothing. -/
theorem IsComment.sketches_eq_nil (h : t.IsComment) : sketches src t = [] := by
  obtain ⟨row, ts⟩ := t
  rw [sketches_node]
  unfold Part.rowNodes
  rw [show row.missing = false from h.missing, show row.error = false from h.error,
    show row.isComment = true from h.comment]
  rfl

/-- A comment in which no search stops is a part that counts for nothing. -/
theorem IsComment.isIdle_toPart (h : t.IsComment) (hunsearched : t.IsUnsearched) :
    Part.IsIdle (toPart src t) where
  named := by rw [isNamed_toPart, h.named]
  comment := by rw [row_toPart, h.comment]
  sketches := h.sketches_eq_nil
  below q hq hnamed := by
    obtain ⟨u, hu, rfl⟩ := exists_of_mem_preorder_toPart hq
    rw [isNamed_toPart] at hnamed
    rw [row_toPart]
    exact hunsearched u hu hnamed

/-- Unwrapping suffixes does not depend on what the rows lower to. -/
theorem unwrapSuffixes_map_toPart (src : Source) (ts : List Cst) :
    Part.unwrapSuffixes (ts.map (toPart src)) = (unwrapSuffixes ts).map (toPart src) := by
  unfold Part.unwrapSuffixes unwrapSuffixes
  rw [List.flatMap_map, List.map_flatMap]
  apply List.flatMap_congr
  intro t _
  rw [isKind_toPart, children_toPart]
  split
  · rfl
  · rfl

/-- A tree in between is unwrapped in its place. -/
theorem unwrapSuffixes_plug (left right : List Cst) (t : Cst) :
    unwrapSuffixes (left ++ t :: right) =
      unwrapSuffixes left ++ (if t.label.kind == "call_suffix" then t.children else [t]) ++
        unwrapSuffixes right := by
  rw [unwrapSuffixes, List.flatMap_append, List.flatMap_cons, List.append_assoc]
  rfl

/-- Where a named row is among some trees, one is among their parts. -/
theorem filter_isNamed_ne_nil (h : ∃ t ∈ ts, t.label.named = true) :
    (ts.map (toPart src)).filter Part.isNamed ≠ [] := by
  obtain ⟨t, ht, hnamed⟩ := h
  apply List.ne_nil_of_mem (a := toPart src t)
  rw [List.mem_filter, isNamed_toPart]
  exact ⟨List.mem_map_of_mem ht, hnamed⟩

/-! ### From the place of the comment upwards -/

/-- An idle part behind its callee leaves a call its callee. -/
theorem IsBehindCallee.sameCallee {c : Part} (h : IsBehindCallee src front back) (hc : c.IsIdle) :
    Part.SameCallee (front.map (toPart src) ++ c :: back.map (toPart src))
      (front.map (toPart src) ++ back.map (toPart src)) := by
  obtain ⟨callee, hfirst, hcomment⟩ := h.callee
  have hnamed : Part.isNamed ∘ toPart src = fun t => t.label.named := by
    funext t
    exact isNamed_toPart src t
  have hcallee : (front.map (toPart src)).find? Part.isNamed = some (toPart src callee) := by
    rw [List.find?_map, hnamed, hfirst, Option.map_some]
  apply hc.sameCallee hcallee
  · rw [row_toPart, hcomment]
  · rw [← List.map_append, h.alone]

/-- A tree over parts that differ by comments at such places differs by them. -/
theorem sheds_toPart_node {row : Row} {us : List Cst}
    (h : Part.ShedsAll Part.Sheds (ts.map (toPart src)) (us.map (toPart src)))
    (hplaces : Part.SamePlaces row (ts.map (toPart src)) (us.map (toPart src))) :
    Part.Sheds (toPart src (.node row ts)) (toPart src (.node row us)) := by
  rw [toPart_node, toPart_node, Part.rowNodes_congr h hplaces]
  exact Part.Sheds.node h hplaces

/-- One step at the comment: the tree around it loses it. -/
theorem sheds_bare {frame : Frame Row} {outer : Context Row}
    (hc : Part.IsIdle (toPart src comment)) (hplace : IsPassedOver src frame outer) :
    Part.Sheds (toPart src (frame.plug comment)) (toPart src frame.bare) := by
  apply sheds_toPart_node
  · rw [List.map_append, List.map_append, List.map_cons]
    apply Part.ShedsAll.append
    · exact Part.ShedsAll.refl fun p _ => Part.Sheds.refl p
    · exact Part.ShedsAll.drop hc (Part.ShedsAll.refl fun p _ => Part.Sheds.refl p)
  · rw [List.map_append, List.map_append, List.map_cons]
    apply Part.SamePlaces.of_idle hc hplace.string
    · intro hkind
      rw [Part.unwrapSuffixes_append, Part.unwrapSuffixes_append, hc.unwrapSuffixes_cons,
        unwrapSuffixes_map_toPart, unwrapSuffixes_map_toPart]
      exact (hplace.call hkind).sameCallee hc
    · intro hkind
      obtain ⟨hleft, hright⟩ := hplace.navigation hkind
      exact ⟨filter_isNamed_ne_nil hleft, filter_isNamed_ne_nil hright⟩
    · exact fun hkind => filter_isNamed_ne_nil (hplace.navigationSuffix hkind)

/-- One step further out: the tree around a tree that loses a comment. A call sees the comment when
it stands in one of its suffixes. -/
theorem sheds_plug {frame : Frame Row} (h : Part.Sheds (toPart src t) (toPart src u))
    (hsuffix : frame.label.kind = "call_expression" → t.label.kind = "call_suffix" →
      Part.SameCallee
        ((unwrapSuffixes frame.left ++ t.children ++ unwrapSuffixes frame.right).map (toPart src))
        ((unwrapSuffixes frame.left ++ u.children ++ unwrapSuffixes frame.right).map
          (toPart src))) :
    Part.Sheds (toPart src (frame.plug t)) (toPart src (frame.plug u)) := by
  have hrefl : ∀ ts : List Cst,
      List.Forall₂ Part.Sheds (ts.map (toPart src)) (ts.map (toPart src)) :=
    fun ts => List.forall₂_same.2 fun p _ => Part.Sheds.refl p
  have hall : List.Forall₂ Part.Sheds ((frame.left ++ t :: frame.right).map (toPart src))
      ((frame.left ++ u :: frame.right).map (toPart src)) := by
    rw [List.map_append, List.map_append, List.map_cons, List.map_cons]
    exact List.rel_append (hrefl _) (List.Forall₂.cons h (hrefl _))
  have hkind : t.label.kind = u.label.kind := by
    have hrow := h.row_eq
    rw [row_toPart, row_toPart] at hrow
    rw [hrow]
  apply sheds_toPart_node (Part.ShedsAll.of_forall₂ hall)
  apply Part.SamePlaces.of_forall₂ hall
  intro hcall
  rw [unwrapSuffixes_map_toPart, unwrapSuffixes_map_toPart, unwrapSuffixes_plug,
    unwrapSuffixes_plug, ← hkind]
  by_cases hs : t.label.kind = "call_suffix"
  · rw [hs, beq_self_eq_true, if_pos rfl, if_pos rfl]
    exact hsuffix hcall hs
  · left
    simp [hs]

/-- By induction on the context: further out nothing is left out among the children themselves. -/
theorem sheds_plug_context (h : Part.Sheds (toPart src t) (toPart src u))
    (hlength : t.children.length = u.children.length) (context : Context Row) :
    Part.Sheds (toPart src (context.plug t)) (toPart src (context.plug u)) := by
  induction context generalizing t u with
  | nil => exact h
  | cons frame outer ih =>
    apply ih
    · apply sheds_plug h
      intro _ _
      left
      simp [hlength]
    · simp

/-- Files whose rows differ by idle parts lower to the same tree. -/
theorem lower_eq_of_sheds (h : Part.Sheds (toPart src t) (toPart src u)) :
    lower src t = lower src u := by
  have hrow : t.label = u.label := by
    have := h.row_eq
    rwa [row_toPart, row_toPart] at this
  unfold lower toSketch
  rw [hrow, h.children.sketchAll_eq]

/-- Leaving a comment out of a concrete tree, at a place that no rule reads by position, leaves the
lowered tree as it is. -/
theorem lower_bare (src : Source) {frame : Frame Row} {outer : Context Row}
    (hcomment : comment.IsComment) (hunsearched : comment.IsUnsearched)
    (hplace : IsPassedOver src frame outer) :
    lower src (outer.plug (frame.plug comment)) = lower src (outer.plug frame.bare) := by
  have hidle : Part.IsIdle (toPart src comment) := hcomment.isIdle_toPart hunsearched
  have hbare := sheds_bare hidle hplace
  apply lower_eq_of_sheds
  cases outer with
  | nil => exact hbare
  | cons next outer =>
    rw [Context.plug_cons, Context.plug_cons]
    apply sheds_plug_context
    · apply sheds_plug hbare
      intro hcall hsuffix
      have hbehind := (hplace.callSuffix next rfl hcall hsuffix).sameCallee hidle
      rw [Frame.children_plug, Frame.children_bare]
      simpa using hbehind
    · simp

/-! ### A comment before a trailing lambda -/

namespace CommentSample

open FunSpecSample

/-- The frame of a file that holds one call. -/
def fileFrame (stop : UInt32) : Frame Row := ⟨⟨"source_file", true, false, false, 0, stop⟩, [], []⟩

/-- A name with a trailing lambda, and a comment between them. -/
def bareSource : Source := .ofString "f /* c */ \x7b\x7d"

def bareComment : Cst := construct "block_comment" 2 9 []

def bareCall : Frame Row :=
  ⟨⟨"call_expression", true, false, false, 0, 12⟩, [construct "identifier" 0 1 []],
    [lambda 10 12 []]⟩

/-- A call with arguments and a trailing lambda, and a comment between them. -/
def mergedSource : Source := .ofString "f() /* c */ \x7b\x7d"

def mergedComment : Cst := construct "block_comment" 4 11 []

def mergedCall : Frame Row :=
  ⟨⟨"call_expression", true, false, false, 0, 14⟩,
    [construct "call_expression" 0 3 [construct "identifier" 0 1 [],
      construct "value_arguments" 1 3 [token "(" 1 2, token ")" 2 3]]],
    [lambda 12 14 []]⟩

/-- A row of the kind of a comment, with nothing inside, is a comment. -/
theorem isComment_construct {kind : String} (start stop : UInt32)
    (h : KindNames.comments.contains kind = true) : (construct kind start stop []).IsComment :=
  ⟨rfl, rfl, rfl, h⟩

/-- Between a bare name and its trailing lambda a comment is passed over. -/
theorem isPassedOver_bareCall : IsPassedOver bareSource bareCall [fileFrame 12] where
  string := by decide
  call _ := ⟨⟨construct "identifier" 0 1 [], rfl, by decide⟩, rfl⟩
  callSuffix next hnext hcall := by
    rw [List.head?_cons, Option.mem_some_iff] at hnext
    rw [← hnext] at hcall
    exact absurd hcall (by decide)
  navigation h := absurd h (by decide)
  navigationSuffix h := absurd h (by decide)

end CommentSample

open CommentSample

/-- The comment behind a bare name may be left out. -/
theorem lower_bare_bareCall :
    bareComment.IsComment ∧ bareComment.IsUnsearched ∧
      IsPassedOver bareSource bareCall [fileFrame 12] ∧
      lower bareSource (Context.plug [fileFrame 12] (bareCall.plug bareComment)) =
        lower bareSource (Context.plug [fileFrame 12] bareCall.bare) := by
  have hcomment : bareComment.IsComment := isComment_construct 2 9 (by decide)
  have hunsearched : bareComment.IsUnsearched := by
    unfold IsUnsearched
    decide
  exact ⟨hcomment, hunsearched, isPassedOver_bareCall,
    lower_bare bareSource hcomment hunsearched isPassedOver_bareCall⟩

/-- A comment may not be left out everywhere: between arguments and trailing lambda it keeps the
call from being one. -/
theorem not_forall_lower_bare :
    ¬ ∀ (src : Source) (frame : Frame Row) (outer : Context Row) (comment : Cst),
      comment.IsComment → KindNames.strings.contains frame.label.kind = false →
        frame.label.isContent = false →
          lower src (outer.plug (frame.plug comment)) = lower src (outer.plug frame.bare) := by
  intro h
  have hlower := h mergedSource mergedCall [fileFrame 14] mergedComment
    (isComment_construct 4 11 (by decide)) (by decide) (by decide)
  have hkinds := congrArg (fun t => t.labels.map (·.kind)) hlower
  revert hkinds
  decide +kernel

end KotestOutline.Cst
