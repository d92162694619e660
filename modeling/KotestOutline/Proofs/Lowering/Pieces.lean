import KotestOutline.Lowering
import Mathlib.Data.List.TakeWhile
import Mathlib.Tactic.SplitIfs

/-!
# Pieces of plain content

A run of plain content is cut into literal text and interpolations. A dollar sign opens an
interpolation exactly if a character follows that can begin one and no backslash of the run stands
directly before it.

* `flatMap_text_pieces`: the pieces make up the run.
* `isCut_of_mem_pieces`: none is empty, and interpolations begin with a dollar sign.
* `exists_dollar_of_any_isTemplate`: an interpolation begins with a dollar sign that opens it.
* `hasDollar_pieces`: which piece a dollar sign of the run is in.
-/

namespace KotestOutline

/-- Whether a backslash of the run stands directly behind `front`, which `escaped` says where
`front` is empty. -/
def isShielded (escaped : Bool) (front : List Char) : Bool :=
  front.getLast?.elim escaped (· == '\\')

/-- Whether what follows a dollar sign can begin an interpolation. `after` is the character behind
the run. -/
def mayOpen (after : Option Char) (back : List Char) : Bool :=
  (back.head?.or after).any startsTemplate

/-- Behind a character, what is shielded depends on that character alone. -/
theorem isShielded_cons (escaped : Bool) (c : Char) (front : List Char) :
    isShielded escaped (c :: front) = isShielded (c == '\\') front := by
  unfold isShielded
  rw [List.getLast?_cons]
  cases front.getLast? <;> rfl

/-- A dollar sign does not go on the name of an interpolation. -/
theorem continuesTemplate_dollar : continuesTemplate '$' = false := by decide

/-- A character of a name is neither a dollar sign nor a backslash. -/
theorem ne_of_continuesTemplate {c : Char} (h : continuesTemplate c = true) :
    c ≠ '$' ∧ (c == '\\') = false := by
  have hbackslash : continuesTemplate '\\' = false := by decide
  rw [beq_eq_false_iff_ne]
  constructor
  · rintro rfl
    simp [continuesTemplate_dollar] at h
  · rintro rfl
    simp [hbackslash] at h

namespace Piece

/-- Whether a piece is an interpolation. -/
def isTemplate : Piece → Bool
  | literal _ => false
  | template _ => true

/-- A character in front of pieces stands in the first one or is one. -/
theorem flatMap_text_consLiteral (c : Char) (ps : List Piece) :
    (consLiteral c ps).flatMap text = c :: ps.flatMap text := by
  match ps with
  | [] => rfl
  | literal text :: ps => rfl
  | template text :: ps => rfl

/-- A character of literal text makes no piece an interpolation. -/
theorem any_isTemplate_consLiteral (c : Char) (ps : List Piece) :
    (consLiteral c ps).any isTemplate = ps.any isTemplate := by
  match ps with
  | [] => rfl
  | literal text :: ps => rfl
  | template text :: ps => rfl

/-- Whether a piece is not empty, and begins with a dollar sign if it is an interpolation. -/
structure IsCut (piece : Piece) : Prop where
  text_ne_nil : piece.text ≠ []
  dollar : piece.isTemplate = true → piece.text.head? = some '$'

/-- A character of literal text leaves every piece cut as it should be. -/
theorem isCut_consLiteral (c : Char) {ps : List Piece} (h : ∀ piece ∈ ps, piece.IsCut) :
    ∀ piece ∈ consLiteral c ps, piece.IsCut := by
  have hliteral : ∀ text, (literal (c :: text)).IsCut :=
    fun text => ⟨List.cons_ne_nil c text, fun htemplate => Bool.noConfusion htemplate⟩
  match ps with
  | [] => exact List.forall_mem_singleton.2 (hliteral [])
  | literal text :: ps =>
    exact List.forall_mem_cons.2 ⟨hliteral text, (List.forall_mem_cons.1 h).2⟩
  | template text :: ps => exact List.forall_mem_cons.2 ⟨hliteral [], h⟩

end Piece

section Runs

variable {after : Option Char} {skip : Nat} {escaped : Bool} {c : Char} {cs : List Char}

/-- The characters that an interpolation takes in stand in front of those that are left. -/
theorem takeWhile_append_drop (p : Char → Bool) (cs : List Char) :
    cs.takeWhile p ++ cs.drop (cs.takeWhile p).length = cs :=
  List.prefix_iff_eq_append.1 (List.takeWhile_prefix p)

/-- The pieces make up the run, up to the characters that are skipped. -/
theorem flatMap_text_pieces (after : Option Char) (skip : Nat) (escaped : Bool) (cs : List Char) :
    (pieces after skip escaped cs).flatMap Piece.text = cs.drop skip := by
  fun_induction pieces after skip escaped cs with
  | case1 => simp
  | case2 skip escaped c cs ih => rw [ih, List.drop_succ_cons]
  | case3 escaped c cs hopen name ih =>
    rw [List.flatMap_cons, ih, Piece.text, List.cons_append, List.drop_zero,
      takeWhile_append_drop]
  | case4 escaped c cs hopen ih =>
    rw [Piece.flatMap_text_consLiteral, ih]
    rfl

/-- No piece is empty, and interpolations begin with a dollar sign. By induction on the run. -/
theorem isCut_of_mem_pieces (after : Option Char) (skip : Nat) (escaped : Bool) (cs : List Char) :
    ∀ piece ∈ pieces after skip escaped cs, piece.IsCut := by
  fun_induction pieces after skip escaped cs with
  | case1 => exact List.forall_mem_nil _
  | case2 skip escaped c cs ih => exact ih
  | case3 escaped c cs hopen name ih =>
    simp only [Bool.and_eq_true, beq_iff_eq] at hopen
    obtain ⟨⟨rfl, -⟩, -⟩ := hopen
    exact List.forall_mem_cons.2 ⟨⟨List.cons_ne_nil _ _, fun _ => rfl⟩, ih⟩
  | case4 escaped c cs hopen ih => exact Piece.isCut_consLiteral c ih

/-- An interpolation begins with a dollar sign that opens it. By induction on the run: where it goes
on behind a character, that character shields the next one if it is a backslash, which no character
of an interpolation is. -/
theorem exists_dollar_of_any_isTemplate (hskip : ∀ c ∈ cs.take skip, continuesTemplate c = true)
    (h : (pieces after skip escaped cs).any Piece.isTemplate = true) :
    ∃ front back, cs = front ++ '$' :: back ∧ mayOpen after back = true ∧
      isShielded escaped front = false := by
  fun_induction pieces after skip escaped cs with
  | case1 => cases h
  | case2 skip escaped c cs ih =>
    rw [List.take_succ_cons] at hskip
    obtain ⟨-, hbackslash⟩ := ne_of_continuesTemplate (hskip c List.mem_cons_self)
    obtain ⟨front, back, rfl, hmay, hshield⟩ :=
      ih (fun d hd => hskip d (List.mem_cons_of_mem c hd)) h
    exact ⟨c :: front, back, rfl, hmay, by rw [isShielded_cons, hbackslash, hshield]⟩
  | case3 escaped c cs hopen name ih =>
    simp only [Bool.and_eq_true, beq_iff_eq, Bool.not_eq_true'] at hopen
    obtain ⟨⟨rfl, hescaped⟩, hmay⟩ := hopen
    exact ⟨[], cs, rfl, hmay, hescaped⟩
  | case4 escaped c cs hopen ih =>
    rw [Piece.any_isTemplate_consLiteral] at h
    obtain ⟨front, back, rfl, hmay, hshield⟩ := ih (by simp) h
    exact ⟨c :: front, back, rfl, hmay, by rw [isShielded_cons, hshield]⟩

/-- Whether a dollar sign behind `front` is in one of the pieces, as part of an interpolation or
not. -/
def HasDollar (ps : List Piece) (front : List Char) (isTemplate : Bool) : Prop :=
  ∃ pre piece post before behind, ps = pre ++ piece :: post ∧
    piece.text = before ++ '$' :: behind ∧ pre.flatMap Piece.text ++ before = front ∧
      piece.isTemplate = isTemplate

/-- A dollar sign stays in its piece when literal text comes in front of it. -/
theorem HasDollar.consLiteral {ps : List Piece} {front : List Char} {isTemplate : Bool}
    (h : HasDollar ps front isTemplate) (c : Char) :
    HasDollar (consLiteral c ps) (c :: front) isTemplate := by
  obtain ⟨pre, piece, post, before, behind, rfl, htext, rfl, rfl⟩ := h
  cases pre with
  | nil =>
    cases piece with
    | literal text =>
      exact ⟨[], .literal (c :: text), post, c :: before, behind, rfl,
        congrArg (c :: ·) htext, rfl, rfl⟩
    | template text =>
      exact ⟨[.literal [c]], .template text, post, before, behind, rfl, htext, rfl, rfl⟩
  | cons first pre =>
    cases first with
    | literal text =>
      exact ⟨.literal (c :: text) :: pre, piece, post, before, behind, rfl, htext, rfl, rfl⟩
    | template text =>
      exact ⟨.literal [c] :: .template text :: pre, piece, post, before, behind, rfl, htext, rfl,
        rfl⟩

/-- A dollar sign stays in its piece when an interpolation comes in front of it. -/
theorem HasDollar.consTemplate {ps : List Piece} {name front : List Char} {isTemplate : Bool}
    (h : HasDollar ps (front.drop name.length) isTemplate)
    (hname : name ++ front.drop name.length = front) :
    HasDollar (.template ('$' :: name) :: ps) ('$' :: front) isTemplate := by
  obtain ⟨pre, piece, post, before, behind, rfl, htext, hfront, hkind⟩ := h
  refine ⟨.template ('$' :: name) :: pre, piece, post, before, behind, rfl, htext, ?_, hkind⟩
  rw [List.flatMap_cons, List.append_assoc, hfront, Piece.text, List.cons_append, hname]

/-- A dollar sign put in front of pieces as literal text is in the first one. -/
theorem hasDollar_consLiteral (ps : List Piece) : HasDollar (consLiteral '$' ps) [] false := by
  match ps with
  | [] => exact ⟨[], .literal ['$'], [], [], [], rfl, rfl, rfl, rfl⟩
  | .literal text :: ps => exact ⟨[], .literal ('$' :: text), ps, [], text, rfl, rfl, rfl, rfl⟩
  | .template text :: ps =>
    exact ⟨[], .literal ['$'], .template text :: ps, [], [], rfl, rfl, rfl, rfl⟩

/-- The characters of an interpolation stand in front of every dollar sign behind it. -/
theorem takeWhile_append_drop_of_dollar {front back : List Char} (h : cs = front ++ '$' :: back) :
    cs.takeWhile continuesTemplate ++ front.drop (cs.takeWhile continuesTemplate).length =
      front := by
  have hname : cs.takeWhile continuesTemplate = front.takeWhile continuesTemplate := by
    subst h
    induction front with
    | nil => simp [continuesTemplate_dollar]
    | cons c front ih => simp [List.takeWhile_cons, ih]
  rw [hname, takeWhile_append_drop]

/-- A dollar sign is part of an interpolation exactly if it opens one, and of literal text in all
other cases. By induction on the run. -/
theorem hasDollar_pieces (hskip : ∀ c ∈ cs.take skip, continuesTemplate c = true) :
    ∀ front back, cs = front ++ '$' :: back →
      HasDollar (pieces after skip escaped cs) (front.drop skip)
        (mayOpen after back && !isShielded escaped front) := by
  fun_induction pieces after skip escaped cs with
  | case1 => simp
  | case2 skip escaped c cs ih =>
    -- inside the name of an interpolation there is neither a dollar sign nor a backslash
    rw [List.take_succ_cons] at hskip
    obtain ⟨hdollar, hbackslash⟩ := ne_of_continuesTemplate (hskip c List.mem_cons_self)
    rintro (_ | ⟨d, front⟩) back h
    · exact absurd (List.cons.inj h).1 hdollar
    · obtain ⟨rfl, hrest⟩ := List.cons.inj h
      rw [isShielded_cons, hbackslash]
      exact ih (fun d hd => hskip d (List.mem_cons_of_mem c hd)) front back hrest
  | case3 escaped c cs hopen name ih =>
    simp only [Bool.and_eq_true, beq_iff_eq, Bool.not_eq_true'] at hopen
    obtain ⟨⟨rfl, hescaped⟩, hmay⟩ := hopen
    have hname : ∀ c ∈ cs.take (cs.takeWhile continuesTemplate).length,
        continuesTemplate c = true := by
      rw [← List.prefix_iff_eq_take.1 (List.takeWhile_prefix _)]
      exact fun c hc => List.mem_takeWhile_imp hc
    rintro (_ | ⟨d, front⟩) back h
    · -- the dollar sign in question is the one that opens the interpolation
      obtain ⟨-, rfl⟩ := List.cons.inj h
      have hopens : (mayOpen after cs && !isShielded escaped []) = true := by
        simp [isShielded, mayOpen, hmay, hescaped]
      rw [hopens]
      exact ⟨[], _, _, [], _, rfl, rfl, rfl, rfl⟩
    · obtain ⟨rfl, hrest⟩ := List.cons.inj h
      rw [isShielded_cons]
      exact (ih hname front back hrest).consTemplate (takeWhile_append_drop_of_dollar hrest)
  | case4 escaped c cs hopen ih =>
    rintro (_ | ⟨d, front⟩) back h
    · obtain ⟨rfl, rfl⟩ := List.cons.inj h
      have hcloses : (mayOpen after cs && !isShielded escaped []) = false := by
        simpa [isShielded, mayOpen, Bool.and_comm] using hopen
      rw [hcloses]
      exact hasDollar_consLiteral _
    · obtain ⟨rfl, hrest⟩ := List.cons.inj h
      rw [isShielded_cons]
      exact (ih (by simp) front back hrest).consLiteral c

end Runs

end KotestOutline
