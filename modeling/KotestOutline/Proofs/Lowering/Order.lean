import KotestOutline.Proofs.Lowering.Call
import KotestOutline.Proofs.Lowering.Constructs
import KotestOutline.Text
import Mathlib.Data.List.Basic
import Mathlib.Tactic.SplitIfs

/-!
# Positions and rows in order

Later offsets have later positions, and the parts that the lowering picks keep the order of the
rows.
-/

namespace KotestOutline

/-!
## Positions follow offsets

A later offset has a later position, in reading order, so a range of offsets inside another one is a
span inside the other one's span.

* `Source.position_le`: the position of an offset is monotone. Offsets are 32-bit words, and neither
  line nor column of an offset exceeds it, so none of the counts wraps around.
* `Span.Within`: a span inside a span.
-/

/-! ### Reading order -/

namespace Position

variable {p q r : Position}

/-- Positions are ordered by line, and on one line by character. -/
theorem le_iff : p ≤ q ↔
    p.line.toNat < q.line.toNat ∨
      (p.line.toNat = q.line.toNat ∧ p.character.toNat ≤ q.character.toNat) := by
  show p.line < q.line ∨ (p.line = q.line ∧ p.character ≤ q.character) ↔ _
  rw [UInt32.lt_iff_toNat_lt, UInt32.le_iff_toNat_le, UInt32.toNat_inj]

/-- A position is not behind itself. -/
theorem le_refl (p : Position) : p ≤ p := by
  simp [le_iff]

/-- The order of positions is transitive. -/
theorem le_trans (h : p ≤ q) (h' : q ≤ r) : p ≤ r := by
  rw [le_iff] at *
  omega

/-- A later position is on no earlier line. -/
theorem line_le (h : p ≤ q) : p.line ≤ q.line := by
  rw [le_iff] at h
  rw [UInt32.le_iff_toNat_le]
  omega

end Position

/-! ### Spans in spans -/

/-- Whether a span lies inside another one. -/
structure Span.Within (inner outer : Span) : Prop where
  start : outer.start ≤ inner.start
  stop : inner.stop ≤ outer.stop

namespace Span.Within

variable {a b c : Span}

/-- A span lies inside itself. -/
theorem refl (a : Span) : a.Within a := ⟨Position.le_refl _, Position.le_refl _⟩

/-- A span inside another lies inside what that one lies inside. -/
theorem trans (h : a.Within b) (h' : b.Within c) : a.Within c :=
  ⟨Position.le_trans h'.start h.start, Position.le_trans h.stop h'.stop⟩

end Span.Within

/-! ### The walk to an offset -/

namespace Source

/-- The text in front of offset zero is empty. -/
theorem advance_zero (cs : List Char) (line column : Nat) :
    advance cs 0 line column = (line, column) := by
  cases cs with
  | nil => rfl
  | cons c cs =>
    rw [advance, if_pos c.utf8Size_pos]
    rfl

/-- An offset inside a character counts on as if the character had ended there. -/
theorem advance_inside {c : Char} {offset : Nat} (h : offset < c.utf8Size) (cs : List Char)
    (line column : Nat) : advance (c :: cs) offset line column = (line, column + offset) := by
  rw [advance, if_pos h]

/-- Behind a character the walk goes on from a later place, which its bytes account for. -/
theorem advance_past (c : Char) (cs : List Char) (line column : Nat) :
    ∃ line' column', line' + column' ≤ line + column + c.utf8Size ∧
      (line < line' ∨ line = line' ∧ column + c.utf8Size ≤ column') ∧
      ∀ offset, c.utf8Size ≤ offset →
        advance (c :: cs) offset line column =
          advance cs (offset - c.utf8Size) line' column' := by
  have hpos := c.utf8Size_pos
  by_cases hfeed : c = '\n'
  · refine ⟨line + 1, 0, by omega, by omega, ?_⟩
    intro offset hoffset
    rw [advance, if_neg (by omega), if_pos hfeed]
  · refine ⟨line, column + c.utf8Size, by omega, by omega, ?_⟩
    intro offset hoffset
    rw [advance, if_neg (by omega), if_neg hfeed]

/-- Each byte adds to the line or to the column, and none adds to both. -/
theorem advance_le (cs : List Char) (offset line column : Nat) :
    (advance cs offset line column).1 + (advance cs offset line column).2 ≤
      line + column + offset := by
  induction cs generalizing offset line column with
  | nil => simp [advance]
  | cons c cs ih =>
    by_cases hinside : offset < c.utf8Size
    · rw [advance_inside hinside]
      show line + (column + offset) ≤ line + column + offset
      omega
    · obtain ⟨line', column', hbound, -, hpast⟩ := advance_past c cs line column
      have hrest := ih (offset - c.utf8Size) line' column'
      rw [hpast offset (by omega)]
      omega

/-- A longer walk ends no earlier. -/
theorem advance_mono (cs : List Char) {offset later : Nat} (h : offset ≤ later)
    (line column : Nat) :
    (advance cs offset line column).1 < (advance cs later line column).1 ∨
      ((advance cs offset line column).1 = (advance cs later line column).1 ∧
        (advance cs offset line column).2 ≤ (advance cs later line column).2) := by
  induction cs generalizing offset later line column with
  | nil => simp [advance]
  | cons c cs ih =>
    obtain ⟨line', column', -, hplace, hpast⟩ := advance_past c cs line column
    by_cases hlater : later < c.utf8Size
    · rw [advance_inside hlater, advance_inside (Nat.lt_of_le_of_lt h hlater)]
      exact Or.inr ⟨rfl, by omega⟩
    · rw [hpast later (by omega)]
      by_cases hinside : offset < c.utf8Size
      · -- compare with the walk that stops right behind the character
        have hrest := ih (Nat.zero_le (later - c.utf8Size)) line' column'
        rw [advance_zero] at hrest
        rw [advance_inside hinside]
        simp only at hrest ⊢
        omega
      · rw [hpast offset (by omega)]
        exact ih (by omega) line' column'

variable (src : Source)

/-- The position of an offset that fits into a word counts without wrapping around. -/
theorem position_toNat {offset : Nat} (h : offset < UInt32.size) :
    (src.position offset).line.toNat = (advance src.chars offset 0 0).1 ∧
      (src.position offset).character.toNat = (advance src.chars offset 0 0).2 := by
  have hbound := advance_le src.chars offset 0 0
  constructor
  · exact UInt32.toNat_ofNat_of_lt' (by omega)
  · exact UInt32.toNat_ofNat_of_lt' (by omega)

/-- A later offset has a later position. -/
theorem position_le {offset later : Nat} (h : offset ≤ later) (hlater : later < UInt32.size) :
    src.position offset ≤ src.position later := by
  obtain ⟨hline, hcolumn⟩ := src.position_toNat (Nat.lt_of_le_of_lt h hlater)
  obtain ⟨hline', hcolumn'⟩ := src.position_toNat hlater
  rw [Position.le_iff, hline, hcolumn, hline', hcolumn']
  exact advance_mono src.chars h 0 0

end Source

/-!
## Rows in order

A parser gives every row a range of the source that holds the ranges of its children, one after the
other. The rules of the lowering take rows out of this order and put them together anew: suffixes
are replaced by what they hold, and a call takes in the parts of its callee.

* `Cst.IsOrdered` is what a parser keeps to.
* `Part.Follow` is a list of parts that stand in a row one after the other, and
  `Part.Follow.flatMap` says that parts may be replaced by parts that stand in them.
* `Part.follow_callParts`: the parts of a call stand in its row one after the other.
-/

/-! ### Ranges -/

namespace Row

/-- Whether the range of a row lies in that of another one. -/
structure Within (inner outer : Row) : Prop where
  start : outer.start ≤ inner.start
  stop : inner.stop ≤ outer.stop

/-- A row lies inside itself. -/
theorem Within.refl (row : Row) : row.Within row :=
  ⟨UInt32.le_refl _, UInt32.le_refl _⟩

/-- A row inside another lies inside what that one lies inside. -/
theorem Within.trans {a b c : Row} (h : a.Within b) (h' : b.Within c) : a.Within c :=
  ⟨UInt32.le_trans h'.start h.start, UInt32.le_trans h.stop h'.stop⟩

end Row

/-- An earlier offset of a row has an earlier position. -/
theorem Source.position_le_of_le (src : Source) {offset later : UInt32} (h : offset ≤ later) :
    src.position offset.toNat ≤ src.position later.toNat :=
  src.position_le (UInt32.le_iff_toNat_le.1 h) later.toNat_lt_size

/-- A row inside another one has a span inside the other one's. -/
theorem Row.Within.rowSpan {inner outer : Row} (src : Source) (h : inner.Within outer) :
    (src.rowSpan inner).Within (src.rowSpan outer) :=
  ⟨src.position_le_of_le h.start, src.position_le_of_le h.stop⟩

/-- Whether the rows of a tree are properly nested and ordered: each ends no earlier than it starts,
and holds its children in its range, each ending before the next one starts. -/
def Cst.IsOrdered (t : Cst) : Prop :=
  ∀ q ∈ t.preorder, q.label.start ≤ q.label.stop ∧
    (∀ c ∈ q.children, q.label.start ≤ c.label.start ∧ c.label.stop ≤ q.label.stop) ∧
    q.children.Pairwise fun a b => a.label.stop ≤ b.label.start

instance (t : Cst) : Decidable t.IsOrdered :=
  inferInstanceAs (Decidable (∀ q ∈ t.preorder, q.label.start ≤ q.label.stop ∧
    (∀ c ∈ q.children, q.label.start ≤ c.label.start ∧ c.label.stop ≤ q.label.stop) ∧
    q.children.Pairwise fun a b => a.label.stop ≤ b.label.start))

namespace Part

/-! ### Parts in order -/

/-- Whether the rows of a part are properly nested and ordered. -/
def IsOrdered (p : Part) : Prop :=
  ∀ q : Part, q ∈ p.preorder → q.row.start ≤ q.row.stop ∧
    (∀ c : Part, c ∈ q.children → c.row.Within q.row) ∧
    q.children.Pairwise fun a b : Part => a.row.stop ≤ b.row.start

/-- Whether some parts, each in order, stand in a row one after the other. -/
structure Follow (row : Row) (ps : List Part) : Prop where
  parts : ∀ p ∈ ps, IsOrdered p
  inside : ∀ p ∈ ps, p.row.Within row
  apart : ps.Pairwise fun a b => a.row.stop ≤ b.row.start

variable {row outer : Row} {ps qs : List Part} {p q : Part}

/-- Every part below one in order is in order. -/
theorem IsOrdered.of_mem_preorder (h : IsOrdered p) (hq : q ∈ p.preorder) : IsOrdered q :=
  fun r hr => h r (RoseTree.mem_preorder_trans hr hq)

/-- A row in order ends no earlier than it begins. -/
theorem IsOrdered.range (h : IsOrdered p) : p.row.start ≤ p.row.stop :=
  (h p (RoseTree.self_mem_preorder p)).1

/-- The children of a part stand in its row. -/
theorem IsOrdered.children (h : IsOrdered p) : Follow p.row p.children where
  parts _ hc := h.of_mem_preorder (RoseTree.mem_preorder_of_mem_children hc)
  inside := (h p (RoseTree.self_mem_preorder p)).2.1
  apart := (h p (RoseTree.self_mem_preorder p)).2.2

/-- So does everything below it. -/
theorem IsOrdered.within_of_mem_preorder (h : IsOrdered p) (hq : q ∈ p.preorder) :
    q.row.Within p.row := by
  induction p using RoseTree.induction with
  | node label children ih =>
    rcases RoseTree.mem_preorder_iff.1 hq with rfl | ⟨c, hc, hq⟩
    · exact Row.Within.refl _
    · exact (ih c hc (h.children.parts c hc) hq).trans (h.children.inside c hc)

namespace Follow

/-- Some of the parts that follow each other do so as well. -/
theorem of_sublist (h : Follow row ps) (hsub : qs.Sublist ps) : Follow row qs where
  parts p hp := h.parts p (hsub.subset hp)
  inside p hp := h.inside p (hsub.subset hp)
  apart := h.apart.sublist hsub

/-- Parts inside a row stand in any wider row. -/
theorem of_within (h : Follow row ps) (hrow : row.Within outer) : Follow outer ps where
  parts := h.parts
  inside p hp := (h.inside p hp).trans hrow
  apart := h.apart

/-- A part in order is all that stands in its row. -/
theorem singleton (h : IsOrdered p) : Follow p.row [p] where
  parts q hq := by rwa [List.mem_singleton.1 hq]
  inside q hq := by
    rw [List.mem_singleton.1 hq]
    exact Row.Within.refl _
  apart := List.pairwise_singleton _ _

/-- Each part may be replaced by parts that stand in its row. -/
theorem flatMap (h : Follow row ps) {f : Part → List Part} (hf : ∀ p ∈ ps, Follow p.row (f p)) :
    Follow row (ps.flatMap f) where
  parts q hq := by
    obtain ⟨p, hp, hq⟩ := List.mem_flatMap.1 hq
    exact (hf p hp).parts q hq
  inside q hq := by
    obtain ⟨p, hp, hq⟩ := List.mem_flatMap.1 hq
    exact ((hf p hp).inside q hq).trans (h.inside p hp)
  apart := by
    rw [List.pairwise_flatMap]
    refine ⟨fun p hp => (hf p hp).apart, h.apart.imp_of_mem ?_⟩
    intro a b ha hb hab x hx y hy
    exact UInt32.le_trans ((hf a ha).inside x hx).stop
      (UInt32.le_trans hab ((hf b hb).inside y hy).start)

/-- A part may be replaced by parts that stand in its row. -/
theorem replace {front back : List Part} (h : Follow row (front ++ p :: back))
    (hqs : Follow p.row qs) : Follow row (front ++ qs ++ back) := by
  obtain ⟨hfront, hrest, hcross⟩ := List.pairwise_append.1 h.apart
  obtain ⟨hp, hback⟩ := List.pairwise_cons.1 hrest
  have hrow : p.row.Within row := h.inside p (by simp)
  constructor
  · intro q hq
    simp only [List.mem_append] at hq
    rcases hq with (hq | hq) | hq
    · exact h.parts q (by simp [hq])
    · exact hqs.parts q hq
    · exact h.parts q (by simp [hq])
  · intro q hq
    simp only [List.mem_append] at hq
    rcases hq with (hq | hq) | hq
    · exact h.inside q (by simp [hq])
    · exact (hqs.inside q hq).trans hrow
    · exact h.inside q (by simp [hq])
  · refine List.pairwise_append.2 ⟨List.pairwise_append.2 ⟨hfront, hqs.apart, ?_⟩, hback, ?_⟩
    · intro a ha q hq
      exact UInt32.le_trans (hcross a ha p List.mem_cons_self) (hqs.inside q hq).start
    · intro a ha b hb
      rcases List.mem_append.1 ha with ha | ha
      · exact hcross a ha b (List.mem_cons_of_mem p hb)
      · exact UInt32.le_trans (hqs.inside a ha).stop (hp b hb)

end Follow

/-! ### Calls -/

/-- Parts follow each other also with the call suffixes among them unwrapped. -/
theorem follow_unwrapSuffixes (h : Follow row ps) : Follow row (unwrapSuffixes ps) := by
  apply h.flatMap
  intro p hp
  split_ifs
  · exact (h.parts p hp).children
  · exact Follow.singleton (h.parts p hp)

/-- A call is the parts among its children, or those with the callee replaced by the callee's own
parts. -/
theorem callParts_eq_or (p : Part) :
    callParts p = unwrapSuffixes p.children ∨
      ∃ front callee rest, unwrapSuffixes p.children = front ++ callee :: rest ∧
        callParts p = front ++ callParts callee ++ rest := by
  obtain ⟨label, children⟩ := p
  rw [callParts_eq, RoseTree.children_node, mergeCallee]
  split
  · exact Or.inl rfl
  next callee rest hrest =>
    split
    · refine Or.inr ⟨_, callee, rest, ?_, rfl⟩
      rw [← hrest, List.takeWhile_append_dropWhile]
    · exact Or.inl rfl

/-- By induction on the part: a merged call takes in the parts of a call further down. -/
theorem follow_callParts_of_mem_preorder (p : Part) :
    IsOrdered p → ∀ q : Part, q ∈ p.preorder → Follow q.row (callParts q) := by
  induction p using RoseTree.induction with
  | node label children ih =>
    intro h q hq
    rcases RoseTree.mem_preorder_iff.1 hq with rfl | ⟨c, hc, hq⟩
    · have hparts := follow_unwrapSuffixes h.children
      rcases callParts_eq_or (.node label children) with
        hcall | ⟨front, callee, rest, hsplit, hcall⟩
      · rwa [hcall]
      · rw [RoseTree.children_node] at hsplit
        have hcallee : callee ∈ unwrapSuffixes children := by simp [hsplit]
        rw [RoseTree.children_node] at hparts
        obtain ⟨c, hc, hin⟩ := mem_preorder_of_mem_unwrapSuffixes hcallee
        rw [hsplit] at hparts
        rw [hcall]
        exact hparts.replace (ih c hc (h.children.parts c hc) callee hin)
    · exact ih c hc (h.children.parts c hc) q hq

/-- The parts of a call stand in its row one after the other. -/
theorem follow_callParts (h : IsOrdered p) : Follow p.row (callParts p) :=
  follow_callParts_of_mem_preorder p h p (RoseTree.self_mem_preorder p)

end Part

end KotestOutline
