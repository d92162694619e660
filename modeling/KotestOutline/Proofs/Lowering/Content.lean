import KotestOutline.Proofs.Lowering.Pieces
import KotestOutline.Proofs.Text.Slice

/-!
# Interpolations in content

Content is read run by run, between the escape rows in it. Said of the source as a whole, a dollar
sign opens an interpolation if a character follows that can begin one, in the run or behind it, and
unless a backslash stands directly before it that is neither part of an escape row nor outside the
content.

* `Source.IsOpening` and `Source.IsShielded` are these two conditions.
* `exists_opens_of_mem_runLeaves` and `exists_entry_runLeaves`: one run.
* `Source.HasRuns`: content with escapes in it, as runs with rows between them.
* `exists_opens_of_mem_contentLeaves` and `exists_entry_contentLeaves`: what opens an interpolation,
  and which entry a dollar sign is in.
-/

namespace KotestOutline

variable {src : Source} {span : Span} {start stop offset : Nat} {text front back rest : List Char}
  {rows : List Row}

/-! ### Offsets of dollar signs -/

namespace Source

/-- Whether a dollar sign stands at an offset, and behind it a character that can begin an
interpolation. -/
structure IsOpening (src : Source) (offset : Nat) : Prop where
  dollar : src.charAt? offset = some '$'
  follows : (src.charAt? (offset + 1)).any startsTemplate = true

/-- Whether a backslash stands directly before an offset, in content that begins at `start`. A
backslash that belongs to an escape row does not count. -/
structure IsShielded (src : Source) (start : Nat) (escapes : List Row) (offset : Nat) : Prop where
  inside : start < offset
  apart : ∀ e ∈ escapes, e.stop.toNat ≠ offset
  backslash : src.charAt? (offset - 1) = some '\\'

/-- Whether content that begins at `start` has an interpolation at an offset. -/
def Opens (src : Source) (start : Nat) (escapes : List Row) (offset : Nat) : Prop :=
  src.IsOpening offset ∧ ¬ src.IsShielded start escapes offset

/-- In a run, a dollar sign opens an interpolation by the characters around it. -/
theorem HasAt.mayOpen_iff (h : src.HasAt start (front ++ '$' :: back) rest) :
    mayOpen rest.head? back = true ↔ src.IsOpening (start + utf8Length front) := by
  have hnext := h.charAt?_succ_eq (by decide)
  constructor
  · exact fun hmay => ⟨h.charAt?_eq, by rw [hnext]; exact hmay⟩
  · intro hopening
    have hfollows := hopening.follows
    rwa [hnext] at hfollows

/-- In a run, a backslash shields by being the last character before. -/
theorem HasAt.isShielded_iff (h : src.HasAt start (front ++ back) rest) (hback : back ≠ []) :
    isShielded false front = true ↔ src.IsShielded start [] (start + utf8Length front) := by
  constructor
  · intro hshield
    cases hlast : front.getLast? with
    | none => simp [KotestOutline.isShielded, hlast] at hshield
    | some c =>
      obtain ⟨before, rfl⟩ := List.getLast?_eq_some_iff.1 hlast
      obtain rfl : c = '\\' := by simpa [KotestOutline.isShielded, hlast] using hshield
      have hsize : '\\'.utf8Size = 1 := by decide
      rw [List.append_assoc, List.singleton_append] at h
      refine ⟨?_, by simp, ?_⟩
      · simp [hsize]
      · simpa [hsize] using h.charAt?_eq
  · rintro ⟨hinside, -, hbackslash⟩
    have hsize : '\\'.utf8Size = 1 := by decide
    have hlength : 0 < utf8Length back := by
      by_contra hzero
      exact hback (utf8Length_eq_zero_iff.1 (by omega))
    obtain ⟨before, behind, hsplit, hoffset⟩ :=
      h.exists_split (by omega) (by rw [utf8Length_append]; omega) hbackslash
    have hsame : front ++ back = (before ++ ['\\']) ++ behind := by
      rw [hsplit, List.append_assoc, List.singleton_append]
    have hfront : front = before ++ ['\\'] := by
      apply eq_of_append_eq_append hsame
      rw [utf8Length_append, utf8Length_cons, hsize, utf8Length_nil]
      omega
    simp [KotestOutline.isShielded, hfront]

/-- In a run, a dollar sign opens an interpolation by the run alone. -/
theorem HasAt.opens_iff (h : src.HasAt start (front ++ '$' :: back) rest) :
    (mayOpen rest.head? back && !KotestOutline.isShielded false front) = true ↔
      src.Opens start [] (start + utf8Length front) := by
  rw [Bool.and_eq_true, Bool.not_eq_true', ← Bool.not_eq_true, h.mayOpen_iff,
    h.isShielded_iff (List.cons_ne_nil _ _), Opens]

end Source

/-! ### Runs -/

/-- The leaf of a piece. -/
def Piece.leaf (span : Span) : Piece → Sketch
  | .literal text => .leaf .literalStringEntry text span
  | .template text => .leaf .templateEntry text span

/-- The leaf of a piece is a template entry just if the piece is an interpolation. -/
theorem Piece.kind_leaf_eq_iff {span : Span} {piece : Piece} :
    (piece.leaf span).label.kind = .templateEntry ↔ piece.isTemplate = true := by
  cases piece with
  | literal text => exact ⟨fun h => NodeKind.noConfusion h, fun h => Bool.noConfusion h⟩
  | template text => exact ⟨fun _ => rfl, fun _ => rfl⟩

/-- The leaf of a piece is literal text just if the piece is. -/
theorem Piece.kind_leaf_eq_literal_iff {span : Span} {piece : Piece} :
    (piece.leaf span).label.kind = .literalStringEntry ↔ piece.isTemplate = false := by
  cases piece with
  | literal text => exact ⟨fun _ => rfl, fun _ => rfl⟩
  | template text => exact ⟨fun h => NodeKind.noConfusion h, fun h => Bool.noConfusion h⟩

/-- Whether a node holds an entry whose text stands around an offset: an interpolation if one opens
there, and literal text otherwise. -/
structure Content.IsEntryAround (src : Source) (span : Span) (offset : Nat) (opens : Prop)
    (content : Content) : Prop where
  template : opens → content.kind = .templateEntry
  literal : ¬ opens → content.kind = .literalStringEntry
  span_eq : content.span = span
  around : ∃ text start rest, content.text = some (String.ofList text) ∧
    src.HasAt start text rest ∧ start ≤ offset ∧ offset < start + utf8Length text

/-- A run of content lowers to the leaves of its pieces. -/
theorem runLeaves_eq (h : src.HasAt start text rest) (span : Span) :
    Part.runLeaves src span start (start + utf8Length text) =
      (pieces rest.head? 0 false text).map (Piece.leaf span) := by
  have hafter : (src.sliceFrom (start + utf8Length text)).bind List.head? = rest.head? := by
    rw [h.sliceFrom_stop_eq, Option.bind_some]
  cases text with
  | nil => simp [Part.runLeaves, pieces]
  | cons c cs =>
    have hsize := c.utf8Size_pos
    rw [Part.runLeaves, if_pos (by rw [utf8Length_cons]; omega), h.slice_eq]
    dsimp only
    rw [hafter]
    apply List.map_congr_left
    rintro (text | text) -
    · rfl
    · rfl

/-- An interpolation of a run is opened by a dollar sign of it. -/
theorem exists_opens_of_mem_runLeaves (h : src.HasAt start text rest) {s : Sketch}
    (hs : s ∈ Part.runLeaves src span start (start + utf8Length text))
    (hkind : s.label.kind = .templateEntry) :
    ∃ offset, start ≤ offset ∧ offset < start + utf8Length text ∧ src.Opens start [] offset := by
  rw [runLeaves_eq h] at hs
  obtain ⟨piece, hpiece, rfl⟩ := List.mem_map.1 hs
  have htemplate : (pieces rest.head? 0 false text).any Piece.isTemplate = true :=
    List.any_eq_true.2 ⟨piece, hpiece, Piece.kind_leaf_eq_iff.1 hkind⟩
  obtain ⟨front, back, rfl, hmay, hshield⟩ := exists_dollar_of_any_isTemplate (by simp) htemplate
  refine ⟨start + utf8Length front, Nat.le_add_right _ _, ?_, h.opens_iff.1 ?_⟩
  · have hsize : '$'.utf8Size = 1 := by decide
    rw [utf8Length_append, utf8Length_cons, hsize]
    omega
  · rw [hmay, hshield]
    rfl

/-- A dollar sign of a run is in an interpolation exactly if it opens one, and else in literal
text. -/
theorem exists_entry_runLeaves (h : src.HasAt start text rest) (hstart : start ≤ offset)
    (hstop : offset < start + utf8Length text) (hdollar : src.charAt? offset = some '$') :
    ∃ s ∈ Part.runLeaves src span start (start + utf8Length text),
      s.label.IsEntryAround src span offset (src.Opens start [] offset) := by
  obtain ⟨front, back, rfl, rfl⟩ := h.exists_split hstart hstop hdollar
  have hfound : HasDollar (pieces rest.head? 0 false (front ++ '$' :: back)) (front.drop 0)
      (mayOpen rest.head? back && !isShielded false front) :=
    hasDollar_pieces (by simp) front back rfl
  obtain ⟨pre, piece, post, before, behind, hpieces, htext, hfront, htemplate⟩ := hfound
  have hopens := h.opens_iff
  rw [List.drop_zero] at hfront
  refine ⟨piece.leaf span, ?_, ?_, ?_, ?_, ?_⟩
  · rw [runLeaves_eq h, hpieces]
    exact List.mem_map_of_mem (List.mem_append_right _ List.mem_cons_self)
  · intro hopen
    rw [Piece.kind_leaf_eq_iff, htemplate, hopens]
    exact hopen
  · intro hclosed
    rw [Piece.kind_leaf_eq_literal_iff, htemplate, ← Bool.not_eq_true, hopens]
    exact hclosed
  · cases piece <;> rfl
  · have hcs := flatMap_text_pieces rest.head? 0 false (front ++ '$' :: back)
    rw [hpieces, List.flatMap_append, List.flatMap_cons, List.drop_zero] at hcs
    rw [← hcs] at h
    refine ⟨piece.text, _, _, by cases piece <;> rfl, h.right.left, ?_, ?_⟩
    · rw [← hfront, utf8Length_append]
      omega
    · have hsize : '$'.utf8Size = 1 := by decide
      rw [← hfront, htext, utf8Length_append, utf8Length_append, utf8Length_cons, hsize]
      omega

/-! ### Content -/

/-- Whether an offset is in none of some rows. -/
def IsOutside (rows : List Row) (offset : Nat) : Prop :=
  ∀ e ∈ rows, offset < e.start.toNat ∨ e.stop.toNat ≤ offset

namespace Source

/-- Whether content from an offset to `stop` consists of runs with rows between them. -/
inductive HasRuns (src : Source) (stop : Nat) : Nat → List Row → Prop where
  | last {start : Nat} {text rest : List Char} (hrun : src.HasAt start text rest)
      (hstop : stop = start + utf8Length text) : HasRuns src stop start []
  | next {start : Nat} {row : Row} {rows : List Row} {text rest : List Char}
      (hrun : src.HasAt start text rest) (hrow : row.start.toNat = start + utf8Length text)
      (hrange : row.start.toNat ≤ row.stop.toNat) (hrest : HasRuns src stop row.stop.toNat rows) :
      HasRuns src stop start (row :: rows)

/-- Content that consists of runs does not end before it begins. -/
theorem HasRuns.le (h : src.HasRuns stop start rows) : start ≤ stop := by
  induction h with
  | last _ hstop => omega
  | next _ hrow hrange _ ih => omega

/-- The rows between the runs stand behind the beginning of the content. -/
theorem HasRuns.le_of_mem (h : src.HasRuns stop start rows) :
    ∀ e ∈ rows, start ≤ e.start.toNat ∧ e.start.toNat ≤ e.stop.toNat := by
  induction h with
  | last => simp
  | next _ hrow hrange _ ih =>
    intro e he
    rcases List.mem_cons.1 he with rfl | he
    · exact ⟨by omega, hrange⟩
    · have hbounds := ih e he
      exact ⟨by omega, hbounds.2⟩

/-- What lies before the content lies in none of the rows between its runs. -/
theorem HasRuns.isOutside_of_lt (h : src.HasRuns stop start rows) (hoffset : offset < start) :
    IsOutside rows offset := by
  intro e he
  have hbounds := h.le_of_mem e he
  exact Or.inl (by omega)

variable {row : Row}

/-- Rows that stand in the content one after the other have runs between them. By induction on the
rows. -/
theorem hasRuns_of_pairwise (hstart : src.IsBoundary start) (hstop : src.IsBoundary stop)
    (hle : start ≤ stop) (hrange : ∀ e ∈ rows, e.start.toNat ≤ e.stop.toNat)
    (hinside : ∀ e ∈ rows, start ≤ e.start.toNat ∧ e.stop.toNat ≤ stop)
    (hbound : ∀ e ∈ rows, src.IsBoundary e.start.toNat ∧ src.IsBoundary e.stop.toNat)
    (hapart : rows.Pairwise fun a b => a.stop.toNat ≤ b.start.toNat) :
    src.HasRuns stop start rows := by
  induction rows generalizing start with
  | nil =>
    obtain ⟨text, rest, hrun, hlength⟩ := exists_hasAt hstart hstop hle
    exact .last hrun hlength
  | cons row rows ih =>
    obtain ⟨hfirst, hapart⟩ := List.pairwise_cons.1 hapart
    obtain ⟨hrange, hranges⟩ := List.forall_mem_cons.1 hrange
    obtain ⟨hinside, hinsides⟩ := List.forall_mem_cons.1 hinside
    obtain ⟨hbound, hbounds⟩ := List.forall_mem_cons.1 hbound
    obtain ⟨text, rest, hrun, hlength⟩ := exists_hasAt hstart hbound.1 hinside.1
    exact .next hrun hlength hrange
      (ih hbound.2 hinside.2 hranges (fun e he => ⟨hfirst e he, (hinsides e he).2⟩) hbounds hapart)

/-- Before the first row between the runs, none of them matters. -/
theorem HasRuns.opens_iff_of_lt (h : src.HasRuns stop row.stop.toNat rows)
    (hrange : row.start.toNat ≤ row.stop.toNat) (hoffset : offset < row.start.toNat) :
    src.Opens start (row :: rows) offset ↔ src.Opens start [] offset := by
  have hapart : ∀ e ∈ row :: rows, e.stop.toNat ≠ offset := by
    intro e he
    rcases List.mem_cons.1 he with rfl | he
    · omega
    · have hbounds := h.le_of_mem e he
      omega
  refine and_congr_right fun _ => not_congr ?_
  exact ⟨fun hs => ⟨hs.inside, by simp, hs.backslash⟩, fun hs => ⟨hs.inside, hapart, hs.backslash⟩⟩

/-- Behind the first row between the runs, the content might as well begin there. -/
theorem opens_iff_of_le (hrow : start ≤ row.stop.toNat) (hoffset : row.stop.toNat ≤ offset) :
    src.Opens start (row :: rows) offset ↔ src.Opens row.stop.toNat rows offset := by
  refine and_congr_right fun _ => not_congr ?_
  constructor
  · rintro ⟨-, hapart, hbackslash⟩
    have hne := hapart row List.mem_cons_self
    exact ⟨by omega, fun e he => hapart e (List.mem_cons_of_mem row he), hbackslash⟩
  · rintro ⟨hinside, hapart, hbackslash⟩
    refine ⟨by omega, ?_, hbackslash⟩
    intro e he
    rcases List.mem_cons.1 he with rfl | he
    · omega
    · exact hapart e he

end Source

/-- An interpolation of content is opened by a dollar sign outside the escapes. By induction on the
escapes. -/
theorem exists_opens_of_mem_contentLeaves (h : src.HasRuns stop start rows) (escapes : List Part)
    (hrows : escapes.map Part.row = rows) {s : Sketch}
    (hs : s ∈ Part.contentLeaves src span stop start escapes)
    (hkind : s.label.kind = .templateEntry) :
    ∃ offset, start ≤ offset ∧ offset < stop ∧ IsOutside rows offset ∧
      src.Opens start rows offset := by
  induction h generalizing escapes with
  | last hrun hstop =>
    obtain rfl := List.map_eq_nil_iff.1 hrows
    rw [Part.contentLeaves, hstop] at hs
    obtain ⟨offset, hstart, hbelow, hopens⟩ := exists_opens_of_mem_runLeaves hrun hs hkind
    exact ⟨offset, hstart, by omega, List.forall_mem_nil _, hopens⟩
  | @next start row rows text rest hrun hrow hrange hrest ih =>
    obtain ⟨p, ps, rfl, rfl, hps⟩ := List.map_eq_cons_iff.1 hrows
    have hle := hrest.le
    rw [Part.contentLeaves, hrow, List.mem_append, List.mem_cons] at hs
    rcases hs with hs | rfl | hs
    · obtain ⟨offset, hstart, hstop, hopens⟩ := exists_opens_of_mem_runLeaves hrun hs hkind
      have hbefore : offset < p.row.start.toNat := by omega
      exact ⟨offset, hstart, by omega, List.forall_mem_cons.2
        ⟨Or.inl hbefore, hrest.isOutside_of_lt (by omega)⟩,
        (hrest.opens_iff_of_lt hrange hbefore).2 hopens⟩
    · cases hkind
    · obtain ⟨offset, hstart, hstop, houtside, hopens⟩ := ih ps hps hs
      exact ⟨offset, by omega, hstop, List.forall_mem_cons.2 ⟨Or.inr hstart, houtside⟩,
        (Source.opens_iff_of_le (by omega) hstart).2 hopens⟩

/-- A dollar sign of content, outside the escapes, is in an interpolation exactly if it opens one,
and else in literal text. By induction on the escapes. -/
theorem exists_entry_contentLeaves (h : src.HasRuns stop start rows) (escapes : List Part)
    (hrows : escapes.map Part.row = rows) (hstart : start ≤ offset) (hstop : offset < stop)
    (houtside : IsOutside rows offset) (hdollar : src.charAt? offset = some '$') :
    ∃ s ∈ Part.contentLeaves src span stop start escapes,
      s.label.IsEntryAround src span offset (src.Opens start rows offset) := by
  induction h generalizing escapes with
  | last hrun hstop =>
    obtain rfl := List.map_eq_nil_iff.1 hrows
    rw [hstop, Part.contentLeaves]
    exact exists_entry_runLeaves hrun hstart (by omega) hdollar
  | @next start row rows text rest hrun hrow hrange hrest ih =>
    obtain ⟨p, ps, rfl, rfl, hps⟩ := List.map_eq_cons_iff.1 hrows
    obtain ⟨hrow', hrows'⟩ := List.forall_mem_cons.1 houtside
    rw [Part.contentLeaves, hrow]
    rcases hrow' with hbefore | hbehind
    · rw [hrest.opens_iff_of_lt hrange hbefore]
      obtain ⟨s, hs, haround⟩ := exists_entry_runLeaves hrun hstart (by omega) hdollar
      exact ⟨s, List.mem_append_left _ hs, haround⟩
    · rw [Source.opens_iff_of_le (by omega) hbehind]
      obtain ⟨s, hs, haround⟩ := ih ps hps hbehind hrows'
      exact ⟨s, List.mem_append_right _ (List.mem_cons_of_mem _ hs), haround⟩

end KotestOutline
