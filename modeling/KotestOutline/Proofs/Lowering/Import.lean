import KotestOutline.Proofs.Suite.Rows
import KotestOutline.Proofs.Suite.Yield
import KotestOutline.Proofs.Text.Affix

/-!
# Import lines

The text of an import directive is the dotted path of its line. Blanks of any kind may stand around
the dots, and behind the keyword, and a semicolon at the end. An alias however is cut off only where
spaces stand next to its keyword, since it is the text ` as ` that is looked for.

* `ImportLine` is a line in its pieces, `ImportLine.IsOf` relates it to the path it imports.
* `ImportLine.read_eq`: what is read off a line is the path, and behind it what is left of an alias.
* `Cst.importDirective_eq_path_iff`: so the directive has the path as its text exactly if there is
  no alias or it is set off by spaces, and `Cst.not_forall_importDirective_eq_path` shows a line
  where it is not.
-/

namespace KotestOutline

/-! ### Lines -/

/-- Blanks of any kind, or nothing. -/
def IsGap (gap : List Char) : Prop := ∀ c ∈ gap, isBlank c = true

/-- An identifier, or the asterisk. -/
structure IsWord (w : List Char) : Prop where
  ne_nil : w ≠ []
  plain : ∀ c ∈ w, isBlank c = false ∧ c ≠ '.' ∧ c ≠ ';'

/-- A word that can stand in a path. -/
structure IsPathWord (w : List Char) : Prop extends IsWord w where
  ne_as : w ≠ ['a', 's']

instance (gap : List Char) : Decidable (IsGap gap) := List.decidableBAll _ gap

instance (w : List Char) : Decidable (IsWord w) :=
  haveI := List.decidableBAll (fun c => isBlank c = false ∧ c ≠ '.' ∧ c ≠ ';') w
  decidable_of_iff (w ≠ [] ∧ ∀ c ∈ w, isBlank c = false ∧ c ≠ '.' ∧ c ≠ ';')
    ⟨fun h => ⟨h.1, h.2⟩, fun h => ⟨h.ne_nil, h.plain⟩⟩

instance (w : List Char) : Decidable (IsPathWord w) :=
  decidable_of_iff (IsWord w ∧ w ≠ ['a', 's']) ⟨fun h => ⟨h.1, h.2⟩, fun h => ⟨h.1, h.ne_as⟩⟩

/-- Whether a text is a dotted path written with blanks around its dots. -/
inductive IsSpacedPath : (path written : List Char) → Prop where
  | word {w : List Char} (hw : IsPathWord w) : IsSpacedPath w w
  | dot {w before after path written : List Char} (hw : IsPathWord w) (hbefore : IsGap before)
      (hafter : IsGap after) (rest : IsSpacedPath path written) :
      IsSpacedPath (w ++ '.' :: path) (w ++ (before ++ '.' :: (after ++ written)))

/-- The alias of an import, with the blanks before and behind its keyword. -/
structure ImportAlias where
  before : List Char
  after : List Char
  name : List Char

/-- An import line in its pieces. -/
structure ImportLine where
  /-- The blanks behind the keyword. -/
  gap : List Char
  written : List Char
  alias? : Option ImportAlias
  /-- Whether the line ends with a semicolon. -/
  semicolon : Bool

namespace ImportAlias

/-- The alias as it is written behind a path. -/
def text (a : ImportAlias) : List Char := a.before ++ ('a' :: 's' :: (a.after ++ a.name))

/-- Whether there are blanks of some kind before and behind the keyword. -/
structure IsWellFormed (a : ImportAlias) : Prop where
  before : a.before ≠ [] ∧ IsGap a.before
  after : a.after ≠ [] ∧ IsGap a.after
  name : IsWord a.name

/-- Whether it is spaces that are next to the keyword. -/
def IsSetOff (a : ImportAlias) : Prop := a.before.getLast? = some ' ' ∧ a.after.head? = some ' '

instance (a : ImportAlias) : Decidable a.IsSetOff := inferInstanceAs (Decidable (_ ∧ _))

instance (a : ImportAlias) : Decidable a.IsWellFormed :=
  decidable_of_iff ((a.before ≠ [] ∧ IsGap a.before) ∧ (a.after ≠ [] ∧ IsGap a.after) ∧
    IsWord a.name) ⟨fun h => ⟨h.1, h.2.1, h.2.2⟩, fun h => ⟨h.before, h.after, h.name⟩⟩

end ImportAlias

namespace ImportLine

/-- What the line ends with. -/
def stop (line : ImportLine) : List Char := if line.semicolon then [';'] else []

/-- What follows the path. -/
def tail (line : ImportLine) : List Char := line.alias?.elim [] ImportAlias.text ++ line.stop

/-- The line as it is written. -/
def text (line : ImportLine) : List Char :=
  "import".toList ++ (line.gap ++ (line.written ++ line.tail))

/-- Whether a line imports a path. -/
structure IsOf (line : ImportLine) (path : List Char) : Prop where
  gap : line.gap ≠ [] ∧ IsGap line.gap
  written : IsSpacedPath path line.written
  alias_wellFormed : ∀ a ∈ line.alias?, a.IsWellFormed

/-- What is left of the alias. -/
def leftover (line : ImportLine) : List Char :=
  line.alias?.elim [] fun a => if a.IsSetOff then [] else 'a' :: 's' :: a.name

end ImportLine

/-! ### The separator in a line -/

section Separator

variable {w path written gap tail cs : List Char}

/-- Blanks before something are passed, unless it is the keyword of an alias. -/
theorem IsGap.beforeFirst_append (h : IsGap gap) (hcs : ¬ ['a', 's', ' '] <+: cs) :
    beforeFirst [' ', 'a', 's', ' '] (gap ++ cs) =
      gap ++ beforeFirst [' ', 'a', 's', ' '] cs :=
  beforeFirst_append_of_blank (by decide) h hcs

/-- A first part of blanks is blanks. -/
theorem IsGap.of_append (h : IsGap (gap ++ cs)) : IsGap gap :=
  fun c hc => h c (List.mem_append_left cs hc)

/-- A word holds no space. -/
theorem IsWord.ne_blank (h : IsWord w) : ∀ c ∈ w, c ≠ ' ' := by
  intro c hc heq
  have hblank := (h.plain c hc).1
  rw [heq] at hblank
  exact absurd hblank (by decide)

/-- What may follow a word: nothing, or a character that is in no word. -/
def IsBoundary (cs : List Char) : Prop := ∀ c ∈ cs.head?, isBlank c = true ∨ c = '.' ∨ c = ';'

/-- A word of a path is not taken for the keyword of an alias. -/
theorem IsPathWord.not_prefix (h : IsPathWord w) (hcs : IsBoundary cs) :
    ¬ ['a', 's', ' '] <+: w ++ cs := by
  intro hbegins
  match w, h with
  | [], h => exact h.ne_nil rfl
  | [a], h =>
    cases cs with
    | nil => simp at hbegins
    | cons c cs =>
      simp only [List.cons_append, List.nil_append, List.cons_prefix_cons] at hbegins
      have hc := hcs c rfl
      rw [← hbegins.2.1] at hc
      exact absurd hc (by decide)
  | [a, b], h =>
    simp only [List.cons_append, List.cons_prefix_cons] at hbegins
    exact h.ne_as (by rw [hbegins.1, hbegins.2.1])
  | a :: b :: c :: _, h =>
    simp only [List.cons_append, List.cons_prefix_cons] at hbegins
    exact h.ne_blank c (by simp) hbegins.2.2.1.symm

/-- No alias begins in a path, with blanks before it. By induction on the path, one word with the
blanks before it at a time. -/
theorem IsSpacedPath.beforeFirst_append (h : IsSpacedPath path written) (hgap : IsGap gap)
    (htail : IsBoundary tail) :
    beforeFirst [' ', 'a', 's', ' '] (gap ++ (written ++ tail)) =
      gap ++ (written ++ beforeFirst [' ', 'a', 's', ' '] tail) := by
  induction h generalizing gap with
  | word hw =>
    rw [hgap.beforeFirst_append (hw.not_prefix htail), beforeFirst_append_of_ne hw.ne_blank]
  | @dot w before after path written hw hbefore hafter _ ih =>
    have hboundary : IsBoundary (before ++ '.' :: (after ++ (written ++ tail))) := by
      intro c hc
      cases before with
      | nil => exact .inr (.inl (Option.some.inj hc).symm)
      | cons b before =>
        obtain rfl := Option.some.inj hc
        exact .inl (hbefore b List.mem_cons_self)
    have hdot : ¬ ['a', 's', ' '] <+: '.' :: (after ++ (written ++ tail)) := by
      simp [List.cons_prefix_cons]
    simp only [List.append_assoc, List.cons_append]
    rw [hgap.beforeFirst_append (hw.not_prefix hboundary), beforeFirst_append_of_ne hw.ne_blank,
      hbefore.beforeFirst_append hdot, beforeFirst_cons_of_ne (by decide), ih hafter]

/-! ### Blanks and semicolons in a line -/

/-- A word stays as it is when blanks are taken out. -/
theorem IsWord.withoutBlanks_eq (h : IsWord w) : withoutBlanks w = w :=
  withoutBlanks_of_not_blank fun c hc => (h.plain c hc).1

/-- Without its blanks a path is written as it is. -/
theorem IsSpacedPath.withoutBlanks_eq (h : IsSpacedPath path written) :
    withoutBlanks written = path := by
  have hdot : withoutBlanks ['.'] = ['.'] := by decide
  induction h with
  | word hw => exact hw.withoutBlanks_eq
  | @dot w before after path written hw hbefore hafter _ ih =>
    rw [← List.singleton_append, withoutBlanks_append, withoutBlanks_append, withoutBlanks_append,
      withoutBlanks_append, hw.withoutBlanks_eq, withoutBlanks_of_blank hbefore, hdot,
      withoutBlanks_of_blank hafter, ih]
    rfl

/-- Blanks hold no semicolon. -/
theorem IsGap.ne_semicolon (h : IsGap gap) : ∀ c ∈ gap, (c == ';') = false := by
  intro c hc
  rw [beq_eq_false_iff_ne]
  rintro rfl
  exact absurd (h _ hc) (by decide)

/-- A word holds no semicolon. -/
theorem IsWord.ne_semicolon (h : IsWord w) : ∀ c ∈ w, (c == ';') = false := by
  intro c hc
  rw [beq_eq_false_iff_ne]
  exact (h.plain c hc).2.2

/-- A written path holds no semicolon. -/
theorem IsSpacedPath.ne_semicolon (h : IsSpacedPath path written) :
    ∀ c ∈ written, (c == ';') = false := by
  induction h with
  | word hw => exact hw.ne_semicolon
  | dot hw hbefore hafter _ ih =>
    simp only [List.forall_mem_append, List.forall_mem_cons]
    exact ⟨hw.ne_semicolon, hbefore.ne_semicolon, by decide, hafter.ne_semicolon, ih⟩

end Separator

/-! ### What is read off a line -/

namespace ImportAlias

variable {a : ImportAlias} {stop : List Char}

/-- An alias that is set off is cut off with its keyword. -/
theorem IsWellFormed.isGap_beforeFirst_of_isSetOff (h : a.IsWellFormed) (hset : a.IsSetOff)
    (stop : List Char) :
    IsGap (beforeFirst [' ', 'a', 's', ' '] (a.text ++ stop)) := by
  obtain ⟨gap, hbefore⟩ := List.getLast?_eq_some_iff.1 hset.1
  obtain ⟨after, hafter⟩ := List.head?_eq_some_iff.1 hset.2
  have hgap : IsGap gap := (hbefore ▸ h.before.2).of_append
  have htext : a.text ++ stop = gap ++ ([' ', 'a', 's', ' '] ++ (after ++ (a.name ++ stop))) := by
    simp [text, hbefore, hafter]
  have hblank : ¬ ['a', 's', ' '] <+: [' ', 'a', 's', ' '] ++ (after ++ (a.name ++ stop)) := by
    simp [List.cons_prefix_cons]
  rw [htext, hgap.beforeFirst_append hblank, beforeFirst_append_self, List.append_nil]
  exact hgap

/-- Behind the keyword of an alias no other begins. -/
theorem IsWellFormed.beforeFirst_after (h : a.IsWellFormed) (hstop : ∀ c ∈ stop, c = ';') :
    beforeFirst [' ', 'a', 's', ' '] (a.after ++ (a.name ++ stop)) =
      a.after ++ (a.name ++ stop) := by
  have hplain : ∀ c ∈ a.name ++ stop, c ≠ ' ' := by
    rw [List.forall_mem_append]
    refine ⟨h.name.ne_blank, fun c hc => ?_⟩
    rw [hstop c hc]
    decide
  have hbegins : ¬ ['a', 's', ' '] <+: a.name ++ stop := by
    intro hbegins
    exact hplain ' ' (hbegins.subset (by simp)) rfl
  have hself : beforeFirst [' ', 'a', 's', ' '] (a.name ++ stop ++ []) = a.name ++ stop ++ [] :=
    beforeFirst_append_of_ne hplain []
  rw [List.append_nil] at hself
  rw [h.after.2.beforeFirst_append hbegins, hself]

/-- An alias that is not set off stays. The blank that is no space is either the first behind the
keyword or the last before it. -/
theorem IsWellFormed.beforeFirst_of_not_isSetOff (h : a.IsWellFormed) (hset : ¬ a.IsSetOff)
    (hstop : ∀ c ∈ stop, c = ';') :
    beforeFirst [' ', 'a', 's', ' '] (a.text ++ stop) = a.text ++ stop := by
  have htext : a.text ++ stop = a.before ++ ('a' :: 's' :: (a.after ++ (a.name ++ stop))) := by
    simp [text]
  have hrest : beforeFirst [' ', 'a', 's', ' '] ('a' :: 's' :: (a.after ++ (a.name ++ stop))) =
      'a' :: 's' :: (a.after ++ (a.name ++ stop)) := by
    rw [beforeFirst_cons_of_ne (by decide), beforeFirst_cons_of_ne (by decide),
      h.beforeFirst_after hstop]
  rw [htext]
  by_cases hafter : a.after.head? = some ' '
  · -- the last blank before the keyword is no space, so nothing begins with it
    obtain ⟨gap, c, hbefore⟩ := List.eq_nil_or_concat a.before |>.resolve_left h.before.1
    rw [List.concat_eq_append] at hbefore
    have hc : c ≠ ' ' := by
      rintro rfl
      exact hset ⟨by rw [hbefore, List.getLast?_concat], hafter⟩
    have hblank : isBlank c = true := h.before.2 c (by simp [hbefore])
    have hbegins : ¬ ['a', 's', ' '] <+: c :: 'a' :: 's' :: (a.after ++ (a.name ++ stop)) := by
      rw [List.cons_prefix_cons]
      rintro ⟨rfl, -⟩
      exact absurd hblank (by decide)
    have hgap : IsGap gap := (hbefore ▸ h.before.2).of_append
    rw [hbefore, List.append_assoc, List.singleton_append, hgap.beforeFirst_append hbegins,
      beforeFirst_cons_of_ne hc, hrest]
  · have hbegins : ¬ ['a', 's', ' '] <+: 'a' :: 's' :: (a.after ++ (a.name ++ stop)) := by
      obtain ⟨c, after, hcons⟩ := List.exists_cons_of_ne_nil h.after.1
      rw [hcons] at hafter ⊢
      simp only [List.cons_append, List.cons_prefix_cons]
      rintro ⟨-, -, rfl, -⟩
      exact hafter rfl
    rw [h.before.2.beforeFirst_append hbegins, hrest]

/-- Without its blanks an alias is its keyword and its name. -/
theorem IsWellFormed.withoutBlanks_text (h : a.IsWellFormed) :
    withoutBlanks a.text = 'a' :: 's' :: a.name := by
  have hkeyword : withoutBlanks ['a', 's'] = ['a', 's'] := by decide
  have htext : a.text = a.before ++ (['a', 's'] ++ (a.after ++ a.name)) := rfl
  rw [htext, withoutBlanks_append, withoutBlanks_append, withoutBlanks_append,
    withoutBlanks_of_blank h.before.2, withoutBlanks_of_blank h.after.2, h.name.withoutBlanks_eq,
    hkeyword]
  rfl

/-- A written alias holds no semicolon. -/
theorem IsWellFormed.ne_semicolon (h : a.IsWellFormed) : ∀ c ∈ a.text, (c == ';') = false := by
  simp only [text, List.forall_mem_append, List.forall_mem_cons]
  exact ⟨h.before.2.ne_semicolon, by decide, by decide, h.after.2.ne_semicolon,
    h.name.ne_semicolon⟩

/-- A written alias begins where a word may end. -/
theorem IsWellFormed.isBoundary_text (h : a.IsWellFormed) : IsBoundary (a.text ++ stop) := by
  obtain ⟨c, before, hbefore⟩ := List.exists_cons_of_ne_nil h.before.1
  intro d hd
  rw [text, hbefore] at hd
  obtain rfl := Option.some.inj hd
  exact .inl (h.before.2 c (by rw [hbefore]; exact List.mem_cons_self))

end ImportAlias

namespace ImportLine

variable {line : ImportLine} {path : List Char}

/-- What is left of an alias that is not set off begins with its keyword. -/
theorem leftover_eq_nil_iff : line.leftover = [] ↔ ∀ a ∈ line.alias?, a.IsSetOff := by
  unfold leftover
  cases halias : line.alias? with
  | none => simp
  | some a => simp

/-- What a line ends with is nothing but semicolons. -/
theorem eq_of_mem_stop (line : ImportLine) : ∀ c ∈ line.stop, c = ';' := by
  unfold stop
  cases line.semicolon <;> simp

/-- What follows the path of a line begins where a word may end. -/
theorem IsOf.isBoundary_tail (h : line.IsOf path) : IsBoundary line.tail := by
  unfold tail
  cases halias : line.alias? with
  | none =>
    intro c hc
    exact .inr (.inr (line.eq_of_mem_stop c (List.mem_of_mem_head? hc)))
  | some a => exact (h.alias_wellFormed a halias).isBoundary_text

/-- What is read off the text behind a path is what is left of the alias. -/
theorem IsOf.read_tail (h : line.IsOf path) :
    ∃ kept stop, beforeFirst [' ', 'a', 's', ' '] line.tail = kept ++ stop ∧
      withoutBlanks kept = line.leftover ∧ (∀ c ∈ kept, (c == ';') = false) ∧
      ∀ c ∈ stop, (c == ';') = true := by
  have hstop : ∀ c ∈ line.stop, (c == ';') = true := by
    intro c hc
    rw [line.eq_of_mem_stop c hc]
    rfl
  unfold tail leftover
  cases halias : line.alias? with
  | none =>
    refine ⟨[], line.stop, ?_, rfl, by simp, hstop⟩
    unfold stop
    cases line.semicolon <;> decide
  | some a =>
    have ha := h.alias_wellFormed a halias
    simp only [Option.elim_some]
    by_cases hset : a.IsSetOff
    · have hgap := ha.isGap_beforeFirst_of_isSetOff hset line.stop
      refine ⟨_, [], (List.append_nil _).symm, ?_, hgap.ne_semicolon, by simp⟩
      rw [withoutBlanks_of_blank hgap, if_pos hset]
    · refine ⟨_, _, ha.beforeFirst_of_not_isSetOff hset line.eq_of_mem_stop, ?_, ha.ne_semicolon,
        hstop⟩
      rw [ha.withoutBlanks_text, if_neg hset]

/-- What is read off a line is the path, and what is left of the alias. -/
theorem IsOf.read_eq (h : line.IsOf path) :
    withoutBlanks (dropEndWhile (· == ';') (beforeFirst " as ".toList
      (dropAllFront "import".toList (dropBlanks line.text)))) = path ++ line.leftover := by
  have hblanks : dropBlanks line.text =
      "import".toList ++ (line.gap ++ (line.written ++ line.tail)) := by
    show List.dropWhile isBlank ('i' :: _) = _
    rw [List.dropWhile_cons_of_neg (by decide)]
    rfl
  have hkeyword : dropFront? "import".toList (line.gap ++ (line.written ++ line.tail)) = none := by
    obtain ⟨c, gap, hgap⟩ := List.exists_cons_of_ne_nil h.gap.1
    have hblank : isBlank c = true := h.gap.2 c (by rw [hgap]; exact List.mem_cons_self)
    have hne : 'i' ≠ c := by
      rintro rfl
      exact absurd hblank (by decide)
    rw [hgap]
    show (if 'i' = c then _ else none) = none
    rw [if_neg hne]
  obtain ⟨kept, stop, htail, hkept, hfront, hback⟩ := h.read_tail
  have hplain : ∀ c ∈ line.gap ++ (line.written ++ kept), (c == ';') = false := by
    simp only [List.forall_mem_append]
    exact ⟨h.gap.2.ne_semicolon, h.written.ne_semicolon, hfront⟩
  have hcut : beforeFirst " as ".toList (line.gap ++ (line.written ++ line.tail)) =
      line.gap ++ (line.written ++ kept) ++ stop := by
    show beforeFirst [' ', 'a', 's', ' '] _ = _
    rw [h.written.beforeFirst_append h.gap.2 h.isBoundary_tail, htail, List.append_assoc,
      List.append_assoc]
  rw [hblanks, dropAllFront_append (by decide) hkeyword, hcut, dropEndWhile_append hplain hback,
    withoutBlanks_append, withoutBlanks_append, withoutBlanks_of_blank h.gap.2,
    h.written.withoutBlanks_eq, hkept, List.nil_append]

end ImportLine

/-! ### Import rows -/

/-- Whether a row is an import. -/
def Row.IsImport (row : Row) : Prop := row.IsConstruct "import" ∨ row.IsConstruct "import_header"

namespace Cst

variable {src : Source} {row : Row} {ts children : List Cst} {t u : Cst} {s : Sketch}
  {line : ImportLine} {path : List Char}

/-- Whether a tree stands in another with nothing but wrappers around it. -/
inductive IsWrappedIn (t : Cst) : Cst → Prop where
  | here : IsWrappedIn t t
  | wrapper {row : Row} {ts : List Cst} {u : Cst} {kind : String} (hrow : row.IsConstruct kind)
      (hkind : Role.ofKind kind = .wrapper) (hu : u ∈ ts) (h : IsWrappedIn t u) :
      IsWrappedIn t (.node row ts)

/-- Wrappers keep what is in them. -/
theorem IsWrappedIn.mem_sketches (h : t.IsWrappedIn u) (hs : s ∈ sketches src t) :
    s ∈ sketches src u := by
  induction h with
  | here => exact hs
  | wrapper hrow hkind hu _ ih =>
    rw [hrow.sketches_eq (by rw [hkind]; decide)]
    unfold Part.constructNodes
    rw [hrow.kind_eq, hkind, sketchAll_map_toPart]
    exact List.mem_flatMap.2 ⟨_, hu, ih⟩

/-- What stands in a file with nothing but wrappers around it is shown right below the file. -/
theorem exists_child_of_isWrappedIn (file : Row) (hu : u ∈ ts) (h : t.IsWrappedIn u)
    (hs : s ∈ sketches src t) :
    ∃ n ∈ (Node.ofTree (lower src (.node file ts))).children, n.Shows s := by
  have hmem : s ∈ ts.flatMap (sketches src) := List.mem_flatMap.2 ⟨u, hu, h.mem_sketches hs⟩
  exact exists_mem_of_forall₂ (shows_children_lower src file ts).flip hmem

/-- An import row lowers to a leaf with what is read off its line. -/
theorem sketches_of_import (hrow : row.IsImport) (htext : src.rowText row = line.text)
    (hline : line.IsOf path) (children : List Cst) :
    sketches src (.node row children) =
      [.leaf .importDirective (path ++ line.leftover) (src.rowSpan row)] := by
  have hread : Part.importPath src row = path ++ line.leftover := by
    rw [← hline.read_eq, ← htext]
    rfl
  rcases hrow with hrow | hrow
  all_goals
    rw [hrow.sketches_eq (by decide), ← hread]
    unfold Part.constructNodes
    rw [hrow.kind_eq]
    rfl

/-- **What an import directive says.** An import row is one leaf with its path as the text, and
behind the path what is left of an alias. It is the path and nothing else exactly if there is no
alias, or a space right before and right behind the keyword of the alias. Whatever blanks stand
elsewhere in the line, they make no difference. -/
theorem importDirective_eq_path_iff (file : Row) (hrow : row.IsImport)
    (htext : src.rowText row = line.text) (hline : line.IsOf path) (hu : u ∈ ts)
    (hwrapped : IsWrappedIn (.node row children) u) :
    sketches src (.node row children) =
        [.leaf .importDirective (path ++ line.leftover) (src.rowSpan row)] ∧
      ∃ n ∈ (Node.ofTree (lower src (.node file ts))).children,
        n.kind = .importDirective ∧ n.tree.label.span = src.rowSpan row ∧
          n.text = String.ofList (path ++ line.leftover) ∧
          (n.text = String.ofList path ↔ ∀ a ∈ line.alias?, a.IsSetOff) := by
  have hsketches := sketches_of_import hrow htext hline children
  obtain ⟨n, hn, hshows⟩ := exists_child_of_isWrappedIn file hu hwrapped
    (by rw [hsketches]; exact List.mem_singleton_self _)
  have hspan : n.tree.label.span = src.rowSpan row := congrArg Content.span hshows.content_eq
  refine ⟨hsketches, n, hn, hshows.kind_eq, hspan, hshows.text_leaf, ?_⟩
  rw [hshows.text_leaf, String.ofList_inj, List.append_right_eq_self, line.leftover_eq_nil_iff]

/-! ### Two lines -/

namespace ImportSample

/-- An import over two lines. -/
def spacedSource : Source := .ofString "import a.\n B as C;"

def spacedLine : ImportLine := ⟨[' '], "a.\n B".toList, some ⟨[' '], [' '], ['C']⟩, true⟩

def spacedRow : Row := ⟨"import_header", true, false, false, 0, 18⟩

/-- The row in a list of imports. -/
def spacedList : Cst := .node ⟨"import_list", true, false, false, 0, 18⟩ [.node spacedRow []]

/-- An import with a tab before the keyword of its alias. -/
def tabbedSource : Source := .ofString "import a.B\tas C"

def tabbedLine : ImportLine := ⟨[' '], "a.B".toList, some ⟨['\t'], [' '], ['C']⟩, false⟩

def tabbedRow : Row := ⟨"import", true, false, false, 0, 15⟩

end ImportSample

open ImportSample

/-- The blanks around the dot are dropped, and the alias is. -/
theorem importDirective_spacedList :
    (∀ a ∈ spacedLine.alias?, a.IsSetOff) ∧
      ∃ n ∈ (Node.ofTree (lower spacedSource
          (.node ⟨"source_file", true, false, false, 0, 18⟩ [spacedList]))).children,
        n.kind = .importDirective ∧ n.text = "a.B" := by
  have hset : ∀ a ∈ spacedLine.alias?, a.IsSetOff := by decide
  have hwritten : IsSpacedPath (['a'] ++ '.' :: ['B'])
      (['a'] ++ ([] ++ '.' :: (['\n', ' '] ++ ['B']))) :=
    .dot (by decide) (by decide) (by decide) (.word (by decide))
  have hline : spacedLine.IsOf "a.B".toList := ⟨by decide, hwritten, by decide⟩
  obtain ⟨-, n, hn, hkind, -, -, htext⟩ := importDirective_eq_path_iff
    ⟨"source_file", true, false, false, 0, 18⟩ (Or.inr ⟨rfl, rfl, rfl, rfl⟩)
    (show spacedSource.rowText spacedRow = spacedLine.text by decide) hline
    (List.mem_singleton_self spacedList)
    (.wrapper ⟨rfl, rfl, rfl, rfl⟩ (by decide) (List.mem_singleton_self _) .here)
  exact ⟨hset, n, hn, hkind, htext.2 hset⟩

/-- Behind a tab the alias is not cut off. -/
theorem not_forall_importDirective_eq_path :
    ¬ ∀ (src : Source) (row : Row) (children : List Cst) (line : ImportLine) (path : List Char),
      row.IsImport → src.rowText row = line.text → line.IsOf path →
        sketches src (.node row children) =
          [.leaf .importDirective path (src.rowSpan row)] := by
  intro h
  have hwritten : IsSpacedPath (['a'] ++ '.' :: ['B']) (['a'] ++ ([] ++ '.' :: ([] ++ ['B']))) :=
    .dot (by decide) (by decide) (by decide) (.word (by decide))
  have hline : tabbedLine.IsOf "a.B".toList := ⟨by decide, hwritten, by decide⟩
  have hrow : tabbedRow.IsImport := .inl ⟨rfl, rfl, rfl, rfl⟩
  have htext : tabbedSource.rowText tabbedRow = tabbedLine.text := by decide
  have hsame := h tabbedSource tabbedRow [] tabbedLine _ hrow htext hline
  rw [sketches_of_import hrow htext hline []] at hsame
  have htexts := congrArg (List.map fun s => s.label.text) hsame
  exact absurd htexts (by decide)

end Cst

end KotestOutline
