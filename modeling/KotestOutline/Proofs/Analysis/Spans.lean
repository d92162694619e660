import KotestOutline.Project
import KotestOutline.Proofs.Lowering.Building
import KotestOutline.Proofs.Lowering.Nesting
import KotestOutline.Proofs.Lowering.Preorder
import KotestOutline.Proofs.Recognition.Listing
import KotestOutline.Proofs.Suite.RoundTrip

/-!
# Spans and lines

Spans of what is listed nest, and so a line is looked up by them.
-/

namespace KotestOutline

/-!
## Spans of what is listed

Spans nest in the lowered file, and a recognized test has the span of its node. So a test lies in
the class that lists it, and in every test that it is anchored below.

* `Cst.span_within_of_parent?`: the span of a node lies in the one of its parent, where each class
  has its supertypes in one row.
* `SyntaxTree.Lists.span_within` and `SyntaxTree.Lists.span_within_of_isAbove`: listed tests.
* `Cst.spans_nest`: a whole file.
-/

section

variable {src : Source} {cst : Cst}

/-! ### Nodes -/

/-- The span of a node lies in that of its parent, where rows are ordered and every class has its
supertypes in one row. -/
theorem Cst.span_within_of_parent? (h : cst.IsOrdered) (hone : cst.HasOneDelegation) {n p : Node}
    (hn : n ∈ (lower src cst).nodes) (hp : n.parent? = some p) : n.span.Within p.span := by
  obtain ⟨hparent, hchild⟩ := SyntaxTree.mem_nodes_of_parent? hp hn
  obtain ⟨v, hv, hpv, hchildren⟩ := exists_shows_of_hasOneDelegation hone hparent
  obtain ⟨u, hu, hnu⟩ := exists_mem_of_forall₂ hchildren hchild
  have hspan : n.span = u.label.span := congrArg Content.span hnu.content_eq
  have hspan' : p.span = v.label.span := congrArg Content.span hpv.content_eq
  rw [hspan, hspan']
  exact isNested_toSketch src h v hv u hu

/-! ### Listed tests -/

/-- A recognized test has the span of the node it was recognized at. -/
theorem SpecStyle.span_of_tryMatch {style : SpecStyle} {n : Node} {t : RecognizedTest}
    (h : style.tryMatch n = .ok t) : t.span = n.span := by
  obtain ⟨-, name, containers, kind, rfl⟩ := tryMatch_eq_ok h
  rfl

/-- A class or object is no supertype list, the one kind of node whose span may be too short. -/
theorem NodeKind.ne_superTypeList_of_isClassOrObject {kind : NodeKind}
    (h : kind.isClassOrObject = true) : kind ≠ .superTypeList := by
  rintro rfl
  cases h

/-- Nor is a call or a dotted expression. -/
theorem NodeKind.ne_superTypeList_of_mayDeclareTest {kind : NodeKind}
    (h : kind.mayDeclareTest = true) : kind ≠ .superTypeList := by
  rintro rfl
  cases h

/-- Whether a test is in the listing of a class of a file, under some style. -/
def SyntaxTree.Lists (tree : SyntaxTree) (c : Node) (t : RecognizedTest) : Prop :=
  c ∈ tree.nodes ∧ c.kind.isClassOrObject = true ∧
    ∃ style membership, t ∈ listTests style membership c

namespace SyntaxTree

variable {tree : SyntaxTree} {c d : Node} {t u : RecognizedTest}

/-- A listed test is a node below the class, which has its number and its span. -/
theorem Lists.exists_node (h : tree.Lists c t) :
    ∃ n ∈ tree.nodes, n ∈ c.descendants ∧ t.anchor = n.id ∧ t.span = n.span ∧
      n.kind ≠ .superTypeList := by
  obtain ⟨hc, -, style, membership, ht⟩ := h
  obtain ⟨n, hn, hrec⟩ := mem_listTests.1 ht
  have hmatch := SpecStyle.tryMatch_of_tryRecognize hrec
  have hdesc := Node.mem_descendants_of_mem_below hn
  exact ⟨n, mem_nodes_of_mem_descendants hdesc hc, hdesc, SpecStyle.anchor_of_tryMatch hmatch,
    SpecStyle.span_of_tryMatch hmatch,
    NodeKind.ne_superTypeList_of_mayDeclareTest (SpecStyle.kind_of_tryMatch hmatch)⟩

/-- A listed test has a span inside that of the class. -/
theorem Lists.span_within (h : cst.IsOrdered) (ht : (Cst.lower src cst).Lists c t) :
    t.span.Within c.span := by
  obtain ⟨n, -, hdesc, -, hspan, hkind⟩ := ht.exists_node
  rw [hspan]
  exact Cst.span_within_of_mem_descendants src h ht.1 hdesc
    (NodeKind.ne_superTypeList_of_isClassOrObject ht.2.1) hkind

/-- A test listed below another one has a span inside the other one's. -/
theorem Lists.span_within_of_isAbove (h : cst.IsOrdered) (ht : (Cst.lower src cst).Lists c t)
    (hu : (Cst.lower src cst).Lists d u)
    (habove : (Cst.lower src cst).isAbove t.anchor u.anchor = true) : u.span.Within t.span := by
  obtain ⟨n, hn, -, hanchor, hspan, hkind⟩ := ht.exists_node
  obtain ⟨m, hm, -, hanchor', hspan', hkind'⟩ := hu.exists_node
  rw [hanchor, hanchor', (Cst.hasDistinctIds_lower src cst).isAbove_iff hn hm] at habove
  rw [hspan, hspan']
  exact Cst.span_within_of_mem_descendants src h hn
    (Node.mem_descendants_of_mem_ancestors hm habove) hkind hkind'

end SyntaxTree

/-- The tests of an analyzed spec are those that its class lists. -/
theorem Scanner.exists_lists_of_mem_specs {scanner : Scanner} {tree : SyntaxTree}
    {spec : SpecAnalysis} (h : spec ∈ (scanner.analyze tree).specs) :
    ∃ c : Node, spec.span = c.span ∧ ∀ t ∈ spec.tests, tree.Lists c t := by
  obtain ⟨listed, hlisted, rfl⟩ := List.mem_map.1 h
  obtain ⟨hdesc, hclass, -⟩ := mem_listSpecifications.1 hlisted
  exact ⟨listed.1, rfl, fun t ht => ⟨List.mem_cons_of_mem _ hdesc, hclass, _, _, ht⟩⟩

/-! ### Files -/

/-- **Lowered spans nest.** In a file with nested and ordered rows and at most one row of supertypes
in each class and object, the span of every node lies inside that of its parent. So the span of a
listed test lies inside that of its spec, in an analysis and in every other listing, and the span of
a test anchored below another one, in the same class or not, lies inside the other one's. -/
theorem Cst.spans_nest (src : Source) (h : cst.IsOrdered) (hone : cst.HasOneDelegation) :
    (∀ n ∈ (lower src cst).nodes, ∀ p, n.parent? = some p → n.span.Within p.span) ∧
    (∀ scanner : Scanner, ∀ spec ∈ (scanner.analyze (lower src cst)).specs, ∀ t ∈ spec.tests,
      t.span.Within spec.span) ∧
    (∀ c t, (lower src cst).Lists c t → t.span.Within c.span) ∧
    ∀ c t d u, (lower src cst).Lists c t → (lower src cst).Lists d u →
      (lower src cst).isAbove t.anchor u.anchor = true → u.span.Within t.span := by
  refine ⟨fun n hn p hp => span_within_of_parent? h hone hn hp, ?_,
    fun c t ht => ht.span_within h, fun c t d u ht hu => ht.span_within_of_isAbove h hu⟩
  intro scanner spec hspec t ht
  obtain ⟨c, hspan, hlists⟩ := Scanner.exists_lists_of_mem_specs hspec
  rw [hspan]
  exact (hlists t ht).span_within h

open FunSpecSample in
/-- A file with one spec, in which a call with a configuration becomes a chain. -/
theorem spans_nest_funSpecSample :
    (construct "source_file" 0 80 [spec]).IsOrdered ∧
      (construct "source_file" 0 80 [spec]).HasOneDelegation ∧
      ∀ n ∈ (Cst.lower source (construct "source_file" 0 80 [spec])).nodes,
        ∀ p, n.parent? = some p → n.span.Within p.span := by
  have hordered : (construct "source_file" 0 80 [spec]).IsOrdered := by decide
  have hone : (construct "source_file" 0 80 [spec]).HasOneDelegation := by decide
  exact ⟨hordered, hone, (Cst.spans_nest source hordered hone).1⟩

end

/-!
## The declaration at a line

A line is looked up by the number of lines of the spans that touch it, and among equals the first in
pre-order is taken. Spans nest, so the declarations inside the chosen one that touch the line are
those that start and end on the very lines it does: then the outermost is chosen. In all other cases
the choice is the innermost declaration.

* `mem_of_firstMinBy?` and `key_le_of_firstMinBy?`: what is chosen has the least key.
* `Span.Within.containsLine_iff_hasLinesOf`: a span inside the chosen one.
* `Scanner.lookup_innermost_iff`: the choice is innermost exactly if nothing inside it has its
  lines.
-/

section

/-! ### Least keys -/

section FirstMinBy

variable {α : Type} {key : α → Nat} {xs : List α} {x : α}

/-- The first of some elements is kept against a later one with the same key. -/
theorem firstMinBy?_cons (key : α → Nat) (x : α) (xs : List α) :
    firstMinBy? key (x :: xs) =
      some ((firstMinBy? key xs).elim x fun y => if key x ≤ key y then x else y) := by
  rw [firstMinBy?]
  cases firstMinBy? key xs with
  | none => rfl
  | some y =>
    dsimp only [Option.elim_some]
    split_ifs <;> rfl

/-- There is a choice if there is anything to choose from. -/
theorem firstMinBy?_eq_none_iff : firstMinBy? key xs = none ↔ xs = [] := by
  cases xs with
  | nil => simp [firstMinBy?]
  | cons x xs => simp [firstMinBy?_cons]

/-- What is chosen is one of the elements. -/
theorem mem_of_firstMinBy? (h : firstMinBy? key xs = some x) : x ∈ xs := by
  induction xs generalizing x with
  | nil => cases h
  | cons a xs ih =>
    rw [firstMinBy?_cons, Option.some.injEq] at h
    cases hrest : firstMinBy? key xs with
    | none =>
      rw [hrest, Option.elim_none] at h
      exact h ▸ List.mem_cons_self
    | some y =>
      rw [hrest, Option.elim_some] at h
      split_ifs at h
      · exact h ▸ List.mem_cons_self
      · exact List.mem_cons_of_mem a (ih (hrest.trans (congrArg some h)))

/-- What is chosen has the least key. -/
theorem key_le_of_firstMinBy? (h : firstMinBy? key xs = some x) : ∀ y ∈ xs, key x ≤ key y := by
  induction xs generalizing x with
  | nil => cases h
  | cons a xs ih =>
    rw [firstMinBy?_cons, Option.some.injEq] at h
    intro y hy
    cases hrest : firstMinBy? key xs with
    | none =>
      rw [hrest, Option.elim_none] at h
      rw [firstMinBy?_eq_none_iff.1 hrest, List.mem_singleton] at hy
      rw [← h, hy]
    | some b =>
      have hb := ih hrest
      rw [hrest, Option.elim_some] at h
      split_ifs at h with hle
      · subst h
        rcases List.mem_cons.1 hy with rfl | hy
        · exact Nat.le_refl _
        · exact Nat.le_trans hle (hb y hy)
      · subst h
        rcases List.mem_cons.1 hy with rfl | hy
        · omega
        · exact hb y hy

end FirstMinBy

/-! ### Spans at a line -/

/-- Whether two spans start on one line and end on one line. -/
def Span.HasLinesOf (a b : Span) : Prop :=
  a.start.line = b.start.line ∧ a.stop.line = b.stop.line

instance (a b : Span) : Decidable (a.HasLinesOf b) :=
  inferInstanceAs (Decidable (a.start.line = b.start.line ∧ a.stop.line = b.stop.line))

/-- Of two spans at a line, one inside the other, the inner one has fewer lines unless it has the
same lines. So where the outer one is among those with the fewest lines, an inner span touches the
line exactly if it has the same lines. -/
theorem Span.Within.containsLine_iff_hasLinesOf {inner outer : Span} (h : inner.Within outer)
    {line : UInt32} (houter : outer.containsLine line = true)
    (hleast : inner.containsLine line = true → outer.lineCount ≤ inner.lineCount) :
    inner.containsLine line = true ↔ inner.HasLinesOf outer := by
  have hstart := Position.line_le h.start
  have hstop := Position.line_le h.stop
  simp only [Span.containsLine, Span.lineCount, Span.HasLinesOf, Bool.and_eq_true,
    decide_eq_true_eq, UInt32.le_iff_toNat_le, ← UInt32.toNat_inj] at *
  constructor
  · intro hinner
    have hcount := hleast hinner
    omega
  · intro hlines
    omega

/-! ### Listed specs -/

variable {src : Source} {cst : Cst}

/-- A spec listed below another one has a span inside the other one's. -/
theorem span_within_of_listSpecifications {c : Classifier} {outer inner : Node × Classification}
    (h : cst.IsOrdered) (houter : outer ∈ listSpecifications c (.ofTree (Cst.lower src cst)))
    (hinner : inner ∈ listSpecifications c (.ofTree (Cst.lower src cst)))
    (hbelow : inner.1 ∈ outer.1.descendants) : inner.1.span.Within outer.1.span := by
  obtain ⟨hdesc, hclass, -⟩ := mem_listSpecifications.1 houter
  obtain ⟨-, hclass', -⟩ := mem_listSpecifications.1 hinner
  exact Cst.span_within_of_mem_descendants src h (List.mem_cons_of_mem _ hdesc) hbelow
    (NodeKind.ne_superTypeList_of_isClassOrObject hclass)
    (NodeKind.ne_superTypeList_of_isClassOrObject hclass')

/-! ### The look-up -/

variable {scanner : Scanner}

/-- Of the tests below the one at a line, those that touch the line are those with its lines. -/
theorem containsLine_iff_of_testAtLine? (h : cst.IsOrdered) {spec : SpecAnalysis}
    (hspec : spec ∈ (scanner.analyze (Cst.lower src cst)).specs) {line : UInt32}
    {t u : RecognizedTest} (ht : spec.testAtLine? line = some t) (hu : u ∈ spec.tests)
    (habove : (Cst.lower src cst).isAbove t.anchor u.anchor = true) :
    u.span.containsLine line = true ↔ u.span.HasLinesOf t.span := by
  obtain ⟨c, -, hlists⟩ := Scanner.exists_lists_of_mem_specs hspec
  obtain ⟨hin, hline⟩ := List.mem_filter.1 (mem_of_firstMinBy? ht)
  have hwithin := (hlists t hin).span_within_of_isAbove h (hlists u hu) habove
  apply hwithin.containsLine_iff_hasLinesOf hline
  intro hinner
  exact key_le_of_firstMinBy? ht u (List.mem_filter.2 ⟨hu, hinner⟩)

/-- Of the specs below the one at a line, those that touch the line are those with its lines. -/
theorem containsLine_iff_of_specAtLine? (h : cst.IsOrdered) {spec : SpecAnalysis} {line : UInt32}
    (hspec : (scanner.analyze (Cst.lower src cst)).specAtLine? line = some spec)
    {outer inner : Node × Classification}
    (houter : outer ∈ scanner.listSpecifications (Cst.lower src cst))
    (hinner : inner ∈ scanner.listSpecifications (Cst.lower src cst))
    (hsame : spec = .ofClass (scanner.fileClassifier (Cst.lower src cst)) outer.1 outer.2)
    (hbelow : inner.1 ∈ outer.1.descendants) :
    inner.1.span.containsLine line = true ↔ inner.1.span.HasLinesOf outer.1.span := by
  subst hsame
  obtain ⟨-, hline⟩ := List.mem_filter.1 (mem_of_firstMinBy? hspec)
  apply (span_within_of_listSpecifications h houter hinner hbelow).containsLine_iff_hasLinesOf hline
  intro htouch
  refine key_le_of_firstMinBy? hspec
    (.ofClass (scanner.fileClassifier (Cst.lower src cst)) inner.1 inner.2) ?_
  exact List.mem_filter.2 ⟨List.mem_map.2 ⟨inner, hinner, rfl⟩, htouch⟩

/-- **The declaration at a line is the innermost one exactly if none inside it has its lines.** In a
file with nested and ordered rows: where a line has a test, no listed test below that one touches
the line if and only if none below it starts and ends on the lines that it starts and ends on; and
the same for the spec at a line and the listed specs below its class. Declarations that share both
lines with one inside them hide it. -/
theorem Scanner.lookup_innermost_iff (scanner : Scanner) (src : Source) (h : cst.IsOrdered) :
    (∀ spec ∈ (scanner.analyze (Cst.lower src cst)).specs, ∀ line t,
      spec.testAtLine? line = some t →
        ((∀ u ∈ spec.tests, (Cst.lower src cst).isAbove t.anchor u.anchor = true →
            u.span.containsLine line = false) ↔
          ∀ u ∈ spec.tests, (Cst.lower src cst).isAbove t.anchor u.anchor = true →
            ¬ u.span.HasLinesOf t.span)) ∧
    ∀ line spec, (scanner.analyze (Cst.lower src cst)).specAtLine? line = some spec →
      ∀ outer ∈ scanner.listSpecifications (Cst.lower src cst),
        spec = .ofClass (scanner.fileClassifier (Cst.lower src cst)) outer.1 outer.2 →
          ((∀ inner ∈ scanner.listSpecifications (Cst.lower src cst),
              inner.1 ∈ outer.1.descendants → inner.1.span.containsLine line = false) ↔
            ∀ inner ∈ scanner.listSpecifications (Cst.lower src cst),
              inner.1 ∈ outer.1.descendants → ¬ inner.1.span.HasLinesOf outer.1.span) := by
  constructor
  · intro spec hspec line t ht
    refine forall₃_congr fun u hu habove => ?_
    rw [← containsLine_iff_of_testAtLine? h hspec ht hu habove, Bool.not_eq_true]
  · intro line spec hspec outer houter hsame
    refine forall₃_congr fun inner hinner hbelow => ?_
    rw [← containsLine_iff_of_specAtLine? h hspec houter hinner hsame hbelow, Bool.not_eq_true]

/-! ### A container and its test on one line -/

namespace OneLineSample

open FunSpecSample

/-- A spec whose only test stands on the line of its container. -/
def source : Source := .ofString <|
  "class S : ShouldSpec(\x7b\n    context(\"c\") \x7b should(\"a\") \x7b \x7d \x7d\n\x7d)\n"

/-- Its rows. -/
def file : Cst :=
  construct "source_file" 0 63 [construct "class_declaration" 0 62
    [token "class" 0 5, construct "identifier" 6 7 [], token ":" 8 9,
      construct "delegation_specifiers" 10 62 [construct "delegation_specifier" 10 62
        [construct "constructor_invocation" 10 62
          [construct "user_type" 10 20 [construct "identifier" 10 20 []],
            construct "value_arguments" 20 62 [token "(" 20 21,
              construct "value_argument" 21 61 [construct "lambda_literal" 21 61
                [token "\x7b" 21 22,
                  construct "call_expression" 27 59
                    [callOf 27 34 39 [construct "string_content" 36 37 []],
                      lambda 40 59 [construct "call_expression" 42 57
                        [callOf 42 48 53 [construct "string_content" 50 51 []],
                          lambda 54 57 []]]],
                  token "\x7d" 60 61]],
              token ")" 61 62]]]]]]

/-- A scanner without configuration and index. -/
def defaultScanner : Scanner := ⟨.default, .full, none⟩

/-- The container, and the test in it. -/
def container : RecognizedTest :=
  ⟨"c", "c", [], .container, 13, ⟨⟨1, 4⟩, ⟨1, 36⟩⟩⟩

def test : RecognizedTest :=
  ⟨"a", "c -- a", ["c"], .test, 27, ⟨⟨1, 19⟩, ⟨1, 34⟩⟩⟩

/-- The only spec. -/
def spec : SpecAnalysis :=
  ⟨"S", "S", .shouldSpec, "Should Spec", .textual, ⟨⟨0, 0⟩, ⟨2, 2⟩⟩, [container, test], []⟩

/-- The rows of the sample stand in order. -/
theorem isOrdered_file : file.IsOrdered := by decide

/-- The sample file has the spec. -/
theorem spec_mem_specs : spec ∈ (defaultScanner.analyze (Cst.lower source file)).specs := by
  have hanalysis : defaultScanner.analyze (Cst.lower source file) = ⟨none, [spec]⟩ := by
    decide +kernel
  rw [hanalysis]
  exact List.mem_singleton_self spec

/-- The container of the sample is above its test. -/
theorem isAbove_container :
    (Cst.lower source file).isAbove container.anchor test.anchor = true := by
  decide +kernel

end OneLineSample

open OneLineSample

/-- At the line of both, the choice is the container, and it is not the innermost declaration. -/
theorem not_innermost_oneLineSample :
    file.IsOrdered ∧ spec.testAtLine? 1 = some container ∧
      ¬ ∀ u ∈ spec.tests,
        (Cst.lower source file).isAbove container.anchor u.anchor = true →
          u.span.containsLine 1 = false := by
  obtain ⟨htests, -⟩ := Scanner.lookup_innermost_iff defaultScanner source isOrdered_file
  refine ⟨isOrdered_file, rfl, ?_⟩
  rw [htests spec spec_mem_specs 1 container rfl]
  intro hdistinct
  exact hdistinct test (by simp [spec]) isAbove_container ⟨rfl, rfl⟩

/-- So the test at a line is not always the innermost one, even where rows are nested and
ordered. -/
theorem not_forall_testAtLine?_innermost :
    ¬ ∀ (scanner : Scanner) (src : Source) (cst : Cst), cst.IsOrdered →
      ∀ spec ∈ (scanner.analyze (Cst.lower src cst)).specs, ∀ line t,
        spec.testAtLine? line = some t →
          ∀ u ∈ spec.tests, (Cst.lower src cst).isAbove t.anchor u.anchor = true →
            u.span.containsLine line = false := by
  intro h
  have hmissed : test.span.containsLine 1 = false :=
    h defaultScanner source file isOrdered_file spec spec_mem_specs 1 container rfl test
      (by simp [spec]) isAbove_container
  cases hmissed

end

end KotestOutline
