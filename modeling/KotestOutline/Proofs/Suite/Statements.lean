import KotestOutline.Proofs.Suite.Lowered

/-!
# What written declarations contribute

The statements of a suite lower to sketches that contribute the entries that the suite declares.

* `IsTest.exists_sketch`: a test contributes its entry.
* `IsContainerHead.exists_sketch`: a container contributes its own and those of its body.
* `IsSuite.yieldsAll`: so do the statements of a suite, by induction on the suite.
-/

namespace KotestOutline

variable {src : Source} {style : SpecStyle}

/-! ### Lambdas -/

/-- A lambda around rows lowers to a complete trailing lambda that contributes what they do. -/
theorem IsLambda.exists_trailing {body : List Cst} {lambda : Cst} (h : IsLambda body lambda)
    (src : Source) (hmissing : ∀ s ∈ body.flatMap (Cst.sketches src), s.label.kind ≠ .missing) :
    lambda.label.IsConstruct "annotated_lambda" ∧ ∃ s, Cst.sketches src lambda = [s] ∧
      s.IsTrailing ∧ ∀ style membership outer entries,
        Sketch.YieldsAll style membership outer (body.flatMap (Cst.sketches src)) entries →
          Sketch.Yields style membership outer s entries := by
  obtain ⟨hsuffix, span, inner, hsketch⟩ := h.exists_sketch src
  have hlist : (body.flatMap (Cst.sketches src)).countP Sketch.isSuperTypeList ≤ 1 := by
    rw [Cst.countP_flatMap_sketches]
    exact Nat.zero_le 1
  refine ⟨hsuffix, _, hsketch, Sketch.isTrailing_of_body hlist hmissing, ?_⟩
  intro style membership outer entries hyields
  exact Sketch.yields_lambda hlist hyields

/-- Whether a tree is a trailing lambda that lowers to a complete one and contributes nothing. -/
structure Cst.IsIdleLambda (src : Source) (lambda : Cst) (last : Sketch) : Prop where
  suffix : lambda.label.IsConstruct "annotated_lambda"
  sketches_eq : sketches src lambda = [last]
  trailing : last.IsTrailing
  yields : ∀ style membership outer, Sketch.Yields style membership outer last []

/-- A lambda without calls is such a one. -/
theorem IsLambda.exists_idle {body : List Cst} {lambda : Cst} (h : IsLambda body lambda)
    (src : Source) (hbody : ∀ t ∈ body, t.IsQuiet) : ∃ last, lambda.IsIdleLambda src last := by
  obtain ⟨hsuffix, last, hlast, htrailing, hyields⟩ :=
    h.exists_trailing src (Cst.kind_ne_missing_of_isQuiet hbody)
  refine ⟨last, hsuffix, hlast, htrailing, ?_⟩
  intro style membership outer
  apply hyields
  exact Sketch.yieldsAll_nil_of_forall (Cst.everywhere_of_isQuiet hbody)

/-! ### Declarations -/

/-- The head of a test with an idle lambda lowers to a sketch that contributes the test. -/
theorem IsTestHead.exists_bare_sketch {name : String} {call : Row} {head lambda : Cst}
    {last : Sketch} (h : IsTestHead src style name head)
    (hcall : call.IsConstruct "call_expression") (hlambda : lambda.IsIdleLambda src last) :
    ∃ s, Cst.sketches src (.node call [head, lambda]) = [s] ∧ s.label.kind ≠ .missing ∧
      ∀ membership outer,
        Sketch.Yields style membership outer s [.declared .test name outer] := by
  unfold IsTestHead at h
  split at h
  next hflat =>
    obtain ⟨span, template, hsketch, htemplate⟩ := h.exists_sketch_with hcall hlambda.suffix
      hlambda.sketches_eq
    refine ⟨_, hsketch, by rintro ⟨⟩, ?_⟩
    intro membership outer
    exact Sketch.yields_stringCall hflat htemplate hlambda.trailing
      (hlambda.yields style membership outer)
  next rules hnested =>
    obtain ⟨span, callee, arguments, hsketch, hcallee, harguments⟩ :=
      h.exists_sketch_with hcall hlambda.suffix hlambda.sketches_eq
    refine ⟨_, hsketch, by rintro ⟨⟩, ?_⟩
    intro membership outer
    exact Sketch.yields_test hnested hcallee harguments hlambda.trailing
      (hlambda.yields style membership outer)

/-- So does the head with a configuration in between. -/
theorem IsTestHead.exists_configured_sketch {name : String}
    {call inner navigation dot config arguments : Row} {head lambda : Cst} {last : Sketch}
    (h : IsTestHead src style name head) (argumentRows : List Cst)
    (hcall : call.IsConstruct "call_expression") (hinner : inner.IsConstruct "call_expression")
    (hnavigation : navigation.IsConstruct "navigation_expression") (hdot : dot.IsToken src ".")
    (hconfig : config.IsIdentifier src "config")
    (harguments : arguments.IsConstruct "value_arguments")
    (hquiet : ∀ t ∈ argumentRows, t.IsQuiet)
    (hlambda : lambda.IsIdleLambda src last) :
    ∃ s, Cst.sketches src
        (.node call [.node inner [.node navigation [head, .node dot [], .node config []],
          .node arguments argumentRows], lambda]) = [s] ∧ s.label.kind ≠ .missing ∧
      ∀ membership outer,
        Sketch.Yields style membership outer s [.declared .test name outer] := by
  have hfree : ∀ span, Sketch.Everywhere Sketch.IsCallFree
      (.composite .valueArgumentList span (argumentRows.flatMap (Cst.sketches src))) := by
    intro span
    exact lowers_isCallFree.everywhere_plain span rfl (Cst.everywhere_of_isQuiet hquiet)
  unfold IsTestHead at h
  split at h
  next hflat =>
    obtain ⟨kind, -, hrow⟩ := h.exists_kind
    obtain ⟨template, htemplate, hstring⟩ := Cst.exists_sketch_of_isLiteral h
    obtain ⟨span, dotSpan, selectorSpan, argumentsSpan, hsketch⟩ :=
      exists_sketch_of_configured argumentRows hcall hinner hnavigation hrow.named
        (h.kind_ne "navigation_suffix" (by decide)) hdot hconfig harguments hlambda.suffix
        hlambda.sketches_eq
    rw [htemplate, List.singleton_append] at hsketch
    refine ⟨_, hsketch, by rintro ⟨⟩, ?_⟩
    intro membership outer
    exact Sketch.yields_configuredString hflat hstring hconfig.isReferenceTo rfl (hfree _)
      hlambda.trailing (hlambda.yields style membership outer)
  next rules hnested =>
    obtain ⟨_, _, hparts⟩ := h.exists_parts
    obtain ⟨receiverSpan, callee, list, hreceiver, hcallee, hlist⟩ := h.exists_sketch
    obtain ⟨span, dotSpan, selectorSpan, argumentsSpan, hsketch⟩ :=
      exists_sketch_of_configured argumentRows hcall hinner hnavigation hparts.call.named
        (by rw [hparts.call.kind_eq]; rfl) hdot hconfig harguments hlambda.suffix
        hlambda.sketches_eq
    rw [hreceiver, List.singleton_append] at hsketch
    refine ⟨_, hsketch, by rintro ⟨⟩, ?_⟩
    intro membership outer
    exact Sketch.yields_configuredCall hnested hcallee hlist hconfig.isReferenceTo rfl (hfree _)
      hlambda.trailing (hlambda.yields style membership outer)

/-- A written test lowers to one sketch, which contributes the entry of the test. -/
theorem IsTest.exists_sketch {name : String} {t : Cst} (h : IsTest src style name t) :
    ∃ s, Cst.sketches src t = [s] ∧ s.label.kind ≠ .missing ∧ ∀ membership outer,
      Sketch.Yields style membership outer s [.declared .test name outer] := by
  cases h with
  | bare hcall hhead hlambda hbody =>
    obtain ⟨last, hlast⟩ := hlambda.exists_idle src hbody
    exact hhead.exists_bare_sketch hcall hlast
  | configured hcall hinner hnavigation hhead hdot hconfig harguments hquiet hlambda hbody =>
    obtain ⟨last, hlast⟩ := hlambda.exists_idle src hbody
    exact hhead.exists_configured_sketch _ hcall hinner hnavigation hdot hconfig harguments hquiet
      hlast

/-- A container around a body lowers to one sketch, which contributes the container and, one name
deeper, what the body does. -/
theorem IsContainerHead.exists_sketch {name : String} {call : Row} {head lambda : Cst}
    {body : List Cst} {inside : List Declaration} (h : IsContainerHead src style name head)
    (hcall : call.IsConstruct "call_expression") (hlambda : IsLambda body lambda)
    (hmissing : ∀ s ∈ body.flatMap (Cst.sketches src), s.label.kind ≠ .missing)
    (hbody : ∀ membership outer, Sketch.YieldsAll style membership outer
      (body.flatMap (Cst.sketches src)) (Declaration.entriesAll outer inside)) :
    ∃ s, Cst.sketches src (.node call [head, lambda]) = [s] ∧ s.label.kind ≠ .missing ∧
      ∀ membership outer, Sketch.Yields style membership outer s
        (Declaration.entries outer (.container name inside)) := by
  obtain ⟨hsuffix, last, hlast, htrailing, hyields⟩ := hlambda.exists_trailing src hmissing
  unfold IsContainerHead at h
  split at h
  next => exact absurd h id
  next rules hnested =>
    obtain ⟨span, callee, arguments, hsketch, hcallee, harguments⟩ :=
      h.exists_sketch_with hcall hsuffix hlast
    refine ⟨_, hsketch, by rintro ⟨⟩, ?_⟩
    intro membership outer
    exact Sketch.yields_container hnested hcallee harguments htrailing
      (hyields style membership (outer ++ [name]) _ (hbody membership (outer ++ [name])))

/-! ### Suites -/

/-- In front of other statements, a statement that lowers to one sketch adds what it contributes. -/
theorem yieldsAll_statement {t : Cst} {ts : List Cst} {s : Sketch}
    {front back : List String → List ListingEntry} (hs : Cst.sketches src t = [s])
    (hkind : s.label.kind ≠ .missing)
    (hfront : ∀ membership outer, Sketch.Yields style membership outer s (front outer))
    (hback : ∀ membership outer, Sketch.YieldsAll style membership outer
      (ts.flatMap (Cst.sketches src)) (back outer))
    (hmissing : ∀ s ∈ ts.flatMap (Cst.sketches src), s.label.kind ≠ .missing) :
    (∀ membership outer, Sketch.YieldsAll style membership outer
      ((t :: ts).flatMap (Cst.sketches src)) (front outer ++ back outer)) ∧
    ∀ s ∈ (t :: ts).flatMap (Cst.sketches src), s.label.kind ≠ .missing := by
  rw [List.flatMap_cons, hs, List.singleton_append]
  constructor
  · intro membership outer
    exact Sketch.YieldsAll.cons (hfront membership outer) (hback membership outer)
  · intro u hu
    rcases List.mem_cons.1 hu with rfl | hu
    · exact hkind
    · exact hmissing u hu

/-- The statements of a suite contribute its entries, whatever containers are around them. By
induction on the suite: the rows of a container are one name deeper. -/
theorem IsSuite.yieldsAll {ds : List Declaration} {ts : List Cst} (h : IsSuite src style ds ts) :
    (∀ membership outer, Sketch.YieldsAll style membership outer (ts.flatMap (Cst.sketches src))
      (Declaration.entriesAll outer ds)) ∧
    ∀ s ∈ ts.flatMap (Cst.sketches src), s.label.kind ≠ .missing := by
  induction h with
  | nil =>
    constructor
    · intro membership outer
      exact Sketch.yieldsAll_nil
    · simp
  | @quiet t ds ts hquiet hrest ih =>
    obtain ⟨hyields, hmissing⟩ := ih
    rw [List.flatMap_cons]
    constructor
    · intro membership outer
      exact Sketch.YieldsAll.append_left hquiet.everywhere (hyields membership outer)
    · intro s hs
      rcases List.mem_append.1 hs with hs | hs
      · exact hquiet.kind_ne_missing s hs
      · exact hmissing s hs
  | test htest hrest ih =>
    obtain ⟨s, hs, hkind, hyields⟩ := htest.exists_sketch
    exact yieldsAll_statement hs hkind hyields ih.1 ih.2
  | container hcall hhead hlambda hbody hrest ihbody ih =>
    obtain ⟨s, hs, hkind, hyields⟩ := hhead.exists_sketch hcall hlambda ihbody.2 ihbody.1
    exact yieldsAll_statement hs hkind hyields ih.1 ih.2

end KotestOutline
