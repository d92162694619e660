import KotestOutline.Proofs.Classification.Semantics
import Mathlib.Data.Finset.Card

/-!
# How often the walk asks

The walk along a superclass chain is a loop that asks the resolver once in every turn. `walkFrom`
gives it a number of turns; here it gets none, and is shown to end all the same, since every turn
but the last meets a declared name that it has not met before.

* `Classifier.turn` is one turn, `Classifier.Follows` the loop with the names that it asks about.
* `Classifier.card_unmet_of_turn` is the measure: a turn that is not the last takes one name out of
  those that are declared and not met yet.
* `Classifier.exists_follows` is the loop from any state, and `Classifier.walk_terminates` the walk
  from a class.
-/

namespace KotestOutline

namespace Resolver

/-- The declared names that are not among those seen. -/
def unmet (r : Resolver) (seen : List String) : Finset String :=
  r.declaredNames.toFinset \ seen.toFinset

/-- A declared name that is met for the first time is one fewer to meet. -/
theorem card_unmet_cons {r : Resolver} {seen : List String} {fqName : String}
    (hdeclared : fqName ∈ r.declaredNames) (hnew : fqName ∉ seen) :
    (r.unmet (fqName :: seen)).card + 1 = (r.unmet seen).card := by
  have hmem : fqName ∈ r.unmet seen := by simp [unmet, hdeclared, hnew]
  rw [unmet, List.toFinset_cons, Finset.sdiff_insert]
  exact Finset.card_erase_add_one hmem

/-- At most all declared names are still to be met. -/
theorem card_unmet_le (r : Resolver) (seen : List String) :
    (r.unmet seen).card ≤ r.declaredNames.toFinset.card :=
  Finset.card_le_card Finset.sdiff_subset

/-- Names are not more than declarations. -/
theorem card_declaredNames_le (r : Resolver) : r.declaredNames.toFinset.card ≤ r.size := by
  rw [List.card_toFinset]
  exact r.length_dedup_declaredNames_le

end Resolver

namespace Classifier

/-! ### The loop -/

/-- Where a walk stands: the names of the classes met, and the superclass to ask about. -/
structure WalkState where
  seen : List String
  written : String
  context : ImportContext
  deriving DecidableEq

/-- One turn of the walk: the resolver is asked once, and the walk ends with an answer or comes to
another state. -/
def turn (c : Classifier) (candidates : List SpecStyle) (textual : Bool) (t : WalkState) :
    Option Classification ⊕ WalkState :=
  match c.meaning? t.written t.context with
  | none =>
    .inl (if textual then (matchShortName candidates t.written).map (⟨·, .textual⟩) else none)
  | some s =>
    match candidates.find? (·.fqName == s.fqName) with
    | some style => .inl (some ⟨style, .resolved⟩)
    | none =>
      if t.seen.contains s.fqName then .inl none
      else
        match s.superType with
        | none => .inl none
        | some next => .inr ⟨s.fqName :: t.seen, next, s.context⟩

/-- The walk from a state, turn after turn and without a bound. `asked` are the names that the
resolver is asked about, in this order, and `answer` is what the walk ends with. -/
inductive Follows (c : Classifier) (candidates : List SpecStyle) (textual : Bool) :
    WalkState → List (String × ImportContext) → Option Classification → Prop
  | ends {t answer} : c.turn candidates textual t = .inl answer →
      Follows c candidates textual t [(t.written, t.context)] answer
  | next {t t' asked answer} : c.turn candidates textual t = .inr t' →
      Follows c candidates textual t' asked answer →
      Follows c candidates textual t ((t.written, t.context) :: asked) answer

/-- The walk from a class: it asks about nothing where no superclass is written. -/
def Asks (c : Classifier) (n : Node) (candidates : List SpecStyle) (textual : Bool)
    (asked : List (String × ImportContext)) (answer : Option Classification) : Prop :=
  match superTypeName? n with
  | none => asked = [] ∧ answer = none
  | some written =>
    c.Follows candidates textual ⟨(classFqName? n).toList, written, .ofNode n⟩ asked answer

variable {c : Classifier} {candidates : List SpecStyle} {textual : Bool} {t t' : WalkState}
  {asked asked' : List (String × ImportContext)} {answer answer' : Option Classification}

/-- The loop takes one course only. -/
theorem Follows.unique (h : c.Follows candidates textual t asked answer)
    (h' : c.Follows candidates textual t asked' answer') : asked' = asked ∧ answer' = answer := by
  induction h generalizing asked' with
  | ends hturn =>
    cases h' with
    | ends hturn' => exact ⟨rfl, Sum.inl.inj (hturn'.symm.trans hturn)⟩
    | next hturn' _ => cases hturn'.symm.trans hturn
  | next hturn _ ih =>
    cases h' with
    | ends hturn' => cases hturn'.symm.trans hturn
    | next hturn' hrest =>
      cases hturn'.symm.trans hturn
      obtain ⟨hasked, hanswer⟩ := ih hrest
      exact ⟨by rw [hasked], hanswer⟩

/-- A step of the walk is one turn. -/
theorem walkFrom_turn (c : Classifier) (candidates : List SpecStyle) (textual : Bool) (steps : Nat)
    (t : WalkState) :
    c.walkFrom candidates textual (steps + 1) t.seen t.written t.context =
      match c.turn candidates textual t with
      | .inl answer => answer
      | .inr t' => c.walkFrom candidates textual steps t'.seen t'.written t'.context := by
  rw [walkFrom_succ, turn]
  cases c.meaning? t.written t.context with
  | none => rfl
  | some s =>
    dsimp only
    cases candidates.find? (·.fqName == s.fqName) with
    | some style => rfl
    | none =>
      dsimp only
      split_ifs
      · rfl
      · cases s.superType <;> rfl

/-- With a number of turns that is enough for it, the bounded walk answers as the loop does. -/
theorem Follows.walkFrom_eq {steps : Nat} (h : c.Follows candidates textual t asked answer)
    (hsteps : asked.length ≤ steps) :
    c.walkFrom candidates textual steps t.seen t.written t.context = answer := by
  induction h generalizing steps with
  | ends hturn =>
    cases steps with
    | zero => exact absurd hsteps (Nat.not_succ_le_zero _)
    | succ steps => rw [walkFrom_turn, hturn]
  | next hturn _ ih =>
    cases steps with
    | zero => exact absurd hsteps (Nat.not_succ_le_zero _)
    | succ steps =>
      rw [walkFrom_turn, hturn]
      exact ih (Nat.le_of_succ_le_succ hsteps)

/-! ### Its measure -/

variable {r : Resolver}

/-- A turn that is not the last meets a symbol with a superclass under a new name. -/
theorem turn_eq_inr (h : c.turn candidates textual t = .inr t') :
    ∃ s, c.meaning? t.written t.context = some s ∧ s.superType.isSome = true ∧
      s.fqName ∉ t.seen ∧ t'.seen = s.fqName :: t.seen := by
  unfold turn at h
  split at h
  · cases h
  next s hm =>
    split at h
    · cases h
    · split_ifs at h with hseen
      split at h
      · cases h
      next written hsuper =>
        cases h
        exact ⟨s, hm, by rw [hsuper]; rfl, by simpa using hseen, rfl⟩

/-- A turn after which the walk goes on has met one declared name more. -/
theorem card_unmet_of_turn (hr : c.resolver = some r)
    (h : c.turn candidates textual t = .inr t') :
    (r.unmet t'.seen).card + 1 = (r.unmet t.seen).card := by
  obtain ⟨s, hm, hsuper, hnew, hseen⟩ := turn_eq_inr h
  have hresolve : r.resolve t.written t.context = some s := by
    rw [meaning?, hr] at hm
    exact hm
  rw [hseen]
  exact Resolver.card_unmet_cons (Resolver.fqName_mem_of_resolve hresolve hsuper) hnew

/-- From every state the loop ends, after no more turns than there are names left to meet, and one.
By induction on their number. -/
theorem exists_follows (hr : c.resolver = some r) (candidates : List SpecStyle) (textual : Bool)
    (t : WalkState) :
    ∃ asked answer, c.Follows candidates textual t asked answer ∧
      asked.length ≤ (r.unmet t.seen).card + 1 := by
  induction hcard : (r.unmet t.seen).card generalizing t with
  | zero =>
    cases hturn : c.turn candidates textual t with
    | inl answer => exact ⟨_, answer, .ends hturn, Nat.le_refl 1⟩
    | inr t' =>
      have hless := card_unmet_of_turn hr hturn
      omega
  | succ left ih =>
    cases hturn : c.turn candidates textual t with
    | inl answer => exact ⟨_, answer, .ends hturn, Nat.le_add_left 1 (left + 1)⟩
    | inr t' =>
      have hless := card_unmet_of_turn hr hturn
      obtain ⟨asked, answer, hfollows, hlength⟩ := ih t' (by omega)
      exact ⟨_, answer, .next hturn hfollows, Nat.succ_le_succ hlength⟩

/-- **The walk ends.** Whatever is declared, cyclic hierarchies included, the loop from a class ends
after it has asked the resolver about some names, at most one more than there are distinct names
declared; it takes no other course, and its answer is the one of the walk. -/
theorem walk_terminates (registry : StyleRegistry) (r : Resolver) (n : Node)
    (candidates : List SpecStyle) (textual : Bool) :
    let c : Classifier := ⟨registry, some r⟩
    (∀ fqName, fqName ∈ r.declaredNames.toFinset ↔ (r.declared? fqName).isSome = true) ∧
    ∃ asked, c.Asks n candidates textual asked (c.walk n candidates textual) ∧
      asked.length ≤ r.declaredNames.toFinset.card + 1 ∧
      ∀ asked' answer, c.Asks n candidates textual asked' answer →
        asked' = asked ∧ answer = c.walk n candidates textual := by
  intro c
  refine ⟨fun fqName => by rw [List.mem_toFinset, Resolver.mem_declaredNames_iff], ?_⟩
  unfold Asks walk
  cases superTypeName? n with
  | none => exact ⟨[], ⟨rfl, rfl⟩, Nat.zero_le _, fun _ _ h => h⟩
  | some written =>
    let start : WalkState := ⟨(classFqName? n).toList, written, .ofNode n⟩
    obtain ⟨asked, answer, hfollows, hlength⟩ :=
      exists_follows (c := c) rfl candidates textual start
    have hasked : asked.length ≤ r.declaredNames.toFinset.card + 1 :=
      hlength.trans (Nat.succ_le_succ (r.card_unmet_le start.seen))
    have hsteps : asked.length ≤ c.maxSteps :=
      hasked.trans (Nat.succ_le_succ r.card_declaredNames_le)
    have hwalk : c.walkFrom candidates textual c.maxSteps (classFqName? n).toList written
        (.ofNode n) = answer := hfollows.walkFrom_eq hsteps
    rw [Option.bind_some, hwalk]
    exact ⟨asked, hfollows, hasked, fun _ _ h => hfollows.unique h⟩

/-- A project in which `A` and `B` extend each other. -/
def cyclicResolver : Resolver :=
  .index (.ofSymbols [⟨"A", some "B", .empty⟩, ⟨"B", some "A", .empty⟩])

/-- From outside that cycle the walk goes around it once. Two names are declared and three are asked
about, so there is no smaller bound. -/
theorem asks_cyclic :
    ∃ n ∈ (Node.ofTree extendingArena.toTree).children,
      (mk .full (some cyclicResolver)).Asks n StyleRegistry.full.styles true
        [("A", .empty), ("B", .empty), ("A", .empty)] none ∧
      cyclicResolver.declaredNames.toFinset.card = 2 := by
  let n := (Node.ofTree extendingArena.toTree).children.get ⟨0, by decide⟩
  let c : Classifier := ⟨.full, some cyclicResolver⟩
  have hwritten : superTypeName? n = some "A" := by decide
  have hclass : classFqName? n = some "T" := by decide
  have hcontext : ImportContext.ofNode n = .empty := by decide
  have hfirst : c.turn StyleRegistry.full.styles true ⟨["T"], "A", .empty⟩ =
      .inr ⟨["A", "T"], "B", .empty⟩ := by decide
  have hsecond : c.turn StyleRegistry.full.styles true ⟨["A", "T"], "B", .empty⟩ =
      .inr ⟨["B", "A", "T"], "A", .empty⟩ := by decide
  have hthird : c.turn StyleRegistry.full.styles true ⟨["B", "A", "T"], "A", .empty⟩ =
      .inl none := by decide
  refine ⟨n, List.get_mem _ _, ?_, rfl⟩
  rw [Asks, hwritten, hclass, hcontext]
  exact .next hfirst (.next hsecond (.ends hthird))

end Classifier

end KotestOutline
