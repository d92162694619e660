import KotestOutline.Proofs.Table
import KotestOutline.Recognition
import KotestOutline.Syntax

/-!
# Hooks of a class

Which calls of the first initializer are listed as hooks. The listing goes by the shape of a call: a
reference to the function of a hook and a trailing lambda, in this order and nothing else but
tokens. It does not look into the lambda, other than the matchers of tests.

* `CallbackKind.IsCalledBy` is that shape, `Node.IsTerminated` what a complete lambda is.
* `Callback.Records` is a listing call by call: a record for each call that declares a hook, and
  nothing for any other.
* `Callback.IsListingOf` adds where the calls stand.
* `Callback.ofClass_listing`: the listing is that of the calls of the shape, and it is that of the
  complete ones exactly where no hook has an unterminated lambda.
-/

namespace KotestOutline

/-! ### First children -/

/-- Whether a node is the first child of a kind. -/
def Node.IsFirstChild (kind : NodeKind) (n c : Node) : Prop :=
  c.kind = kind ∧ ∃ before after, n.children = before ++ c :: after ∧ ∀ b ∈ before, b.kind ≠ kind

/-- The search for a child of a kind finds the first one of that kind. -/
theorem Node.firstChild?_eq_some_iff {kind : NodeKind} {n c : Node} :
    n.firstChild? kind = some c ↔ n.IsFirstChild kind c := by
  simp [firstChild?, IsFirstChild, is, List.find?_eq_some_iff_append]

/-- Whether a node is the block whose calls may be hooks: the first of the first initializer of the
first body. -/
def Node.IsHookBlock (n block : Node) : Prop :=
  ∃ body init, n.IsFirstChild .classBody body ∧ body.IsFirstChild .classInitializer init ∧
    init.IsFirstChild .blockExpression block

/-- The block that is found is that of the first initializer of the first body. -/
theorem Callback.initializerBlock?_eq_some_iff {n block : Node} :
    initializerBlock? n = some block ↔ n.IsHookBlock block := by
  simp only [initializerBlock?, bind, Option.bind_eq_some_iff, Node.firstChild?_eq_some_iff]
  constructor
  · rintro ⟨body, hbody, init, hinit, hblock⟩
    exact ⟨body, init, hbody, hinit, hblock⟩
  · rintro ⟨body, init, hbody, hinit, hblock⟩
    exact ⟨body, hbody, init, hinit, hblock⟩

/-! ### Calls of hooks -/

/-- Whether a lambda argument has a lambda, and no token of that lambda is missing. -/
def Node.IsTerminated (lambda : Node) : Prop :=
  ∃ body, lambda.IsFirstChild .lambdaExpression body ∧ ∀ c ∈ body.children, c.kind ≠ .missing

namespace CallbackKind

variable {kind kind' : CallbackKind} {call lambda : Node}

/-- Whether the structural children of a call are a reference to the function of a hook and the
argument `lambda`. -/
def IsWritten (kind : CallbackKind) (call lambda : Node) : Prop :=
  call.kind = .callExpression ∧ lambda.kind = .lambdaArgument ∧
    ∃ callee, callee.kind = .nameReference ∧ callee.text = kind.keyword ∧
      call.elements = [callee, lambda]

/-- Whether a call has the shape of a hook. -/
def IsCalledBy (kind : CallbackKind) (call : Node) : Prop := ∃ lambda, kind.IsWritten call lambda

/-- Whether a call has the shape of a hook and its lambda is terminated. -/
def IsDeclaredBy (kind : CallbackKind) (call : Node) : Prop :=
  ∃ lambda, kind.IsWritten call lambda ∧ lambda.IsTerminated

/-- Two hooks have two functions. -/
theorem keyword_injective : Function.Injective keyword := by
  intro a b h
  cases a <;> cases b <;> first | rfl | exact absurd h (by decide)

/-- A function is that of a hook just if the hook has its name. -/
theorem ofKeyword?_eq_some_iff {text : String} :
    ofKeyword? text = some kind ↔ kind.keyword = text := by
  have hmem : kind ∈ all := by cases kind <;> decide
  rw [ofKeyword?, find?_key_eq_some_iff fun _ _ _ _ hname => keyword_injective hname]
  exact and_iff_right hmem

/-- A call has one second child, so one lambda to be terminated. -/
theorem IsWritten.unique {lambda' : Node} (h : kind.IsWritten call lambda)
    (h' : kind'.IsWritten call lambda') : kind' = kind ∧ lambda' = lambda := by
  obtain ⟨-, -, callee, -, htext, helements⟩ := h
  obtain ⟨-, -, callee', -, htext', helements'⟩ := h'
  rw [helements] at helements'
  cases helements'
  exact ⟨keyword_injective (htext'.symm.trans htext), rfl⟩

/-- A declared hook has the shape of one. -/
theorem IsDeclaredBy.isCalledBy (h : kind.IsDeclaredBy call) : kind.IsCalledBy call := by
  obtain ⟨lambda, hwritten, -⟩ := h
  exact ⟨lambda, hwritten⟩

end CallbackKind

/-- A call counts as a block just if it consists of a name and a trailing lambda. -/
theorem isBlockCall_eq_true_iff {call : Node} :
    isBlockCall call = true ↔ call.kind = .callExpression ∧ ∃ callee lambda,
      call.elements = [callee, lambda] ∧ callee.kind = .nameReference ∧
        lambda.kind = .lambdaArgument := by
  unfold isBlockCall
  rw [Bool.and_eq_true, Node.is, beq_iff_eq]
  refine and_congr_right fun _ => ?_
  split
  next callee lambda helements =>
    rw [helements]
    simp [Node.is]
  next hother =>
    constructor
    · intro h
      cases h
    · rintro ⟨callee, lambda, helements, -⟩
      exact absurd helements (hother callee lambda)

namespace Callback

variable {call : Node}

/-- A call declares what its shape says, with its own number and span. -/
theorem ofCall?_eq_some_iff {hook : Callback} :
    ofCall? call = some hook ↔
      ∃ kind : CallbackKind, kind.IsCalledBy call ∧ hook = ⟨kind, call.id, call.span⟩ := by
  unfold ofCall?
  constructor
  · intro h
    split_ifs at h with hblock
    obtain ⟨hcall, callee, lambda, helements, hcallee, hlambda⟩ := isBlockCall_eq_true_iff.1 hblock
    have hname : calleeName? call = some callee.text := by
      simp [calleeName?, Node.firstElement?, Node.is, hcall, helements, hcallee]
    rw [hname, Option.bind_some, Option.map_eq_some_iff] at h
    obtain ⟨kind, hkind, rfl⟩ := h
    have hkeyword := CallbackKind.ofKeyword?_eq_some_iff.1 hkind
    exact ⟨kind, ⟨lambda, hcall, hlambda, callee, hcallee, hkeyword.symm, helements⟩, rfl⟩
  · rintro ⟨kind, ⟨lambda, hcall, hlambda, callee, hcallee, htext, helements⟩, rfl⟩
    have hblock : isBlockCall call = true :=
      isBlockCall_eq_true_iff.2 ⟨hcall, callee, lambda, helements, hcallee, hlambda⟩
    have hname : calleeName? call = some kind.keyword := by
      simp [calleeName?, Node.firstElement?, Node.is, hcall, helements, hcallee, htext]
    rw [if_pos hblock, hname, Option.bind_some, CallbackKind.ofKeyword?_eq_some_iff.2 rfl]
    rfl

/-! ### Listings -/

/-- Whether some records are those of the calls that declare a hook, one for each, in the order of
the calls. -/
inductive Records (declares : CallbackKind → Node → Prop) : List Node → List Callback → Prop
  | nil : Records declares [] []
  | skip {call calls hooks} (h : ∀ kind, ¬ declares kind call)
      (rest : Records declares calls hooks) : Records declares (call :: calls) hooks
  | hook {kind call calls hooks} (h : declares kind call) (rest : Records declares calls hooks) :
      Records declares (call :: calls) (⟨kind, call.id, call.span⟩ :: hooks)

namespace Records

variable {declares declares' : CallbackKind → Node → Prop} {calls : List Node}
  {hooks hooks' : List Callback}

/-- A call by call search for records lists them. -/
theorem filterMap {f : Node → Option Callback} (calls : List Node)
    (h : ∀ call hook, f call = some hook ↔
      ∃ kind, declares kind call ∧ hook = ⟨kind, call.id, call.span⟩) :
    Records declares calls (calls.filterMap f) := by
  induction calls with
  | nil => exact .nil
  | cons call calls ih =>
    cases hcall : f call with
    | none =>
      rw [List.filterMap_cons_none hcall]
      refine .skip (fun kind hkind => ?_) ih
      rw [(h call _).2 ⟨kind, hkind, rfl⟩] at hcall
      cases hcall
    | some hook =>
      obtain ⟨kind, hkind, rfl⟩ := (h call hook).1 hcall
      rw [List.filterMap_cons_some hcall]
      exact .hook hkind ih

/-- Fewer calls that declare a hook leave fewer records. -/
theorem length_le (hsub : ∀ kind call, declares kind call → declares' kind call)
    (h : Records declares calls hooks) (h' : Records declares' calls hooks') :
    hooks.length ≤ hooks'.length := by
  induction h generalizing hooks' with
  | nil => exact Nat.zero_le _
  | skip _ _ ih =>
    cases h' with
    | skip _ rest' => exact ih rest'
    | hook _ rest' => exact Nat.le_succ_of_le (ih rest')
  | hook hkind _ ih =>
    cases h' with
    | skip hnone _ => exact absurd (hsub _ _ hkind) (hnone _)
    | hook _ rest' => exact Nat.succ_le_succ (ih rest')

/-- Two ways to declare a hook, one part of the other, list the same records of some calls only if
they agree about all of them. By induction on the calls: a call that is passed over one way and not
the other leaves too few records for the rest. -/
theorem declares_of_mem (hsub : ∀ kind call, declares kind call → declares' kind call)
    (h : Records declares calls hooks) (h' : Records declares' calls hooks) :
    ∀ call ∈ calls, ∀ kind, declares' kind call → ∃ kind', declares kind' call := by
  induction h with
  | nil => simp
  | @skip first calls hooks hnone rest ih =>
    cases h' with
    | skip hnone' rest' =>
      intro call hcall kind hkind
      rcases List.mem_cons.1 hcall with rfl | hcall
      · exact absurd hkind (hnone' kind)
      · exact ih rest' call hcall kind hkind
    | hook _ rest' =>
      have hlength := length_le hsub rest rest'
      rw [List.length_cons] at hlength
      omega
  | @hook found first calls hooks hfound rest ih =>
    intro call hcall kind hkind
    rcases List.mem_cons.1 hcall with rfl | hcall
    · exact ⟨found, hfound⟩
    · cases h' with
      | skip hnone' _ => exact absurd (hsub _ _ hfound) (hnone' _)
      | hook _ rest' => exact ih rest' call hcall kind hkind

/-- Ways to declare a hook that agree about some calls list the same records of them. -/
theorem congr (h : Records declares calls hooks)
    (hsame : ∀ call ∈ calls, ∀ kind, declares kind call ↔ declares' kind call) :
    Records declares' calls hooks := by
  induction h with
  | nil => exact .nil
  | @skip first calls hooks hnone rest ih =>
    have hrest := ih fun call hcall => hsame call (List.mem_cons_of_mem _ hcall)
    exact .skip (fun kind hkind => hnone kind ((hsame _ List.mem_cons_self kind).2 hkind)) hrest
  | @hook kind first calls hooks hkind rest ih =>
    have hrest := ih fun call hcall => hsame call (List.mem_cons_of_mem _ hcall)
    exact .hook ((hsame _ List.mem_cons_self kind).1 hkind) hrest

end Records

/-- Whether some records list the hooks of a class: those of the calls directly in its hook block,
and none without such a block. -/
def IsListingOf (declares : CallbackKind → Node → Prop) (n : Node) (hooks : List Callback) : Prop :=
  (∀ block, n.IsHookBlock block →
    Records declares (block.children.filter (·.kind = .callExpression)) hooks) ∧
  ((¬ ∃ block, n.IsHookBlock block) → hooks = [])

/-- The listing goes by the shape of the calls. -/
theorem isListingOf_ofClass (n : Node) : IsListingOf CallbackKind.IsCalledBy n (ofClass n) := by
  constructor
  · intro block hblock
    rw [ofClass, initializerBlock?_eq_some_iff.2 hblock]
    exact Records.filterMap _ fun call hook => ofCall?_eq_some_iff
  · intro hnone
    cases hblock : initializerBlock? n with
    | none => rw [ofClass, hblock]
    | some block => exact absurd ⟨block, initializerBlock?_eq_some_iff.1 hblock⟩ hnone

/-- **Hooks are listed by the shape of their calls.** The listing of a class has one record for each
call directly in the first block of its first initializer whose structural children are a reference
to the function of a hook and a lambda argument, in the order of the calls and with their numbers
and spans; and no other record. It lists the complete calls alone exactly where the lambda of each
such call is terminated. -/
theorem ofClass_listing (n : Node) :
    IsListingOf CallbackKind.IsCalledBy n (ofClass n) ∧
    (IsListingOf CallbackKind.IsDeclaredBy n (ofClass n) ↔
      ∀ block, n.IsHookBlock block → ∀ call ∈ block.children,
        ∀ (kind : CallbackKind) lambda, kind.IsWritten call lambda → lambda.IsTerminated) := by
  have hshape := isListingOf_ofClass n
  refine ⟨hshape, ?complete, ?terminated⟩
  case complete =>
    intro hlisting block hblock call hcall kind lambda hwritten
    have hmem : call ∈ block.children.filter (·.kind = .callExpression) :=
      List.mem_filter.2 ⟨hcall, by simpa using hwritten.1⟩
    have hsub : ∀ (kind : CallbackKind) call, kind.IsDeclaredBy call → kind.IsCalledBy call :=
      fun _ _ => CallbackKind.IsDeclaredBy.isCalledBy
    obtain ⟨kind', lambda', hwritten', hterminated⟩ :=
      (hlisting.1 block hblock).declares_of_mem hsub (hshape.1 block hblock) call hmem kind
        ⟨lambda, hwritten⟩
    rw [← (hwritten.unique hwritten').2]
    exact hterminated
  case terminated =>
    intro hterminated
    refine ⟨fun block hblock => ?_, hshape.2⟩
    refine (hshape.1 block hblock).congr fun call hcall kind => ⟨?_, fun h => h.isCalledBy⟩
    rintro ⟨lambda, hwritten⟩
    have hchild := (List.mem_filter.1 hcall).1
    exact ⟨lambda, hwritten, hterminated block hblock call hchild kind lambda hwritten⟩

/-- A class with a hook whose lambda lacks its closing brace. -/
def unterminatedArena : Arena :=
  .ofRows
    [(0, .classDeclaration, none), (1, .identifier, some "S"), (1, .classBody, none),
      (3, .classInitializer, none), (4, .blockExpression, none), (5, .callExpression, none),
      (6, .nameReference, none), (7, .identifier, some "beforeTest"), (6, .lambdaArgument, none),
      (9, .lambdaExpression, none), (10, .punctuation, some "\x7b"), (10, .missing, some "")]

/-- An unterminated hook is listed, so the listing is not that of the complete calls. -/
theorem not_forall_isListingOf_complete :
    ¬ ∀ n : Node, IsListingOf CallbackKind.IsDeclaredBy n (ofClass n) := by
  intro h
  let nodes := unterminatedArena.toTree.nodes
  let n : Node := nodes.get ⟨1, by decide⟩
  let block : Node := nodes.get ⟨5, by decide⟩
  have hblock : n.IsHookBlock block := initializerBlock?_eq_some_iff.1 (by rfl)
  have hhooks : ofClass n = [⟨.beforeTest, 6, .origin⟩] := by decide
  have hcalls : block.children.filter (·.kind = .callExpression) =
      [nodes.get ⟨6, by decide⟩] := by rfl
  have hrecords := (h n).1 block hblock
  rw [hhooks, hcalls] at hrecords
  cases hrecords with
  | skip _ rest => cases rest
  | hook hdeclared _ =>
    obtain ⟨lambda, ⟨-, -, callee, -, -, helements⟩, body, hbody, hterminated⟩ := hdeclared
    obtain rfl : lambda = nodes.get ⟨9, by decide⟩ := by
      have hlast := congrArg List.getLast? helements
      exact (Option.some.inj hlast).symm
    have hfound := Node.firstChild?_eq_some_iff.2 hbody
    obtain rfl : nodes.get ⟨10, by decide⟩ = body := Option.some.inj hfound
    exact hterminated (nodes.get ⟨12, by decide⟩) (by exact List.mem_of_getLast? rfl) rfl

end Callback

end KotestOutline
