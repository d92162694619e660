import KotestOutline.Proofs.Recognition.Match
import KotestOutline.Proofs.Suite.Literal
import KotestOutline.Syntax

/-!
# The grammar of string literals

A string template has a value exactly if it has both quotes, lacks no token, and holds nothing else
than literal text and escape sequences that can be decoded.

Decoding takes one spelling more than the language has: three digits behind a plus sign count as
four digits with a leading zero.

* `IsEscapeOf` is the escapes of the language, `IsReadEscape` those that are decoded.
* `unescape?_eq_some_iff` and `entriesValue_eq_ok_iff`: one escape, and a list of entries.
* `stringLiteralValue_grammar`: which templates have which value, what all other nodes answer, and
  where the spelling with a sign makes a difference.
-/

namespace KotestOutline

/-! ### Escape sequences -/

/-- The value of a hexadecimal digit is less than sixteen. -/
theorem hexDigit?_lt {c : Char} {n : Nat} (h : hexDigit? c = some n) : n < 16 := by
  have hle : ∀ a b : Char, a ≤ b ↔ a.toNat ≤ b.toNat := fun a b => Iff.rfl
  unfold hexDigit? at h
  split_ifs at h with hdigit hlower hupper
  all_goals rw [Option.some.injEq] at h
  · have hrange := Char.isDigit_iff_toNat.1 hdigit
    simp only [Char.reduceToNat] at h hrange
    omega
  · simp only [Bool.and_eq_true, decide_eq_true_eq, hle, Char.reduceToNat] at h hlower
    omega
  · simp only [Bool.and_eq_true, decide_eq_true_eq, hle, Char.reduceToNat] at h hupper
    omega

/-- Four digits make up a code unit place by place. -/
theorem hexUnit?_eq_some_iff {a b c d : Char} {unit : Nat} :
    hexUnit? a b c d = some unit ↔ ∃ i j k l, hexDigit? a = some i ∧ hexDigit? b = some j ∧
      hexDigit? c = some k ∧ hexDigit? d = some l ∧ ((i * 16 + j) * 16 + k) * 16 + l = unit := by
  simp only [hexUnit?, Option.bind_eq_bind, Option.bind_eq_some_iff, Option.pure_def,
    Option.some.injEq]
  constructor
  · rintro ⟨i, hi, j, hj, k, hk, l, hl, rfl⟩
    exact ⟨i, j, k, l, hi, hj, hk, hl, rfl⟩
  · rintro ⟨i, j, k, l, hi, hj, hk, hl, rfl⟩
    exact ⟨i, hi, j, hj, k, hk, l, hl, rfl⟩

/-- Whether an escape sequence has three digits behind a plus sign, and stands for the character
that they number. -/
inductive IsSignedEscapeOf : List Char → Char → Prop where
  | intro {b c d : Char} {unit : Nat} (hunit : hexUnit? '0' b c d = some unit) :
      IsSignedEscapeOf ['\\', 'u', '+', b, c, d] (.ofNat unit)

/-- Whether an escape sequence is decoded as a character. -/
def IsReadEscape (text : List Char) (c : Char) : Prop :=
  IsEscapeOf text c ∨ IsSignedEscapeOf text c

section Escapes

variable {text : List Char} {c d : Char}

/-- A sign is no digit. -/
theorem IsEscapeOf.not_signed (h : IsEscapeOf text c) : ¬ IsSignedEscapeOf text d := by
  rintro ⟨hunit⟩
  cases h with
  | numeric hunit' =>
    obtain ⟨i, -, -, -, hi, -⟩ := hexUnit?_eq_some_iff.1 hunit'
    cases hi

/-- Three digits number no surrogate. -/
theorem unescape?_of_isSignedEscapeOf (h : IsSignedEscapeOf text c) : unescape? text = some c := by
  obtain @⟨a, b, d, unit, hunit⟩ := h
  have hvalid : unit.isValidChar := by
    obtain ⟨i, j, k, l, hi, hj, hk, hl, rfl⟩ := hexUnit?_eq_some_iff.1 hunit
    obtain rfl : 0 = i := Option.some.inj hi
    have := hexDigit?_lt hj
    have := hexDigit?_lt hk
    have := hexDigit?_lt hl
    left
    omega
  simp [unescape?, numericEscape?, hunit, hvalid]

/-- A code unit that was decoded is a character of that number. -/
theorem eq_ofNat_of_bind {found : Option Nat}
    (h : (found.bind fun n => if n.isValidChar then some (Char.ofNat n) else none) = some c) :
    ∃ unit, found = some unit ∧ unit.isValidChar ∧ c = .ofNat unit := by
  obtain ⟨unit, hunit, hchar⟩ := Option.bind_eq_some_iff.1 h
  split_ifs at hchar with hvalid
  exact ⟨unit, hunit, hvalid, (Option.some.inj hchar).symm⟩

/-- Four characters are read as digits of the language or behind a sign. -/
theorem isReadEscape_of_numericEscape? {digits : List Char} (h : numericEscape? digits = some c) :
    IsReadEscape ('\\' :: 'u' :: digits) c := by
  unfold numericEscape? at h
  split at h
  next a b c' d' =>
    by_cases hsign : a = '+'
    · subst hsign
      obtain ⟨unit, hunit, -, rfl⟩ := eq_ofNat_of_bind h
      exact Or.inr ⟨hunit⟩
    · simp only [hsign, if_false] at h
      obtain ⟨unit, hunit, hvalid, rfl⟩ := eq_ofNat_of_bind h
      exact Or.inl (.numeric hunit hvalid)
  · cases h

/-- What is decoded is the escapes of the language and those with a sign. -/
theorem unescape?_eq_some_iff : unescape? text = some c ↔ IsReadEscape text c := by
  constructor
  · intro h
    unfold unescape? at h
    split at h
    case h_9 digits => exact isReadEscape_of_numericEscape? h
    case h_10 => cases h
    all_goals
      obtain rfl := Option.some.inj h
      exact Or.inl (.short (by simp [shortEscapes]))
  · rintro (h | h)
    · exact unescape?_of_isEscapeOf h
    · exact unescape?_of_isSignedEscapeOf h

end Escapes

/-! ### Entries -/

namespace Node

/-- Whether a node is a quote, literal text or an escape of some kind, and stands for a text. -/
inductive IsEntryOf (escape : List Char → Char → Prop) (n : Node) : List Char → Prop where
  | quote (hkind : n.kind = .openQuote ∨ n.kind = .closingQuote) : IsEntryOf escape n []
  | literal (hkind : n.kind = .literalStringEntry) : IsEntryOf escape n n.text.toList
  | escape {c : Char} (hkind : n.kind = .escapeStringEntry) (hescape : escape n.text.toList c) :
      IsEntryOf escape n [c]

/-- Whether a node is a string literal over some kind of escapes, with a value. -/
structure IsLiteralOf (escape : List Char → Char → Prop) (n : Node) (value : String) : Prop where
  kind_eq : n.kind = .stringTemplate
  opened : ∃ c ∈ n.children, c.kind = .openQuote
  closed : ∃ c ∈ n.children, c.kind = .closingQuote
  complete : ∀ c ∈ n.children, c.kind ≠ .missing
  entries : ∃ texts, List.Forall₂ (IsEntryOf escape) n.children texts ∧
    value = String.ofList texts.flatten

variable {n : Node} {escape escape' : List Char → Char → Prop} {value : String}

/-- A literal is one over all escapes that include those that stand in it. -/
theorem IsLiteralOf.imp (h : n.IsLiteralOf escape value)
    (himp : ∀ c ∈ n.children, c.kind = .escapeStringEntry → ∀ d, escape c.text.toList d →
      escape' c.text.toList d) : n.IsLiteralOf escape' value where
  kind_eq := h.kind_eq
  opened := h.opened
  closed := h.closed
  complete := h.complete
  entries := by
    obtain ⟨texts, hall, hvalue⟩ := h.entries
    refine ⟨texts, ?_, hvalue⟩
    refine ((List.forall₂_and_left _ _).2 ⟨himp, hall⟩).imp fun c text hentry => ?_
    obtain ⟨himp, hentry⟩ := hentry
    cases hentry with
    | quote hkind => exact .quote hkind
    | literal hkind => exact .literal hkind
    | escape hkind hescape => exact .escape hkind (himp hkind _ hescape)

/-- Each escape of a literal stands for a character. -/
theorem IsLiteralOf.exists_of_escape (h : n.IsLiteralOf escape value) {c : Node}
    (hc : c ∈ n.children) (hkind : c.kind = .escapeStringEntry) : ∃ d, escape c.text.toList d := by
  obtain ⟨texts, hall, -⟩ := h.entries
  obtain ⟨text, -, hentry⟩ := exists_mem_of_forall₂ hall hc
  cases hentry with
  | quote hquote => rcases hquote with hquote | hquote <;> simp [hquote] at hkind
  | literal hliteral => simp [hliteral] at hkind
  | escape _ hescape => exact ⟨_, hescape⟩

end Node

section Append

variable {m : MatchResult String} {text value : String} {reason : NoMatch}

/-- A text in front of a value leaves the value. -/
theorem bind_append_eq_ok_iff : (m >>= fun rest => pure (text ++ rest)) = .ok value ↔
    ∃ rest, m = .ok rest ∧ value = text ++ rest := by
  cases m with
  | error e => simp [bind, Except.bind]
  | ok rest => simp [bind, Except.bind, pure, Except.pure, eq_comm]

/-- A text in front of a value leaves the reason why there is none. -/
theorem bind_append_eq_error_iff :
    (m >>= fun rest => pure (text ++ rest)) = .error reason ↔ m = .error reason := by
  cases m with
  | error e => simp [bind, Except.bind]
  | ok rest => simp [bind, Except.bind, pure, Except.pure]

end Append

/-- The first entry stands for a text, and the value of the others follows. -/
theorem entriesValue_cons_eq_ok_iff {n : Node} {ns : List Node} {value : String} :
    entriesValue (n :: ns) = .ok value ↔ ∃ text rest, n.IsEntryOf IsReadEscape text ∧
      entriesValue ns = .ok rest ∧ value = String.ofList text ++ rest := by
  constructor
  · intro h
    rw [entriesValue] at h
    split at h
    next hkind => exact ⟨[], value, .quote (Or.inl hkind), h, by simp⟩
    next hkind => exact ⟨[], value, .quote (Or.inr hkind), h, by simp⟩
    next hkind =>
      obtain ⟨rest, hrest, rfl⟩ := bind_append_eq_ok_iff.1 h
      exact ⟨n.text.toList, rest, .literal hkind, hrest, by rw [String.ofList_toList]⟩
    next hkind =>
      split at h
      · cases h
      next c hread =>
        obtain ⟨rest, hrest, rfl⟩ := bind_append_eq_ok_iff.1 h
        exact ⟨[c], rest, .escape hkind (unescape?_eq_some_iff.1 hread), hrest, rfl⟩
    · cases h
  · rintro ⟨text, rest, hentry, hrest, rfl⟩
    rw [entriesValue]
    cases hentry with
    | quote hkind => rcases hkind with hkind | hkind <;> simp [hkind, hrest]
    | literal hkind =>
      rw [hkind, hrest, String.ofList_toList]
      rfl
    | escape hkind hescape =>
      rw [hkind, unescape?_eq_some_iff.2 hescape, hrest]
      rfl

/-- By induction on the entries: their value is what they stand for, one after the other. -/
theorem entriesValue_eq_ok_iff {ns : List Node} {value : String} :
    entriesValue ns = .ok value ↔ ∃ texts, List.Forall₂ (Node.IsEntryOf IsReadEscape) ns texts ∧
      value = String.ofList texts.flatten := by
  induction ns generalizing value with
  | nil => simp [entriesValue, eq_comm]
  | cons n ns ih =>
    rw [entriesValue_cons_eq_ok_iff]
    constructor
    · rintro ⟨text, rest, hentry, hrest, rfl⟩
      obtain ⟨texts, hall, rfl⟩ := ih.1 hrest
      exact ⟨text :: texts, .cons hentry hall, by rw [List.flatten_cons, String.ofList_append]⟩
    · rintro ⟨texts, hall, rfl⟩
      obtain ⟨text, rest, hentry, hrest, rfl⟩ := List.forall₂_cons_left_iff.1 hall
      exact ⟨text, String.ofList rest.flatten, hentry, ih.2 ⟨rest, hrest, rfl⟩,
        by rw [List.flatten_cons, String.ofList_append]⟩

/-- Entries without a value are no literal of the language. -/
theorem eq_literal_of_entriesValue {ns : List Node} {reason : NoMatch}
    (h : entriesValue ns = .error reason) : reason = .literal := by
  induction ns with
  | nil => cases h
  | cons n ns ih =>
    rw [entriesValue] at h
    split at h
    · exact ih h
    · exact ih h
    · exact ih (bind_append_eq_error_iff.1 h)
    · split at h
      · cases h
        rfl
      · exact ih (bind_append_eq_error_iff.1 h)
    · cases h
      rfl

/-! ### Literals -/

variable {n : Node} {value : String}

/-- A literal is terminated just if it has its quotes and no token is missing. -/
theorem isTerminated_eq_true_iff : isTerminated n = true ↔
    (∃ c ∈ n.children, c.kind = .openQuote) ∧ (∃ c ∈ n.children, c.kind = .closingQuote) ∧
      ∀ c ∈ n.children, c.kind ≠ .missing := by
  simp [isTerminated, Node.firstChild?, Node.hasMissingChild, Node.is, and_assoc]

/-- A literal has a value just if each of its entries is a quote, literal text or an escape that is
decoded. -/
theorem stringLiteralValue_eq_ok_iff_isLiteralOf :
    stringLiteralValue n = .ok value ↔ n.IsLiteralOf IsReadEscape value := by
  rw [stringLiteralValue_eq_ok_iff, isTerminated_eq_true_iff, entriesValue_eq_ok_iff]
  constructor
  · rintro ⟨hkind, ⟨hopened, hclosed, hcomplete⟩, hentries⟩
    exact ⟨hkind, hopened, hclosed, hcomplete, hentries⟩
  · rintro ⟨hkind, hopened, hclosed, hcomplete, hentries⟩
    exact ⟨hkind, ⟨hopened, hclosed, hcomplete⟩, hentries⟩

/-- A node is no literal just if it is no string. -/
theorem stringLiteralValue_eq_shape_iff :
    stringLiteralValue n = .error .shape ↔ n.kind ≠ .stringTemplate := by
  unfold stringLiteralValue
  by_cases hkind : n.kind = .stringTemplate
  · have hvalue : entriesValue n.children ≠ .error .shape := fun h =>
      NoMatch.noConfusion (eq_literal_of_entriesValue h)
    cases hterminated : isTerminated n <;> simp [Node.is, hkind, hvalue]
  · simp [Node.is, hkind]

/-- A template that is no literal says so. -/
theorem stringLiteralValue_eq_literal_iff :
    stringLiteralValue n = .error .literal ↔
      n.kind = .stringTemplate ∧ ∀ value, stringLiteralValue n ≠ .ok value := by
  constructor
  · intro h
    refine ⟨?_, fun value hvalue => by rw [h] at hvalue; cases hvalue⟩
    by_contra hkind
    rw [stringLiteralValue_eq_shape_iff.2 hkind] at h
    cases h
  · rintro ⟨hkind, hnone⟩
    cases hvalue : stringLiteralValue n with
    | ok value => exact absurd hvalue (hnone value)
    | error reason =>
      unfold stringLiteralValue at hvalue
      split_ifs at hvalue with hother
      · simp [Node.is, hkind] at hother
      · exact hvalue.symm
      · rw [eq_literal_of_entriesValue hvalue]

/-- **A string literal has a value exactly if it is one.** A node has a value if and only if it is a
template with both quotes and without missing token, all of whose other children are literal text
and escapes that can be decoded; and that value is what these stand for, in order. A node that is no
template has the wrong shape, and every other template is no literal. The grammar of the language
says the same about a node, unless the node has a value with the help of an escape that has a
sign. -/
theorem stringLiteralValue_grammar (n : Node) :
    (∀ value, stringLiteralValue n = .ok value ↔ n.IsLiteralOf IsReadEscape value) ∧
    (stringLiteralValue n = .error .shape ↔ n.kind ≠ .stringTemplate) ∧
    (stringLiteralValue n = .error .literal ↔
      n.kind = .stringTemplate ∧ ∀ value, ¬ n.IsLiteralOf IsReadEscape value) ∧
    ((∀ value, stringLiteralValue n = .ok value ↔ n.IsLiteralOf IsEscapeOf value) ↔
      ∀ value, stringLiteralValue n = .ok value → ∀ c ∈ n.children, c.kind = .escapeStringEntry →
        ∀ d, ¬ IsSignedEscapeOf c.text.toList d) := by
  refine ⟨fun value => stringLiteralValue_eq_ok_iff_isLiteralOf, stringLiteralValue_eq_shape_iff,
    ?_, ?_, ?_⟩
  · rw [stringLiteralValue_eq_literal_iff]
    simp only [ne_eq, stringLiteralValue_eq_ok_iff_isLiteralOf]
  · intro h value hvalue c hc hkind d hsigned
    obtain ⟨d', hescape⟩ := ((h value).1 hvalue).exists_of_escape hc hkind
    exact hescape.not_signed hsigned
  · intro h value
    constructor
    · intro hvalue
      refine (stringLiteralValue_eq_ok_iff_isLiteralOf.1 hvalue).imp fun c hc hkind d hread => ?_
      exact hread.resolve_right (h value hvalue c hc hkind d)
    · intro hliteral
      exact stringLiteralValue_eq_ok_iff_isLiteralOf.2 (hliteral.imp fun _ _ _ _ => Or.inl)

/-! ### One escape with a sign -/

/-- A literal that holds nothing but an escape with a sign. -/
def signedArena : Arena :=
  .ofRows
    [(0, .stringTemplate, none), (1, .openQuote, some "\""),
      (1, .escapeStringEntry, some "\\u+041"), (1, .closingQuote, some "\"")]

/-- It has a value, though it is no literal of the language. -/
theorem not_forall_stringLiteralValue_iff_isLiteralOf :
    ¬ ∀ n value, stringLiteralValue n = .ok value ↔ n.IsLiteralOf IsEscapeOf value := by
  intro h
  let n := signedArena.toTree.nodes.get ⟨1, by decide⟩
  have hvalue : stringLiteralValue n = .ok "A" := by decide
  have hescape : n.children.get ⟨1, by decide⟩ ∈ n.children := List.get_mem _ _
  obtain ⟨d, hread⟩ := ((h n "A").1 hvalue).exists_of_escape hescape (by decide)
  have hsigned : IsSignedEscapeOf (n.children.get ⟨1, by decide⟩).text.toList 'A' := by
    have htext : (n.children.get ⟨1, by decide⟩).text.toList = ['\\', 'u', '+', '0', '4', '1'] := by
      decide
    have hunit : hexUnit? '0' '0' '4' '1' = some 65 := by decide
    rw [htext]
    exact .intro hunit
  exact hread.not_signed hsigned

end KotestOutline
