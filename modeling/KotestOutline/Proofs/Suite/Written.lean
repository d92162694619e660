import KotestOutline.Lowering
import KotestOutline.Style

/-!
# Suites

Suites of declarations, as what they declare and as the rows they are written in.
-/

namespace KotestOutline

/-!
## Suites as declared

A suite is an ordered forest of tests and containers. `Declaration.entries` is what a listing should
say about it: one entry for each declaration, in pre-order, with the names around it.
-/

/-- A declared test, or a declared container with what it holds. -/
inductive Declaration where
  | test (name : String)
  | container (name : String) (body : List Declaration)

/-- What a listing says about one declaration, apart from its place in the file. -/
structure ListingEntry where
  kind : TestKind
  name : String
  /-- The names of the containers around it, outermost first. -/
  containers : List String
  path : String
  deriving DecidableEq

/-- The entry of a declaration under its containers. The path is their names and its own, joined. -/
def ListingEntry.declared (kind : TestKind) (name : String) (outer : List String) : ListingEntry :=
  ⟨kind, name, outer, " -- ".intercalate (outer ++ [name])⟩

namespace Declaration

mutual

/-- The entries of a declaration and of those inside it, in pre-order. -/
def entries (outer : List String) : Declaration → List ListingEntry
  | .test name => [.declared .test name outer]
  | .container name body => .declared .container name outer :: entriesAll (outer ++ [name]) body

/-- The entries of a list of declarations, in order. -/
def entriesAll (outer : List String) : List Declaration → List ListingEntry
  | [] => []
  | d :: ds => entries outer d ++ entriesAll outer ds

end

end Declaration

/-- The entry that a recognized test makes. -/
def RecognizedTest.entry (t : RecognizedTest) : ListingEntry :=
  ⟨t.kind, t.name, t.containers, t.path⟩

/-- The path of a test joins its segments. -/
theorem joinPath_eq_intercalate (containers : List String) (leaf : String) :
    joinPath containers leaf = pathSeparator.intercalate (containers ++ [leaf]) := by
  induction containers with
  | nil => simp [joinPath]
  | cons name containers ih =>
    have hrest : containers ++ [leaf] ≠ [] := by simp
    rw [List.cons_append, String.intercalate_cons_of_ne_nil hrest, ← ih]
    simp [joinPath, String.append_assoc]

/-- What is recognized at a node makes the entry of a declaration in its containers. -/
theorem RecognizedTest.entry_ofNode (n : Node) (name : String) (containers : List String)
    (kind : TestKind) : (ofNode n name containers kind).entry = .declared kind name containers := by
  rw [entry, ofNode, joinPath_eq_intercalate]
  rfl

/-!
## Suites as written

How a suite of declarations stands in the concrete tree of a file. The predicates say which rows a
Kotlin grammar makes of each piece, whatever the layout of the source and whatever other rows stand
around it, as long as these hold no call.

* `IsLiteral` is a string literal with a value: runs of plain content and escape sequences.
* `IsCallOf` is a function applied to a literal; a call with a trailing lambda has the call without
  it as its callee.
* `IsTest` is a test in one of its two forms, bare or with a configuration.
* `IsSuite` is a list of declarations among rows without calls, and `IsSpecClass` a class that holds
  one in an initializer or in the lambda of its superclass constructor.
-/

/-! ### Rows -/

namespace Row

/-- Whether a row is a construct of a kind. -/
structure IsConstruct (row : Row) (kind : String) : Prop where
  kind_eq : row.kind = kind
  named : row.named = true
  missing : row.missing = false
  error : row.error = false

/-- Whether a row is a token with a text. -/
structure IsToken (src : Source) (row : Row) (text : String) : Prop where
  text_eq : src.rowText row = text.toList
  named : row.named = false
  missing : row.missing = false
  error : row.error = false
  comment : row.isComment = false

/-- Whether a row is a token of the grammar, whose kind is its text. -/
structure IsMark (src : Source) (row : Row) (text : String) : Prop
    extends row.IsToken src text where
  kind_eq : row.kind = text

/-- Whether a row is an identifier with a text. -/
structure IsIdentifier (src : Source) (row : Row) (text : String) : Prop where
  construct : ∃ kind ∈ KindNames.identifiers, row.IsConstruct kind
  text_eq : src.rowText row = text.toList

/-- Whether a row is a token that opens or closes a string. -/
structure IsQuote (src : Source) (row : Row) : Prop where
  text_eq : (src.rowText row).head? = some '\"'
  named : row.named = false
  missing : row.missing = false

/-- Whether a row is neither a call nor a token that the source lacks. -/
def IsQuiet (row : Row) : Prop := row.kind ≠ "call_expression" ∧ row.missing = false

instance (row : Row) : Decidable row.IsQuiet :=
  inferInstanceAs (Decidable (row.kind ≠ "call_expression" ∧ row.missing = false))

end Row

/-- Whether a tree holds neither a call nor a token that the source lacks. -/
def Cst.IsQuiet (t : Cst) : Prop := ∀ q ∈ t.preorder, q.label.IsQuiet

instance (t : Cst) : Decidable t.IsQuiet :=
  inferInstanceAs (Decidable (∀ q ∈ t.preorder, q.label.IsQuiet))

/-! ### String literals -/

/-- The characters that one letter after a backslash stands for. -/
def shortEscapes : List (Char × Char) :=
  [('t', '\t'), ('b', '\x08'), ('n', '\n'), ('r', '\r'), ('\'', '\''), ('\"', '\"'), ('\\', '\\'),
    ('$', '$')]

/-- Whether an escape sequence stands for a character. -/
inductive IsEscapeOf : List Char → Char → Prop
  | short {letter c : Char} (h : (letter, c) ∈ shortEscapes) : IsEscapeOf ['\\', letter] c
  | numeric {a b c d : Char} {unit : Nat} (hunit : hexUnit? a b c d = some unit)
      (hvalid : unit.isValidChar) : IsEscapeOf ['\\', 'u', a, b, c, d] (.ofNat unit)

/-- Whether no dollar sign of a text starts an interpolation. `after` is the character behind the
text. -/
def IsPlain (after : Option Char) : List Char → Prop
  | [] => True
  | c :: cs => (c = '$' → (cs.head?.or after).any startsTemplate = false) ∧ IsPlain after cs

/-- Whether the source has this plain text from offset `start` to `stop`. -/
def IsRun (src : Source) (start stop : Nat) (text : List Char) : Prop :=
  (stop ≤ start ∧ text = []) ∨
    (start < stop ∧ src.slice start stop = some text ∧
      IsPlain ((src.sliceFrom stop).bind List.head?) text)

/-- Whether the content from offset `start` to `stop`, with some escape rows in it, has a value. -/
inductive IsContent (src : Source) (stop : Nat) : Nat → List Row → List Char → Prop
  | run {start : Nat} {text : List Char} (hrun : IsRun src start stop text) :
      IsContent src stop start [] text
  | escape {start : Nat} {row : Row} {rows : List Row} {text value : List Char} {c : Char}
      (hrun : IsRun src start row.start.toNat text) (hescape : IsEscapeOf (src.rowText row) c)
      (hrest : IsContent src stop row.stop.toNat rows value) :
      IsContent src stop start (row :: rows) (text ++ c :: value)

/-- Whether the rows between the quotes of a literal have a value. -/
inductive IsEntries (src : Source) : List Cst → List Char → Prop
  | nil : IsEntries src [] []
  | escape {row : Row} {ts rest : List Cst} {c : Char} {value : List Char}
      (hnamed : row.named = true) (hmissing : row.missing = false) (hkind : row.isEscape = true)
      (hescape : IsEscapeOf (src.rowText row) c) (hrest : IsEntries src rest value) :
      IsEntries src (.node row ts :: rest) (c :: value)
  | content {row : Row} {ts rest : List Cst} {text value : List Char}
      (hnamed : row.named = true) (hmissing : row.missing = false) (hescape : row.isEscape = false)
      (hkind : row.isContent = true)
      (hcontent : IsContent src row.stop.toNat row.start.toNat
        ((ts.map RoseTree.label).filter fun r => r.named && r.isEscape) text)
      (hrest : IsEntries src rest value) : IsEntries src (.node row ts :: rest) (text ++ value)

/-- Whether a tree is a string literal with a value. -/
inductive IsLiteral (src : Source) (value : String) : Cst → Prop
  | intro {kind : String} {row : Row} {opening closing : Cst} {entries : List Cst}
      (hkind : kind ∈ KindNames.strings) (hrow : row.IsConstruct kind)
      (hopening : opening.label.IsQuote src) (hclosing : closing.label.IsQuote src)
      (hentries : IsEntries src entries value.toList) :
      IsLiteral src value (.node row (opening :: entries ++ [closing]))

/-! ### Calls -/

/-- Whether a tree is the call of a function with one literal in parentheses. -/
inductive IsCallOf (src : Source) (function value : String) : Cst → Prop
  | intro {call callee arguments opening argument closing : Row} {literal : Cst}
      (hcall : call.IsConstruct "call_expression") (hcallee : callee.IsIdentifier src function)
      (harguments : arguments.IsConstruct "value_arguments") (hopening : opening.IsToken src "(")
      (hargument : argument.IsConstruct "value_argument") (hliteral : IsLiteral src value literal)
      (hclosing : closing.IsToken src ")") :
      IsCallOf src function value
        (.node call [.node callee [], .node arguments
          [.node opening [], .node argument [literal], .node closing []]])

/-- Whether a tree is a trailing lambda with these rows, braces included. -/
inductive IsLambda (body : List Cst) : Cst → Prop
  | intro {suffix lambda : Row} (hsuffix : suffix.IsConstruct "annotated_lambda")
      (hlambda : lambda.IsConstruct "lambda_literal") :
      IsLambda body (.node suffix [.node lambda body])

/-- What names a test: in the flat style a literal, else the call of the test function with one. -/
def IsTestHead (src : Source) (style : SpecStyle) (name : String) (t : Cst) : Prop :=
  match style.nested? with
  | none => IsLiteral src name t
  | some rules => IsCallOf src rules.testFn name t

/-- What names a container: the call of the container function with a literal. The flat style has
no containers. -/
def IsContainerHead (src : Source) (style : SpecStyle) (name : String) (t : Cst) : Prop :=
  match style.nested? with
  | none => False
  | some rules => IsCallOf src rules.containerFn name t

/-- Whether a tree is a test: its head with a trailing lambda, or the head, a dot and the call of
`config` with arguments and the lambda. Neither arguments nor body hold a call. -/
inductive IsTest (src : Source) (style : SpecStyle) (name : String) : Cst → Prop
  | bare {call : Row} {head lambda : Cst} {body : List Cst}
      (hcall : call.IsConstruct "call_expression") (hhead : IsTestHead src style name head)
      (hlambda : IsLambda body lambda) (hbody : ∀ t ∈ body, t.IsQuiet) :
      IsTest src style name (.node call [head, lambda])
  | configured {call inner navigation dot config arguments : Row} {head lambda : Cst}
      {body argumentRows : List Cst}
      (hcall : call.IsConstruct "call_expression") (hinner : inner.IsConstruct "call_expression")
      (hnavigation : navigation.IsConstruct "navigation_expression")
      (hhead : IsTestHead src style name head) (hdot : dot.IsToken src ".")
      (hconfig : config.IsIdentifier src "config")
      (harguments : arguments.IsConstruct "value_arguments")
      (hquiet : ∀ t ∈ argumentRows, t.IsQuiet) (hlambda : IsLambda body lambda)
      (hbody : ∀ t ∈ body, t.IsQuiet) :
      IsTest src style name
        (.node call [.node inner [.node navigation [head, .node dot [], .node config []],
          .node arguments argumentRows], lambda])

/-! ### Suites -/

/-- Whether rows are a list of declarations, in order, among rows without calls. -/
inductive IsSuite (src : Source) (style : SpecStyle) : List Declaration → List Cst → Prop
  | nil : IsSuite src style [] []
  | quiet {t : Cst} {ds : List Declaration} {ts : List Cst} (hquiet : t.IsQuiet)
      (hrest : IsSuite src style ds ts) : IsSuite src style ds (t :: ts)
  | test {name : String} {t : Cst} {ds : List Declaration} {ts : List Cst}
      (htest : IsTest src style name t) (hrest : IsSuite src style ds ts) :
      IsSuite src style (.test name :: ds) (t :: ts)
  | container {name : String} {call : Row} {head lambda : Cst} {inside ds : List Declaration}
      {body ts : List Cst} (hcall : call.IsConstruct "call_expression")
      (hhead : IsContainerHead src style name head) (hlambda : IsLambda body lambda)
      (hbody : IsSuite src style inside body) (hrest : IsSuite src style ds ts) :
      IsSuite src style (.container name inside :: ds) (.node call [head, lambda] :: ts)

/-- Whether a tree holds the supertypes of a class. -/
def Cst.isDelegation (t : Cst) : Bool :=
  t.label.kind == "delegation_specifiers" || t.label.kind == "delegation_specifier"

/-- Whether a tree is a class with a suite in the block of an initializer, or in the lambda that its
superclass constructor takes. No other call stands in the class. -/
inductive IsSpecClass (src : Source) (style : SpecStyle) (suite : List Declaration) : Cst → Prop
  | initializer {row body init block : Row}
      {beforeBody afterBody beforeInit afterInit beforeBlock afterBlock statements : List Cst}
      (hrow : row.IsConstruct "class_declaration") (hbody : body.IsConstruct "class_body")
      (hinit : init.IsConstruct "anonymous_initializer") (hblock : block.IsConstruct "block")
      (hquiet : ∀ t ∈ beforeBody ++ afterBody ++ (beforeInit ++ afterInit) ++
        (beforeBlock ++ afterBlock), t.IsQuiet)
      (hsupertypes : (beforeBody ++ afterBody).countP Cst.isDelegation ≤ 1)
      (hsuite : IsSuite src style suite statements) :
      IsSpecClass src style suite
        (.node row (beforeBody ++ .node body (beforeInit ++ .node init (beforeBlock ++
          .node block statements :: afterBlock) :: afterInit) :: afterBody))
  | constructor {row supertypes entry invocation arguments opening argument lambda closing : Row}
      {type : Cst} {before after beforeEntry afterEntry statements : List Cst}
      (hrow : row.IsConstruct "class_declaration")
      (hsupertypes : supertypes.IsConstruct "delegation_specifiers")
      (hentry : entry.IsConstruct "delegation_specifier")
      (hinvocation : invocation.IsConstruct "constructor_invocation")
      (htype : type.label.IsConstruct "user_type")
      (harguments : arguments.IsConstruct "value_arguments") (hopening : opening.IsToken src "(")
      (hargument : argument.IsConstruct "value_argument")
      (hlambda : lambda.IsConstruct "lambda_literal") (hclosing : closing.IsToken src ")")
      (hquiet : ∀ t ∈ before ++ after ++ (beforeEntry ++ afterEntry) ++ [type], t.IsQuiet)
      (honly : ∀ t ∈ before ++ after, t.isDelegation = false)
      (hsuite : IsSuite src style suite statements) :
      IsSpecClass src style suite
        (.node row (before ++ .node supertypes (beforeEntry ++ .node entry
          [.node invocation [type, .node arguments
            [.node opening [], .node argument [.node lambda statements], .node closing []]]] ::
              afterEntry) :: after))

end KotestOutline
