import KotestOutline.Syntax
import KotestOutline.Text

/-!
# Call patterns

The shapes of calls in which tests, containers and hooks are written, the literals that name them,
and the tokens they are found from.
-/

namespace KotestOutline

/-!
## Reasons for not matching

Every matcher says why it rejects a node. Of two reasons for one node, `NoMatch.mostSpecific` keeps
the one that knows more: a node of the wrong shape may still be of another shape.
-/

/-- Why a node was not recognized. -/
inductive NoMatch where
  /-- The node does not have the expected call structure. -/
  | shape
  /-- The structure matches but the name is not a plain string literal. -/
  | literal
  /-- The node matches but does not sit in a spec of the expected style. -/
  | notInSpec
  deriving DecidableEq

namespace NoMatch

/-- The more informative of two reasons for the same node; the first one in doubt. -/
def mostSpecific : NoMatch → NoMatch → NoMatch
  | shape, other => other
  | this, _ => this

end NoMatch

/-- What a matcher answers. -/
abbrev MatchResult (α : Type) := Except NoMatch α

/-!
## String literals

The value of a plain Kotlin string literal, and the literal that has a given value.

* `stringLiteralValue` reads a terminated string template of literal text and escape sequences;
  interpolations have no value.
* `escapeLiteral` writes a text so that it can stand between the quotes.
-/

/-! ### Escape sequences -/

/-- The character written by the digits of a numeric escape. A plus sign in front of three digits
is read over. -/
def numericEscape? : List Char → Option Char
  | [a, b, c, d] => do
    let n ← if a = '+' then hexUnit? '0' b c d else hexUnit? a b c d
    if n.isValidChar then some (.ofNat n) else none
  | _ => none

/-- The character that an escape sequence stands for. -/
def unescape? : List Char → Option Char
  | ['\\', 't'] => some '\t'
  | ['\\', 'b'] => some '\x08'
  | ['\\', 'n'] => some '\n'
  | ['\\', 'r'] => some '\r'
  | ['\\', '\''] => some '\''
  | ['\\', '\"'] => some '\"'
  | ['\\', '\\'] => some '\\'
  | ['\\', '$'] => some '$'
  | '\\' :: 'u' :: digits => numericEscape? digits
  | _ => none

/-- The written form of a character between quotes. -/
def escapeLiteralChar (c : Char) : List Char :=
  if c = '\\' then ['\\', '\\']
  else if c = '\"' then ['\\', '\"']
  else if c = '$' then ['\\', '$']
  else if c = '\n' then ['\\', 'n']
  else if c = '\r' then ['\\', 'r']
  else if c = '\t' then ['\\', 't']
  else [c]

/-- The written form of a text between the quotes of a string literal. -/
def escapeLiteral (text : String) : String :=
  String.ofList (text.toList.flatMap escapeLiteralChar)

/-! ### Templates -/

/-- The value of the entries of a terminated string template. -/
def entriesValue : List Node → MatchResult String
  | [] => .ok ""
  | entry :: entries =>
    match entry.kind with
    | .openQuote | .closingQuote => entriesValue entries
    | .literalStringEntry => do return entry.text ++ (← entriesValue entries)
    | .escapeStringEntry =>
      match unescape? entry.text.toList with
      | none => .error .literal
      | some c => do return c.toString ++ (← entriesValue entries)
    | _ => .error .literal

/-- Whether a string template has both quotes and lacks no token. -/
def isTerminated (template : Node) : Bool :=
  (template.firstChild? .openQuote).isSome && (template.firstChild? .closingQuote).isSome &&
    !template.hasMissingChild

/-- The value of a plain string literal. -/
def stringLiteralValue (n : Node) : MatchResult String :=
  if !n.is .stringTemplate then .error .shape
  else if !isTerminated n then .error .literal
  else entriesValue n.children

/-!
## Call shapes

The four shapes in which tests and containers are written, and the calls that take only a block.

* `namedCall`: a function with one string and a trailing lambda.
* `configuredCall`: the same function without lambda, configured by a dotted call that has it.
* `stringCall`: a string with a trailing lambda.
* `configuredString`: a string, configured by a dotted call with a trailing lambda.

A matcher answers the value of the string. It rejects for the shape before it looks at the literal.
-/

/-! ### Pieces of a call -/

/-- Whether a node is the bare name `name`. -/
def isName (n : Node) (name : String) : Bool :=
  n.is .nameReference && n.text == name

/-- Whether a node is a complete trailing lambda. -/
def isTrailingLambda (n : Node) : Bool :=
  n.is .lambdaArgument &&
    (n.firstChild? .lambdaExpression).any fun body => !body.hasMissingChild

/-- The value of the only argument of a complete argument list. -/
def singleStringArgument (arguments : Node) : MatchResult String :=
  if arguments.hasMissingChild then .error .shape
  else
    match arguments.elements with
    | [argument] =>
      match argument.elements with
      | [expression] =>
        if expression.is .stringTemplate then stringLiteralValue expression else .error .literal
      | _ => .error .literal
    | _ => .error .literal

/-- Receiver and selector of a dotted expression. -/
def dotParts (n : Node) : MatchResult (Node × Node) :=
  if !n.is .dotQualifiedExpression then .error .shape
  else
    match n.elements with
    | [receiver, selector] => .ok (receiver, selector)
    | _ => .error .shape

/-- Whether a selector configures a test: a call of `config` with a trailing lambda, with or without
a complete argument list. -/
def isConfigCall (n : Node) (config : String) : Bool :=
  n.is .callExpression &&
    match n.elements with
    | [callee, lambda] => isName callee config && isTrailingLambda lambda
    | [callee, arguments, lambda] =>
      isName callee config && arguments.is .valueArgumentList && !arguments.hasMissingChild &&
        isTrailingLambda lambda
    | _ => false

/-! ### The four shapes -/

/-- A call of `function` with one string and a trailing lambda. -/
def namedCall (function : String) (n : Node) : MatchResult String :=
  if !n.is .callExpression then .error .shape
  else
    match n.elements with
    | [callee, arguments, lambda] =>
      if isName callee function && arguments.is .valueArgumentList && isTrailingLambda lambda then
        singleStringArgument arguments
      else .error .shape
    | _ => .error .shape

/-- A call of `function` with one string and no lambda. -/
def plainCall (function : String) (n : Node) : MatchResult String :=
  if !n.is .callExpression then .error .shape
  else
    match n.elements with
    | [callee, arguments] =>
      if isName callee function && arguments.is .valueArgumentList then
        singleStringArgument arguments
      else .error .shape
    | _ => .error .shape

/-- A call of `function` with one string, configured by a dotted call of `config`. -/
def configuredCall (function config : String) (n : Node) : MatchResult String := do
  let (receiver, selector) ← dotParts n
  if isConfigCall selector config then plainCall function receiver else .error .shape

/-- A string with a trailing lambda. -/
def stringCall (n : Node) : MatchResult String :=
  if !n.is .callExpression then .error .shape
  else
    match n.elements with
    | [receiver, lambda] =>
      if receiver.is .stringTemplate && isTrailingLambda lambda then stringLiteralValue receiver
      else .error .shape
    | _ => .error .shape

/-- A string, configured by a dotted call of `config`. -/
def configuredString (config : String) (n : Node) : MatchResult String := do
  let (receiver, selector) ← dotParts n
  if receiver.is .stringTemplate && isConfigCall selector config then stringLiteralValue receiver
  else .error .shape

/-! ### Block calls -/

/-- Whether a node is a call made of a bare name and a lambda. -/
def isBlockCall (n : Node) : Bool :=
  n.is .callExpression &&
    match n.elements with
    | [callee, lambda] => callee.is .nameReference && lambda.is .lambdaArgument
    | _ => false

/-- The name of the function a call invokes, if its callee is a bare name. -/
def calleeName? (n : Node) : Option String :=
  if n.is .callExpression then
    (n.firstElement?.filter (·.is .nameReference)).map Node.text
  else none

/-!
## From a token to its expression

The expression a single token may start, found by fixed steps upward. Each mapping looks at the
kind of the token first, so that most tokens are rejected at once.
-/

/-- The call that has `n` as its first element. -/
def callOfCallee? (n : Node) : Option Node :=
  n.parent?.filter fun call =>
    call.is .callExpression && call.firstElement?.map Node.id == some n.id

/-- The call whose callee is the string that a quote opens. -/
def callOfQuote? (token : Node) : Option Node :=
  if token.is .openQuote then token.parent?.bind callOfCallee? else none

/-- The call whose callee is the reference that an identifier names. -/
def callOfIdentifier? (token : Node) : Option Node :=
  if token.is .identifier then
    (token.parent?.filter (·.is .nameReference)).bind callOfCallee?
  else none

/-- The dotted expression that a dot separates. -/
def expressionOfDot? (token : Node) : Option Node :=
  if token.is .dot then token.parent?.filter (·.is .dotQualifiedExpression) else none

end KotestOutline
