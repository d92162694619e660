import KotestOutline.Text.CharProperty

/-!
# Texts

What every reader and writer of texts shares: positions and spans, hexadecimal digits, cutting a
text in two, dotted names, and sources that are addressed by their bytes.
-/

namespace KotestOutline

/-!
## Positions and spans

Places in a text file, as zero-based line and byte column, and ranges of them. Both counts are
32-bit words, the width they have wherever they are written down.
-/

/-- A place in a text: line and byte column, both counted from 0. -/
structure Position where
  line : UInt32
  character : UInt32
  deriving DecidableEq, Inhabited

namespace Position

/-- The start of a text. -/
def origin : Position := ⟨0, 0⟩

/-- Reading order: by line, then by column. -/
def le (p q : Position) : Prop :=
  p.line < q.line ∨ (p.line = q.line ∧ p.character ≤ q.character)

instance : LE Position := ⟨le⟩

instance (p q : Position) : Decidable (p ≤ q) :=
  inferInstanceAs (Decidable (p.line < q.line ∨ (p.line = q.line ∧ p.character ≤ q.character)))

end Position

/-- A range of a text, from `start` up to but without `stop`. -/
structure Span where
  start : Position
  stop : Position
  deriving DecidableEq, Inhabited

namespace Span

/-- The empty span at the start of a text. -/
def origin : Span := ⟨.origin, .origin⟩

/-- Whether the span touches a line; its last line counts as touched. -/
def containsLine (s : Span) (line : UInt32) : Bool :=
  s.start.line ≤ line && line ≤ s.stop.line

/-- How many lines the span goes on after its first one; 0 when it ends before it starts. -/
def lineCount (s : Span) : Nat :=
  s.stop.line.toNat - s.start.line.toNat

end Span

/-!
## Hexadecimal digits

The code unit that four hexadecimal digits write, in either case of the letters.
-/

/-- The value of a hexadecimal digit. -/
def hexDigit? (c : Char) : Option Nat :=
  if c.isDigit then some (c.toNat - '0'.toNat)
  else if 'a' ≤ c && c ≤ 'f' then some (c.toNat - 'a'.toNat + 10)
  else if 'A' ≤ c && c ≤ 'F' then some (c.toNat - 'A'.toNat + 10)
  else none

/-- The value of four hexadecimal digits. -/
def hexUnit? (a b c d : Char) : Option Nat := do
  return (((← hexDigit? a) * 16 + (← hexDigit? b)) * 16 + (← hexDigit? c)) * 16 + (← hexDigit? d)

/-!
## Affixes

Cutting a text at its beginning, at its end and at a separator: what reading a header line, a
dotted name or a path needs.
-/

/-! ### Beginnings -/

/-- What follows the text `front`, if the second text begins with it. -/
def dropFront? : List Char → List Char → Option (List Char)
  | [], cs => some cs
  | _ :: _, [] => none
  | f :: front, c :: cs => if f = c then dropFront? front cs else none

/-- What follows a first part is the rest of a text that begins with it. -/
theorem dropFront?_eq_some_iff {front cs rest : List Char} :
    dropFront? front cs = some rest ↔ cs = front ++ rest := by
  induction front generalizing cs with
  | nil => simp [dropFront?]
  | cons f front ih =>
    cases cs with
    | nil => simp [dropFront?]
    | cons c cs =>
      by_cases h : f = c
      · simp [dropFront?, h, ih]
      · simp [dropFront?, h, Ne.symm h]

/-- The text without up to `n` leading repetitions of `front`. -/
def dropFrontTimes (front : List Char) : Nat → List Char → List Char
  | 0, cs => cs
  | n + 1, cs =>
    match dropFront? front cs with
    | some rest => dropFrontTimes front n rest
    | none => cs

/-- The text without its leading repetitions of `front`, of which it cannot hold more than it has
characters. -/
def dropAllFront (front cs : List Char) : List Char :=
  dropFrontTimes front cs.length cs

/-! ### Ends -/

/-- The text without its trailing characters of a class. -/
def dropEndWhile (p : Char → Bool) (cs : List Char) : List Char :=
  (cs.reverse.dropWhile p).reverse

/-- What precedes the text `back`, if the second text ends with it. -/
def dropBack? (back cs : List Char) : Option (List Char) :=
  (dropFront? back.reverse cs.reverse).map List.reverse

/-! ### Infixes -/

/-- Whether the second text contains the first. -/
def hasInfix (part : List Char) : List Char → Bool
  | [] => part.isEmpty
  | c :: cs => part.isPrefixOf (c :: cs) || hasInfix part cs

/-- The text before the first occurrence of `separator`, the whole text if there is none. -/
def beforeFirst (separator : List Char) : List Char → List Char
  | [] => []
  | c :: cs => if separator.isPrefixOf (c :: cs) then [] else c :: beforeFirst separator cs

/-! ### Segments -/

/-- The text after the last occurrence of the character `c`, the whole text if there is none. -/
def lastSegment (c : Char) : List Char → List Char
  | [] => []
  | d :: cs => if cs.contains c then lastSegment c cs else if d = c then cs else d :: cs

/-- The text around the first occurrence of the character `c`. -/
def splitAtFirst? (c : Char) : List Char → Option (List Char × List Char)
  | [] => none
  | d :: cs =>
    if d = c then some ([], cs) else (splitAtFirst? c cs).map fun (head, rest) => (d :: head, rest)

/-- The text around the last occurrence of the character `c`. -/
def splitAtLast? (c : Char) : List Char → Option (List Char × List Char)
  | [] => none
  | d :: cs =>
    match splitAtLast? c cs with
    | some (head, rest) => some (d :: head, rest)
    | none => if d = c then some ([], cs) else none

/-- The texts between the occurrences of the character `c`. -/
def segments (c : Char) : List Char → List (List Char)
  | [] => [[]]
  | d :: cs =>
    match segments c cs with
    | [] => [[d]]
    | s :: rest => if d = c then [] :: s :: rest else (d :: s) :: rest

/-! ### Blanks -/

/-- The text without its leading blanks. -/
def dropBlanks (cs : List Char) : List Char :=
  cs.dropWhile isBlank

/-- The text without any blank. -/
def withoutBlanks (cs : List Char) : List Char :=
  cs.filter (!isBlank ·)

/-!
## Qualified names

Dotted names of Kotlin classes and packages, as strings.
-/

namespace QualifiedName

/-- The last segment of a dotted name. -/
def short (name : String) : String :=
  String.ofList (lastSegment '.' name.toList)

/-- Whether a name has more than one segment. -/
def isDotted (name : String) : Bool := name.toList.contains '.'

/-- The first segment of a dotted name, and the rest. -/
def headAndRest? (name : String) : Option (String × String) :=
  (splitAtFirst? '.' name.toList).map fun (head, rest) => (.ofList head, .ofList rest)

/-- A name inside another one. -/
def inside (outer name : String) : String := outer ++ "." ++ name

/-- Whether the first character of a name is a lowercase letter, as it is for packages. -/
def startsLowercase (name : String) : Bool :=
  name.toList.head?.any isLowercase

end QualifiedName

/-!
## Source text

A source is a list of characters that other data addresses by offsets into its UTF-8 form.

* `Source.slice` is the text between two offsets; there is none when an offset lies inside a
  character or past the end.
* `Source.position` is the line and byte column of an offset.
-/

/-! ### Byte offsets in a list of characters -/

/-- What follows the first `n` bytes, if they end between two characters. -/
def dropBytes : Nat → List Char → Option (List Char)
  | 0, cs => some cs
  | _ + 1, [] => none
  | n + 1, c :: cs => if c.utf8Size ≤ n + 1 then dropBytes (n + 1 - c.utf8Size) cs else none

/-- The characters of the first `n` bytes, if they end between two characters. -/
def takeBytes : Nat → List Char → Option (List Char)
  | 0, _ => some []
  | _ + 1, [] => none
  | n + 1, c :: cs =>
    if c.utf8Size ≤ n + 1 then (takeBytes (n + 1 - c.utf8Size) cs).map (c :: ·) else none

/-! ### Sources -/

/-- The text of one file. -/
structure Source where
  chars : List Char

namespace Source

/-- The source holding a string. -/
def ofString (text : String) : Source := ⟨text.toList⟩

/-- The text from offset `start` to offset `stop`, if both lie between characters in this order. -/
def slice (src : Source) (start stop : Nat) : Option (List Char) :=
  if start ≤ stop then (dropBytes start src.chars).bind (takeBytes (stop - start)) else none

/-- The text from offset `start` to the end. -/
def sliceFrom (src : Source) (start : Nat) : Option (List Char) :=
  dropBytes start src.chars

/-- Line and column reached from `line` and `column` after `offset` more bytes. -/
def advance : List Char → Nat → Nat → Nat → Nat × Nat
  | [], _, line, column => (line, column)
  | c :: cs, offset, line, column =>
    if offset < c.utf8Size then (line, column + offset)
    else if c = '\n' then advance cs (offset - c.utf8Size) (line + 1) 0
    else advance cs (offset - c.utf8Size) line (column + c.utf8Size)

/-- The position of an offset: the line feeds before it, and the bytes since the last of them. -/
def position (src : Source) (offset : Nat) : Position :=
  let (line, column) := advance src.chars offset 0 0
  ⟨.ofNat line, .ofNat column⟩

end Source

end KotestOutline
