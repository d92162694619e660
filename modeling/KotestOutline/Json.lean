import KotestOutline.Text

/-!
# JSON

JSON values, their texts, and the records and tables that are read from them.
-/

namespace KotestOutline

/-!
## Tables

Tables of texts under texts, such as an environment: lists of entries in which no key is repeated.

* `Table.ofEntries` keeps, of entries under one key, the last one.
* `Table.sorted` puts the entries into ascending order of their keys.
-/

/-- A list of entries, each a key and a value. -/
abbrev Table := List (String × String)

namespace Table

/-- Adds an entry, in place of the one under the same key. -/
def put (table : Table) (key value : String) : Table :=
  table.filter (·.1 != key) ++ [(key, value)]

/-- The table of some entries, the last one of each key. -/
def ofEntries (entries : List (String × String)) : Table :=
  entries.foldl (fun table (key, value) => put table key value) []

/-- The entries in ascending order of their keys. -/
def sorted (table : Table) : Table := table.mergeSort fun a b => a.1 ≤ b.1

end Table

/-!
## JSON values

JSON documents as data. Objects keep the order and the repetitions of their fields, and numbers
keep whether they are written as integers, because readers of configuration care about both.

JSON text may hold a string whose escapes name half of a surrogate pair. Such a string is legal but
is no text; it is represented as `none`, in values and in field names alike.
-/

/-- A JSON value. -/
inductive Json where
  | null
  | bool (b : Bool)
  | integer (n : Int)
  /-- A number with a fraction, an exponent, or a negative zero, as written. -/
  | decimal (text : String)
  | string (text : Option String)
  | array (items : List Json)
  | object (fields : List (Option String × Json))
  deriving Inhabited

namespace Json

/-- The string holding a text. -/
def str (s : String) : Json := .string (some s)

/-- The integer of a natural number. -/
def nat (n : Nat) : Json := .integer n

/-- The object with these fields. -/
def record (fields : List (String × Json)) : Json :=
  .object (fields.map fun (name, value) => (some name, value))

/-- The array of the images of a list. -/
def arrayOf {α : Type} (f : α → Json) (xs : List α) : Json := .array (xs.map f)

/-- The image of a value, `null` for none. -/
def nullable {α : Type} (f : α → Json) : Option α → Json
  | none => .null
  | some x => f x

/-- The field of an object with a name, the last one if it is repeated. -/
def field? (name : String) : Json → Option Json
  | .object fields => (fields.reverse.find? (·.1 == some name)).map (·.2)
  | _ => none

mutual
/-- The value with the fields of every object in ascending order of their names. -/
def sortFields : Json → Json
  | .array items => .array (sortItems items)
  | .object fields =>
    .object ((sortMembers fields).mergeSort fun a b => a.1.getD "" ≤ b.1.getD "")
  | v => v

/-- The items of an array, each with its fields sorted. -/
def sortItems : List Json → List Json
  | [] => []
  | v :: vs => sortFields v :: sortItems vs

/-- The members of an object, each value with its fields sorted. -/
def sortMembers : List (Option String × Json) → List (Option String × Json)
  | [] => []
  | (name, v) :: members => (name, sortFields v) :: sortMembers members
end

end Json

/-!
## Reading records from JSON

A record is read from an object by the names of its fields or from an array by their order.

* Unknown members of an object are passed over; a repeated known member is an error.
* An array may end early where the fields left have a default, and must not be longer.
* An optional field may be `null`, or missing from an object; a field with a default may be missing
  but not `null`.
-/

namespace Json

/-- How a reader finds a field of a record. -/
inductive Field where
  | value (v : Json)
  /-- The object has no such member. -/
  | absent
  /-- The array ends before the field. -/
  | beyond

namespace Field

/-- A field that must be there. -/
def required {α : Type} (read : Json → Option α) : Field → Option α
  | value v => read v
  | absent | beyond => none

/-- A field that may be `null` or missing from an object. -/
def optional {α : Type} (read : Json → Option α) : Field → Option (Option α)
  | value .null => some none
  | value v => (read v).map some
  | absent => some none
  | beyond => none

/-- A field that may be missing, and then has a default. -/
def defaulted {α : Type} (default : α) (read : Json → Option α) : Field → Option α
  | value v => read v
  | absent | beyond => some default

end Field

/-- A field among the members of an object, unless it is repeated. -/
def member? (members : List (Option String × Json)) (name : String) : Option Field :=
  match members.filter (·.1 == some name) with
  | [] => some .absent
  | [(_, v)] => some (.value v)
  | _ => none

/-- The fields of an array, aligned with the names of a record. -/
def aligned : List String → List Json → List Field
  | [], _ => []
  | _ :: names, [] => .beyond :: aligned names []
  | _ :: names, v :: vs => .value v :: aligned names vs

/-- The fields of a record with these names, in their order. -/
def fields? (names : List String) : Json → Option (List Field)
  | .array items => if items.length ≤ names.length then some (aligned names items) else none
  | .object members =>
    if members.any (·.1.isNone) then none else names.mapM (member? members)
  | _ => none

/-! ### Simple values -/

def toBool? : Json → Option Bool
  | .bool b => some b
  | _ => none

def toText? : Json → Option String
  | .string s => s
  | _ => none

/-- An unsigned 32-bit number. -/
def toUInt32? : Json → Option UInt32
  | .integer n => if 0 ≤ n && n < UInt32.size then some (.ofNat n.toNat) else none
  | _ => none

/-- A list of values that `read` accepts. -/
def toList? {α : Type} (read : Json → Option α) : Json → Option (List α)
  | .array items => items.mapM read
  | _ => none

/-- The value among `all` with a written name, which may also be the only member of an object, with
the value `null`. -/
def toNamed? {α : Type} (all : List α) (name : α → String) : Json → Option α
  | .string (some s) => all.find? (name · == s)
  | .object [(some s, .null)] => all.find? (name · == s)
  | _ => none

/-- An entry of a table. -/
def toEntry? : Option String × Json → Option (String × String)
  | (some key, .string (some value)) => some (key, value)
  | _ => none

/-- A table of texts. Of entries under one key the last one counts. -/
def toTable? : Json → Option Table
  | .object members => (members.mapM toEntry?).map Table.ofEntries
  | _ => none

end Json

/-!
## Printing JSON

`Json.compact` writes a value on one line without spaces, `Json.pretty` with one item a line and
two blanks for each level. Both escape quotes, backslashes and the control characters below the
blank, those without a letter of their own by four lowercase hexadecimal digits.
-/

namespace Json

/-- The written form of a character inside a string. -/
def escapeChar (c : Char) : List Char :=
  if c = '\"' then ['\\', '\"']
  else if c = '\\' then ['\\', '\\']
  else if c = '\x08' then ['\\', 'b']
  else if c = '\x0c' then ['\\', 'f']
  else if c = '\n' then ['\\', 'n']
  else if c = '\r' then ['\\', 'r']
  else if c = '\t' then ['\\', 't']
  else if c.toNat < 0x20 then
    ['\\', 'u', '0', '0', Nat.digitChar (c.toNat / 16), Nat.digitChar (c.toNat % 16)]
  else [c]

/-- The written form of a string. One that is no text is written as half of a surrogate pair. -/
def quoted : Option String → String
  | some s => String.ofList ('\"' :: s.toList.flatMap escapeChar ++ ['\"'])
  | none => "\"\\ud800\""

mutual
/-- The form on one line. -/
def compact : Json → String
  | .null => "null"
  | .bool b => if b then "true" else "false"
  | .integer n => toString n
  | .decimal text => text
  | .string s => quoted s
  | .array items => "[" ++ ",".intercalate (compactItems items) ++ "]"
  | .object fields => "\x7b" ++ ",".intercalate (compactMembers fields) ++ "\x7d"

/-- The written items of an array. -/
def compactItems : List Json → List String
  | [] => []
  | v :: vs => compact v :: compactItems vs

/-- The written members of an object. -/
def compactMembers : List (Option String × Json) → List String
  | [] => []
  | (name, v) :: members => (quoted name ++ ":" ++ compact v) :: compactMembers members
end

/-- Lines of items between brackets, one level deeper than the brackets. -/
def bracketed (opening closing : String) (indent : Nat) (items : List String) : String :=
  if items.isEmpty then opening ++ closing
  else
    let newline (level : Nat) : String := "\n" ++ String.ofList (List.replicate (2 * level) ' ')
    opening ++ newline (indent + 1) ++ ("," ++ newline (indent + 1)).intercalate items ++
      newline indent ++ closing

mutual
/-- The form with one item a line, at a level of indentation. -/
def prettyAt (indent : Nat) : Json → String
  | .null => "null"
  | .bool b => if b then "true" else "false"
  | .integer n => toString n
  | .decimal text => text
  | .string s => quoted s
  | .array items => bracketed "[" "]" indent (prettyItems (indent + 1) items)
  | .object fields => bracketed "\x7b" "\x7d" indent (prettyMembers (indent + 1) fields)

/-- The written items of an array. -/
def prettyItems (indent : Nat) : List Json → List String
  | [] => []
  | v :: vs => prettyAt indent v :: prettyItems indent vs

/-- The written members of an object. -/
def prettyMembers (indent : Nat) : List (Option String × Json) → List String
  | [] => []
  | (name, v) :: members =>
    (quoted name ++ ": " ++ prettyAt indent v) :: prettyMembers indent members
end

/-- The form with one item a line. -/
def pretty (v : Json) : String := prettyAt 0 v

end Json

/-!
## Reading JSON

`Json.read?` accepts exactly the JSON texts: no comments, no trailing commas, nothing behind the
value but blanks. Every reader takes the characters in front and returns what is left; the readers
that nest carry a bound on their depth, for which the length of the text is always enough.
-/

namespace Json

/-- Whether a character may stand between the tokens of a JSON text. -/
def isSpace (c : Char) : Bool := c == ' ' || c == '\t' || c == '\n' || c == '\r'

/-- The text without its leading spaces. -/
def skipSpaces (cs : List Char) : List Char := cs.dropWhile isSpace

/-! ### Strings -/

/-- A character of a string, or a code unit written as four hexadecimal digits. -/
inductive StringPart where
  | char (c : Char)
  | unit (n : Nat)

/-- The character that a one-letter escape stands for. -/
def escaped? : Char → Option Char
  | '\"' => some '\"'
  | '\\' => some '\\'
  | '/' => some '/'
  | 'b' => some '\x08'
  | 'f' => some '\x0c'
  | 'n' => some '\n'
  | 'r' => some '\r'
  | 't' => some '\t'
  | _ => none

/-- The parts of a string up to its closing quote. -/
def readParts : List Char → Option (List StringPart × List Char)
  | [] => none
  | '\"' :: rest => some ([], rest)
  | '\\' :: 'u' :: a :: b :: c :: d :: rest => do
    let n ← hexUnit? a b c d
    let (parts, rest) ← readParts rest
    return (.unit n :: parts, rest)
  | '\\' :: e :: rest => do
    let c ← escaped? e
    let (parts, rest) ← readParts rest
    return (.char c :: parts, rest)
  | c :: rest => do
    if c.toNat < 0x20 || c == '\\' then none
    let (parts, rest) ← readParts rest
    return (.char c :: parts, rest)

/-- The text of the parts, if every code unit is a character or half of a surrogate pair. -/
def joinParts : List StringPart → Option (List Char)
  | [] => some []
  | .char c :: parts => (joinParts parts).map (c :: ·)
  | .unit n :: .unit m :: parts =>
    if 0xD800 ≤ n && n < 0xDC00 then
      if 0xDC00 ≤ m && m < 0xE000 then
        (joinParts parts).map (Char.ofNat (0x10000 + (n - 0xD800) * 0x400 + (m - 0xDC00)) :: ·)
      else none
    else if 0xDC00 ≤ n && n < 0xE000 then none
    else (joinParts (.unit m :: parts)).map (Char.ofNat n :: ·)
  | .unit n :: parts =>
    if 0xD800 ≤ n && n < 0xE000 then none else (joinParts parts).map (Char.ofNat n :: ·)

/-- A string behind its opening quote. -/
def readString (cs : List Char) : Option (Option String × List Char) := do
  let (parts, rest) ← readParts cs
  return ((joinParts parts).map String.ofList, rest)

/-! ### Numbers -/

/-- The value of decimal digits. -/
def digitsValue (ds : List Char) : Nat :=
  ds.foldl (fun n d => n * 10 + (d.toNat - '0'.toNat)) 0

/-- The digits in front, at least one. -/
def readDigits (cs : List Char) : Option (List Char × List Char) :=
  let ds := cs.takeWhile Char.isDigit
  if ds.isEmpty then none else some (ds, cs.dropWhile Char.isDigit)

/-- The fraction of a number, empty if there is none. -/
def readFraction : List Char → Option (List Char × List Char)
  | '.' :: rest => (readDigits rest).map fun (ds, rest) => ('.' :: ds, rest)
  | cs => some ([], cs)

/-- The exponent of a number, empty if there is none. -/
def readExponent : List Char → Option (List Char × List Char)
  | e :: rest =>
    if e == 'e' || e == 'E' then
      let sign := (rest.take 1).filter fun c => c == '+' || c == '-'
      (readDigits (rest.drop sign.length)).map fun (ds, rest) => (e :: sign ++ ds, rest)
    else some ([], e :: rest)
  | [] => some ([], [])

/-- A number: an integer part without leading zeros, a fraction and an exponent. -/
def readNumber (cs : List Char) : Option (Json × List Char) := do
  let negative := cs.head? == some '-'
  let (ds, rest) ← readDigits (if negative then cs.drop 1 else cs)
  if ds.length > 1 && ds.head? == some '0' then none
  let (fraction, rest) ← readFraction rest
  let (exponent, rest) ← readExponent rest
  let sign := if negative then ['-'] else []
  let n := digitsValue ds
  if fraction.isEmpty && exponent.isEmpty && !(negative && n == 0) then
    return (.integer (if negative then -(n : Int) else n), rest)
  else return (.decimal (String.ofList (sign ++ ds ++ fraction ++ exponent)), rest)

/-! ### Values -/

/-- The text behind a word, if it begins with it. -/
def readWord (word : String) (cs : List Char) : Option (List Char) :=
  if word.toList.isPrefixOf cs then some (cs.drop word.length) else none

mutual
/-- A value, after any spaces. -/
def readValue : Nat → List Char → Option (Json × List Char)
  | 0, _ => none
  | depth + 1, cs =>
    match skipSpaces cs with
    | [] => none
    | '\"' :: rest => (readString rest).map fun (s, rest) => (.string s, rest)
    | '[' :: rest =>
      match skipSpaces rest with
      | ']' :: rest => some (.array [], rest)
      | rest => (readItems depth rest).map fun (items, rest) => (.array items, rest)
    | '\x7b' :: rest =>
      match skipSpaces rest with
      | '\x7d' :: rest => some (.object [], rest)
      | rest => (readMembers depth rest).map fun (fields, rest) => (.object fields, rest)
    | 'n' :: rest => (readWord "ull" rest).map (.null, ·)
    | 't' :: rest => (readWord "rue" rest).map (.bool true, ·)
    | 'f' :: rest => (readWord "alse" rest).map (.bool false, ·)
    | cs => readNumber cs

/-- The items of an array up to its closing bracket. -/
def readItems : Nat → List Char → Option (List Json × List Char)
  | 0, _ => none
  | depth + 1, cs => do
    let (item, rest) ← readValue depth cs
    match skipSpaces rest with
    | ']' :: rest => return ([item], rest)
    | ',' :: rest =>
      let (items, rest) ← readItems depth rest
      return (item :: items, rest)
    | _ => none

/-- The members of an object up to its closing brace. -/
def readMembers : Nat → List Char → Option (List (Option String × Json) × List Char)
  | 0, _ => none
  | depth + 1, cs => do
    let '\"' :: rest := skipSpaces cs | none
    let (name, rest) ← readString rest
    let ':' :: rest := skipSpaces rest | none
    let (value, rest) ← readValue depth rest
    match skipSpaces rest with
    | '\x7d' :: rest => return ([(name, value)], rest)
    | ',' :: rest =>
      let (fields, rest) ← readMembers depth rest
      return ((name, value) :: fields, rest)
    | _ => none
end

/-- The value of a JSON text. -/
def read? (text : String) : Option Json := do
  let cs := text.toList
  let (value, rest) ← readValue (cs.length + 1) cs
  if (skipSpaces rest).isEmpty then some value else none

end Json

end KotestOutline
