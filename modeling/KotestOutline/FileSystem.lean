import KotestOutline.Concrete
import KotestOutline.Text

/-!
# Paths and files

What can go wrong with a project, paths as texts, and the file system they lead through.
-/

namespace KotestOutline

/-!
## Errors

What can go wrong when a project is scanned, and the texts that say so.
-/

/-- Why a file could not be read or written. -/
inductive FileError where
  | notFound
  | notADirectory
  | isADirectory
  /-- A name on the way or the whole path is too long. -/
  | nameTooLong
  | invalidText
  /-- The path holds a zero character. -/
  | invalidPath
  deriving DecidableEq, Inhabited

/-- The text of a file error. -/
def FileError.message : FileError → String
  | notFound => "No such file or directory (os error 2)"
  | notADirectory => "Not a directory (os error 20)"
  | isADirectory => "Is a directory (os error 21)"
  | nameTooLong => "File name too long (os error 36)"
  | invalidText => "stream did not contain valid UTF-8"
  | invalidPath => "file name contained an unexpected NUL byte"

/-- An error of the scanner. -/
inductive ScanError where
  | file (cause : FileError)
  /-- The text of a configuration file is no configuration. -/
  | invalidConfig
  | unknownStyle (name : String)
  | noTestFound
  deriving DecidableEq, Inhabited

/-- The text of a scanner error. -/
def ScanError.message : ScanError → String
  | file cause => "IO error: " ++ cause.message
  | invalidConfig => "Configuration error: Failed to parse config:"
  | unknownStyle name => "Unknown spec style: " ++ name
  | noTestFound => "No test found at the specified location"

/-- The text of a scanner error and of the errors behind it, outermost first. -/
def ScanError.chain (e : ScanError) : List String :=
  match e with
  | file cause => [e.message, cause.message]
  | _ => [e.message]

/-!
## Paths

Paths are texts of names between slashes. They are kept as they are written: joining and going to a
parent change the end of the text only, and `.` and `..` are not resolved here. Empty segments and
segments `.` are no components, except a `.` at the beginning of a relative path.
-/

namespace Path

/-- Whether a path starts at the root. -/
def isAbsolute (path : String) : Bool := path.toList.head? == some '/'

/-- A path read from another one: appended to it, or in its place if it is absolute. -/
def join (base path : String) : String :=
  if isAbsolute path || base.isEmpty then path
  else if base.toList.getLast? == some '/' then base ++ path
  else base ++ "/" ++ path

/-! ### Parents -/

/-- Whether a segment is no component; `before` are the segments in front of it. -/
def isVoid (absolute : Bool) (segment : List Char) (before : List (List Char)) : Bool :=
  segment.isEmpty || (segment == ['.'] && (absolute || !before.isEmpty))

/-- Reversed segments without the trailing ones that are no components. -/
def dropVoid (absolute : Bool) : List (List Char) → List (List Char)
  | [] => []
  | s :: before => if isVoid absolute s before then dropVoid absolute before else s :: before

/-- The reversed segments of every parent, nearest first, given those of a path. -/
def upward (absolute : Bool) : List (List Char) → List (List (List Char))
  | [] => []
  | s :: before =>
    if isVoid absolute s before then upward absolute before
    else dropVoid absolute before :: upward absolute before

/-- The text of reversed segments. -/
def render (absolute : Bool) (reversed : List (List Char)) : String :=
  (if absolute then "/" else "") ++ String.ofList (List.intercalate ['/'] reversed.reverse)

/-- The parents of a path, nearest first, up to the root or the empty path. -/
def parents (path : String) : List String :=
  let absolute := isAbsolute path
  let body := if absolute then path.toList.drop 1 else path.toList
  (upward absolute (segments '/' body).reverse).map (render absolute)

/-- The directory that holds a path. -/
def parent? (path : String) : Option String := (parents path).head?

/-- A path and its parents. -/
def ancestors (path : String) : List String := path :: parents path

/-! ### Names -/

/-- The extension of a file name: what follows its last dot, if something precedes that dot. -/
def extension? (name : String) : Option String :=
  match splitAtLast? '.' name.toList with
  | some (stem, extension) => if stem.isEmpty then none else some (.ofList extension)
  | none => none

end Path

/-!
## File systems

A file system as a value: the directories and files by the names on the way to them, and the
directory that relative paths start from. Looking a path up follows its segments one by one
(`step`), so every name but the last has to be a directory. Names and paths are limited in length,
and both limits count bytes.

A file knows its text, unless its bytes are no text, and a Kotlin file its concrete tree.
-/

/-- The content of a file. -/
structure FileContent where
  /-- The text, none if the bytes are no text. -/
  text : Option String
  /-- The concrete tree of a Kotlin file. -/
  cst : Option Cst

/-- What a name stands for. -/
inductive Entry where
  | directory
  | file (content : FileContent)

/-- Directories and files, and the working directory. -/
structure FileSystem where
  /-- Every entry but the root, by the names from the root on. -/
  entries : List (List String × Entry)
  /-- The names of the working directory. -/
  workingDir : List String

namespace FileSystem

/-! ### Limits -/

/-- The number of bytes that a name may have. -/
def maxNameBytes : Nat := 255

/-- The number of bytes that a path may have. -/
def maxPathBytes : Nat := 4095

/-- Whether a name is longer than names may be. -/
def isLongName (name : String) : Bool := maxNameBytes < name.utf8ByteSize

/-- Whether a path is longer than paths may be. -/
def isLongPath (path : String) : Bool := maxPathBytes < path.utf8ByteSize

/-! ### Looking up -/

/-- The entry at a place. The root is a directory. -/
def entry? (fs : FileSystem) (place : List String) : Option Entry :=
  if place.isEmpty then some .directory else (fs.entries.find? (·.1 == place)).map (·.2)

/-- Whether a segment stays where it is. -/
def isHere (segment : String) : Bool := segment == "" || segment == "."

/-- Whether a segment goes to the directory above. -/
def isAbove (segment : String) : Bool := segment == ".."

/-- The place that a segment leads to from a directory. -/
def step (fs : FileSystem) (place : List String) (segment : String) :
    Except FileError (List String) :=
  match fs.entry? place with
  | none => .error .notFound
  | some (.file _) => .error .notADirectory
  | some .directory =>
    if isHere segment then .ok place
    else if isAbove segment then .ok place.dropLast
    else if isLongName segment then .error .nameTooLong
    else if (fs.entry? (place ++ [segment])).isSome then .ok (place ++ [segment])
    else .error .notFound

/-- The place that further segments lead to from a place. -/
def walk (fs : FileSystem) (place : List String) (further : List String) :
    Except FileError (List String) :=
  further.foldlM fs.step place

/-- The place that a path starts from. -/
def origin (fs : FileSystem) (path : String) : List String :=
  if Path.isAbsolute path then [] else fs.workingDir

/-- The segments of a path. No path is empty or holds a zero character. -/
def segmentsOf (path : String) : Except FileError (List String) :=
  if path.isEmpty then .error .notFound
  else if path.toList.contains '\x00' then .error .invalidPath
  else .ok ((segments '/' path.toList).map String.ofList)

/-- The segments of a path that is not too long. -/
def shortSegmentsOf (path : String) : Except FileError (List String) := do
  let all ← segmentsOf path
  if isLongPath path then .error .nameTooLong else .ok all

/-- The place of a path. -/
def place (fs : FileSystem) (path : String) : Except FileError (List String) := do
  fs.walk (fs.origin path) (← shortSegmentsOf path)

/-- Whether there is something at a path. -/
def pathExists (fs : FileSystem) (path : String) : Bool := (fs.place path).toOption.isSome

/-- Whether there is a directory at a path. -/
def isDirectory (fs : FileSystem) (path : String) : Bool :=
  match (fs.place path).toOption.bind fs.entry? with
  | some .directory => true
  | _ => false

/-! ### Canonical paths -/

/-- The path from the root to a place. -/
def placePath (place : List String) : String := "/" ++ "/".intercalate place

/-- A step to a place whose own path is not too long. -/
def canonicalStep (fs : FileSystem) (place : List String) (segment : String) :
    Except FileError (List String) :=
  if !isHere segment && !isAbove segment && isLongPath (placePath (place ++ [segment])) then
    .error .nameTooLong
  else fs.step place segment

/-- The path from the root to what a path leads to. The way there is resolved step by step, so it
is the paths of the places on it that are limited, and not the path as it is written. -/
def canonical (fs : FileSystem) (path : String) : Except FileError String := do
  return placePath (← (← segmentsOf path).foldlM fs.canonicalStep (fs.origin path))

/-! ### Files -/

/-- The content of the file at a path. -/
def content (fs : FileSystem) (path : String) : Except FileError FileContent := do
  let place ← fs.place path
  match fs.entry? place with
  | some (.file content) => .ok content
  | _ => .error .isADirectory

/-- The text of the file at a path. -/
def readText (fs : FileSystem) (path : String) : Except FileError String := do
  match (← fs.content path).text with
  | some text => .ok text
  | none => .error .invalidText

/-- The file system with an entry at a place, in front of any other there. -/
def put (fs : FileSystem) (place : List String) (e : Entry) : FileSystem :=
  { fs with entries := (place, e) :: fs.entries.filter (·.1 != place) }

/-- The file system with a directory at a place and at every place on the way to it. -/
def putDirectory (fs : FileSystem) (place : List String) : FileSystem :=
  (List.range place.length).foldl (fun fs n =>
    let onTheWay := place.take (n + 1)
    if (fs.entry? onTheWay).isSome then fs else fs.put onTheWay .directory) fs

/-- The place at which a file would be written: a name, new or of a file, in an existing directory.
A path that ends in a slash or in a segment of dots is one of a directory, whatever is there. -/
def placeToWrite (fs : FileSystem) (path : String) : Except FileError (List String) := do
  let all ← shortSegmentsOf path
  let named := (all.reverse.dropWhile (·.isEmpty)).reverse
  let directory ← fs.walk (fs.origin path) named.dropLast
  let name := named.getLastD ""
  -- Only in a directory is there a way to stay.
  let _ ← fs.step directory ""
  if isHere name || isAbove name || named.length < all.length then .error .isADirectory
  else if isLongName name then .error .nameTooLong
  else match fs.entry? (directory ++ [name]) with
    | some .directory => .error .isADirectory
    | _ => .ok (directory ++ [name])

/-- Writes a text to the file at a path. -/
def writeText (fs : FileSystem) (path text : String) : Except FileError FileSystem :=
  (fs.placeToWrite path).map fun place => fs.put place (.file ⟨some text, none⟩)

/-- The files below the directory at a path, each with the names from there, or the file itself. -/
def filesBelow (fs : FileSystem) (path : String) : List (List String) :=
  match fs.place path with
  | .error _ => []
  | .ok top =>
    fs.entries.filterMap fun (place, e) =>
      match e with
      | .file _ => if top.isPrefixOf place then some (place.drop top.length) else none
      | .directory => none

end FileSystem

end KotestOutline
