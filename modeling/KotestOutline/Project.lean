import KotestOutline.Analysis
import KotestOutline.FileSystem
import KotestOutline.Gradle
import KotestOutline.Json
import KotestOutline.Lowering
import KotestOutline.Style

/-!
# Projects

The configuration of a project and its files, and the scanner at work on them.
-/

namespace KotestOutline

/-!
## Configurations

What a project may set: symbol resolution and its source roots, the enabled styles, and how Gradle
is called. Everything has a default, so a project without a configuration has the default one.
-/

/-- The configuration of a project. -/
structure Config where
  /-- Whether superclasses are resolved before short names are compared. -/
  resolveSymbols : Bool
  /-- The directories whose classes are indexed, relative to the configuration file. -/
  sourceRoots : List String
  /-- The enabled styles; every style if unset. -/
  styles : Option (List String)
  gradle : GradleSettings
  /-- The directory the configuration was loaded from; it is no part of the data. -/
  root : Option String
  deriving DecidableEq, Inhabited

namespace Config

/-- The configuration of a project that sets nothing. -/
def default : Config := ⟨true, [], none, .unset, none⟩

/-- The styles that the configuration enables. -/
def registry (c : Config) : Except ScanError StyleRegistry :=
  match c.styles with
  | some names => StyleRegistry.withStyles names
  | none => .ok StyleRegistry.full

/-! ### Data -/

/-- The names of the fields in data. -/
def fieldNames : List String := ["resolve_symbols", "source_roots", "styles", "gradle"]

/-- The configuration in data. Source roots are left out where there are none, and styles where they
are unset. -/
def toJson (c : Config) : Json :=
  .record <|
    [("resolve_symbols", .bool c.resolveSymbols)] ++
      (if c.sourceRoots.isEmpty then []
        else [("source_roots", .arrayOf .str c.sourceRoots)]) ++
      (c.styles.map (("styles", Json.arrayOf Json.str ·))).toList ++
      [("gradle", c.gradle.toJson)]

/-- The configuration that data holds. -/
def ofJson? (v : Json) : Option Config := do
  let [resolveSymbols, sourceRoots, styles, gradle] ← v.fields? fieldNames | none
  return ⟨← resolveSymbols.defaulted true Json.toBool?,
    ← sourceRoots.defaulted [] (Json.toList? Json.toText?),
    ← styles.optional (Json.toList? Json.toText?),
    ← gradle.defaulted .unset GradleSettings.ofJson?, none⟩

end Config

/-!
## Configuration files

Where a configuration is found, how it is loaded and how it is saved.
-/

namespace Config

/-- The names of a configuration file; a new one gets the first. -/
def fileNames : List String := [".kospec.json", "kospec.json"]

/-- The configuration that the text of a file holds. -/
def ofText (text : String) : Except ScanError Config :=
  match (Json.read? text).bind Config.ofJson? with
  | some c => .ok c
  | none => .error .invalidConfig

/-- The text of a configuration file. -/
def toText (c : Config) : String := c.toJson.pretty

/-- Loads the configuration file at a path; its directory is the root. -/
def load (fs : FileSystem) (path : String) : Except ScanError Config :=
  match fs.readText path with
  | .error e => .error (.file e)
  | .ok text => (ofText text).map fun c => { c with root := Path.parent? path }

/-- Saves a configuration at a path. -/
def save (c : Config) (fs : FileSystem) (path : String) : Except ScanError FileSystem :=
  (fs.writeText path c.toText).mapError .file

/-- The configuration file nearest to a path: in the directory itself or above it. -/
def findFile? (fs : FileSystem) (start : String) : Option String :=
  (Path.ancestors start).findSome? fun directory =>
    (fileNames.map (Path.join directory)).find? fs.pathExists

/-- The nearest configuration above a path, or the default one. -/
def discover (fs : FileSystem) (start : String) : Except ScanError Config :=
  match findFile? fs start with
  | some path => load fs path
  | none => .ok .default

/-- The source roots, relative ones read from the root of the configuration. -/
def resolvedSourceRoots (c : Config) : List String :=
  match c.root with
  | some base => c.sourceRoots.map (Path.join base)
  | none => c.sourceRoots

end Config

/-!
## Scanners

A scanner joins a configuration with an index of the project. The specs of a file are found with a
resolver that also sees the declarations of the file itself, in front of those of the index.
-/

/-- A configuration, its styles, and the index of the project if there is one. -/
structure Scanner where
  config : Config
  registry : StyleRegistry
  index : Option ProjectIndex

namespace Scanner

/-- The scanner of a configuration, without an index. -/
def ofConfig (config : Config) : Except ScanError Scanner := do
  return ⟨config, ← config.registry, none⟩

/-- The scanner with an index. -/
def withIndex (s : Scanner) (i : ProjectIndex) : Scanner := { s with index := some i }

/-- The classifier that resolves through the index alone. -/
def classifier (s : Scanner) : Classifier :=
  ⟨s.registry, if s.config.resolveSymbols then s.index.map .index else none⟩

/-- The classifier for one file, which also sees its declarations. -/
def fileClassifier (s : Scanner) (t : SyntaxTree) : Classifier :=
  ⟨s.registry,
    if s.config.resolveSymbols then some (.overlay (.ofTree s.index t)) else none⟩

/-- The specs of a file. -/
def listSpecifications (s : Scanner) (t : SyntaxTree) : List (Node × Classification) :=
  KotestOutline.listSpecifications (s.fileClassifier t) (.ofTree t)

/-- The tests of a style that a class of a file declares. -/
def listTests (s : Scanner) (t : SyntaxTree) (n : Node) (style : SpecStyle) :
    List RecognizedTest :=
  KotestOutline.listTests style (s.fileClassifier t).isSpecificationOf n

/-- The analysis of a file. -/
def analyze (s : Scanner) (t : SyntaxTree) : FileAnalysis :=
  .ofTree (s.fileClassifier t) t

end Scanner

/-!
## Projects on disk

The scanner at work on files: which sources a source root holds, the index of a project, the
analysis of one file, and the command that runs what stands at a line of it.
-/

/-! ### Sources -/

/-- Directories that hold build output or belong to tools. -/
def skippedNames : List String := ["build", ".gradle", ".idea", "out"]

/-- Whether a file name is one of a Kotlin source. -/
def isKotlinName (name : String) : Bool :=
  Path.extension? name == some "kt" || Path.extension? name == some "kts"

namespace FileSystem

/-- The Kotlin sources below a path, or the path itself if it is one. Directories are opened by
their paths below `top`, so one whose path is too long is passed over. -/
def kotlinFiles (fs : FileSystem) (top : String) : List String :=
  (fs.filesBelow top).filterMap fun names =>
    match names.getLast? with
    | some name =>
      let directory := names.dropLast.foldl Path.join top
      if isKotlinName name && !names.any skippedNames.contains && !isLongPath directory then
        some (Path.join directory name)
      else none
    | none =>
      if (((fs.place top).toOption.bind List.getLast?).any isKotlinName) then some top else none

/-- The syntax tree of the source at a path. A file without a concrete tree has no declarations. -/
def syntaxTree (fs : FileSystem) (path : String) : Except ScanError SyntaxTree := do
  let text ← (fs.readText path).mapError .file
  let content ← (fs.content path).mapError .file
  return Cst.lower (.ofString text)
    (content.cst.getD (.node ⟨"source_file", true, false, false, 0, .ofNat text.utf8ByteSize⟩ []))

end FileSystem

namespace ProjectIndex

/-- Adds the declarations of the source at a path; the number counts them. -/
def addFile (i : ProjectIndex) (fs : FileSystem) (path : String) :
    Except ScanError (ProjectIndex × Nat) := do
  let t ← fs.syntaxTree path
  return i.addTreeCounted t

/-- Adds the declarations of every source below some roots. Sources that cannot be read are passed
over. -/
def addRoots (i : ProjectIndex) (fs : FileSystem) (roots : List String) : ProjectIndex :=
  (roots.flatMap fs.kotlinFiles).foldl (fun i path =>
    match i.addFile fs path with
    | .ok (next, _) => next
    | .error _ => i) i

end ProjectIndex

/-! ### Scanning -/

namespace Scanner

/-- The analysis of the file at a path. -/
def analyzeFile (s : Scanner) (fs : FileSystem) (path : String) : Except ScanError FileAnalysis :=
  (fs.syntaxTree path).map fun t => { s.analyze t with file := some path }

/-- The command that runs what stands at a line of the file at a path. -/
def buildCommand (s : Scanner) (fs : FileSystem) (path : String) (line : UInt32) :
    Except ScanError GradleCommand := do
  let analysis ← s.analyzeFile fs path
  match analysis.targetAtLine? line with
  | none => .error .noTestFound
  | some target =>
    let command := GradleCommand.forTarget target s.config.gradle
    return (fs.gradleRoot? path).elim command command.inDir

/-- The scanner of a configuration with its source roots indexed, if it resolves symbols and has
any. -/
def ofProject (fs : FileSystem) (config : Config) : Except ScanError Scanner := do
  let s ← Scanner.ofConfig config
  let roots := config.resolvedSourceRoots
  if config.resolveSymbols && !roots.isEmpty then
    return s.withIndex (ProjectIndex.empty.addRoots fs roots)
  else return s

end Scanner

end KotestOutline
