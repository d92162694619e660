import KotestOutline.Analysis
import KotestOutline.CommandLine.Arguments
import KotestOutline.Gradle
import KotestOutline.Json
import KotestOutline.Project

/-!
# Commands

What the commands print, and how they are run.
-/

namespace KotestOutline

/-!
## Reports

What the command line shows for people: the specs of a file, the target at a line, and the supported
styles. Lines are counted from 1 here. Every report is a list of lines.
-/

namespace Report

/-- A line index as people count. -/
def lineNumber (line : UInt32) : String := toString (line.toNat + 1)

/-- What follows the style of a spec. -/
def confidenceNote : Confidence → String
  | .resolved => ""
  | .textual => " (matched by name only)"

/-- The sign of a kind of test. -/
def icon : TestKind → String
  | .container => "📂"
  | .test => "🧪"

/-- The line of a test or container, indented by its depth. -/
def testLine (t : RecognizedTest) : String :=
  "   " ++ String.ofList (List.replicate (2 * t.depth) ' ') ++ icon t.kind ++ " " ++ t.name ++
    " (line " ++ lineNumber t.span.start.line ++ ")"

/-- The lines of a spec. -/
def specLines (s : SpecAnalysis) : List String :=
  ["", "📦 " ++ s.name ++ " (" ++ s.fqName ++ ")",
    "   🎨 Style: " ++ s.styleName ++ confidenceNote s.confidence,
    "   📏 Scope: lines " ++ lineNumber s.span.start.line ++ "-" ++
      lineNumber s.span.stop.line] ++
    (if s.callbacks.isEmpty then []
      else ["   🪝 Callbacks: " ++ ", ".intercalate (s.callbacks.map (·.kind.keyword))]) ++
    (if s.tests.isEmpty then ["   (no tests)"] else s.tests.map testLine)

/-- The lines of a file. -/
def analysisLines (path : String) (a : FileAnalysis) : List String :=
  ["🔍 Analyzing: " ++ path, String.ofList (List.replicate 80 '=')] ++
    if a.specs.isEmpty then ["", "📭 No specs found"] else a.specs.flatMap specLines

/-- The lines of the target at a line, if there is one. -/
def targetLines (line : UInt32) (target : Option TestTarget) (g : GradleSettings) : List String :=
  match target with
  | none => ["", "❌ No spec or test at line " ++ lineNumber line]
  | some t =>
    ["", "🎯 Target at line " ++ lineNumber line ++ ": " ++ t.label,
      "   🧰 Framework: " ++ frameworkName,
      "   🔧 Command: " ++ (GradleCommand.forTarget t g).toShell]

/-- A name with blanks behind it up to 12 characters. -/
def padded (name : String) : String :=
  name ++ String.ofList (List.replicate (12 - name.length) ' ')

/-- The lines of the supported styles, each with an example. -/
def styleLines : List String :=
  "📚 Supported spec styles:" ::
    SpecStyle.all.flatMap fun style =>
      ["   • " ++ padded style.styleName ++ " " ++ style.fqName,
        "     " ++ style.generateTest "example"]

/-! ### Data -/

/-- A target in data. -/
def targetJson (t : TestTarget) : Json :=
  .record (("spec_fq_name", .str t.specFqName) ::
    (t.testPath.map (("test_path", Json.str ·))).toList)

/-- What stands at a line, in data. -/
def lineJson (line : UInt32) (a : FileAnalysis) (g : GradleSettings) : Json :=
  let target := a.targetAtLine? line
  .record [("line", .nat (line.toNat + 1)),
    ("test", .nullable RecognizedTest.toJson (a.testAtLine? line)),
    ("target", .nullable targetJson target),
    ("command", .nullable (fun t => .str (GradleCommand.forTarget t g).toShell) target),
    ("framework", .str frameworkName), ("debug_runner", .str debugRunnerId)]

end Report

/-!
## Running commands

What each command prints, how it fails, and which file it saves. A failure is told as a chain of
texts, from what was attempted to what went wrong.

Programs are not started here: a run without `--dry-run` reports why its program does not start.
-/

/-- Why a command fails. -/
inductive CommandError where
  | lineRequired
  | lineOutOfRange (text : String)
  | fileNotFound (path : String)
  | configuration (cause : ScanError)
  | analysis (path : String) (cause : ScanError)
  | scan (cause : ScanError)
  | projectRoot (cause : FileError)
  | writing (path : String) (cause : ScanError)
  | launch (shell : String) (cause : LaunchError)

/-- The texts of a failure, outermost first. -/
def CommandError.chain : CommandError → List String
  | lineRequired => ["A line number is required, e.g. MySpec.kt:12"]
  | lineOutOfRange text => [text]
  | fileNotFound path => ["File not found: " ++ path]
  | configuration cause => "Failed to load configuration" :: cause.chain
  | analysis path cause => ("Failed to analyze " ++ path) :: cause.chain
  | scan cause => cause.chain
  | projectRoot cause => ["Failed to canonicalize project root", cause.message]
  | writing path cause => ("Failed to write config to " ++ path) :: cause.chain
  | launch shell cause => ["Failed to execute: " ++ shell, cause.message]

/-- What comes of a command. -/
structure Outcome where
  stdout : String
  failure : Option CommandError
  /-- The path and text of the file it saves. -/
  saved : Option (String × String)

namespace Outcome

/-- The text of printed lines. -/
def linesText (lines : List String) : String := String.join (lines.map (· ++ "\n"))

/-- A command that prints a text, or fails before it prints any. -/
def ofText : Except CommandError String → Outcome
  | .ok text => ⟨text, none, none⟩
  | .error e => ⟨"", some e, none⟩

/-- The file system after the command. -/
def apply (o : Outcome) (fs : FileSystem) : FileSystem :=
  match o.saved with
  | some (path, text) => (fs.writeText path text).toOption.getD fs
  | none => fs

end Outcome

/-- The scanner for the file at a path: the nearest configuration, with its source roots indexed. -/
def projectScanner (fs : FileSystem) (path : String) (noResolve : Bool) :
    Except CommandError Scanner := do
  let config ← (Config.discover fs ((Path.parent? path).getD path)).mapError .configuration
  let config := if noResolve then { config with resolveSymbols := false } else config
  (Scanner.ofProject fs config).mapError .scan

namespace Command

/-- A path read from the working directory. -/
def absolute (fs : FileSystem) (path : String) : String :=
  Path.join (FileSystem.placePath fs.workingDir) path

/-- The index of a line. -/
def checkedLine (line : Nat) : Except CommandError UInt32 :=
  (lineIndex line).mapError .lineOutOfRange

/-- The analysis of a file, for people or as data. -/
def runAnalyze (fs : FileSystem) (argument : String) (json noResolve : Bool) :
    Except CommandError String := do
  let location := Location.ofArgument argument
  let line ← location.line.mapM checkedLine
  let path := absolute fs location.path
  if !fs.pathExists path then .error (.fileNotFound path)
  let scanner ← projectScanner fs path noResolve
  let analysis ← (scanner.analyzeFile fs path).mapError (.analysis path)
  let gradle := scanner.config.gradle
  if json then
    let data := match line with
      | some line => Report.lineJson line analysis gradle
      | none => analysis.toJson
    return Outcome.linesText [data.sortFields.pretty]
  else
    let target := match line with
      | some line => Report.targetLines line (analysis.targetAtLine? line) gradle
      | none => []
    return Outcome.linesText (Report.analysisLines location.path analysis ++ target)

/-- An empty test, inside a spec class if one is named. -/
def runStub (style name : String) (spec : Option String) : Except CommandError String :=
  match StyleRegistry.full.lookup style with
  | none => .error (.scan (.unknownStyle style))
  | some s =>
    match spec with
    | some spec => .ok (s.generateSpec spec name)
    | none => .ok (Outcome.linesText [s.generateTest name])

/-- The command for what stands at a line of a file. -/
def runRun (fs : FileSystem) (argument : String) (dryRun : Bool) : Except CommandError String := do
  let location := Location.ofArgument argument
  let some line := location.line | .error .lineRequired
  let line ← checkedLine line
  let path := absolute fs location.path
  let scanner ← projectScanner fs path false
  let command ← (scanner.buildCommand fs path line).mapError .scan
  if dryRun then
    return Outcome.linesText
      (command.toShell :: (command.workingDir.map ("Working directory: " ++ ·)).toList)
  else .error (.launch command.toShell (command.launchError fs))

/-- The source directories that a new configuration may name, in order. -/
def sourceRootCandidates : List String :=
  ["src/test/kotlin", "src/jvmTest/kotlin", "src/commonTest/kotlin", "src/main/kotlin"]

/-- What a new configuration says about its source roots. -/
def sourceRootNote (roots : List String) : String :=
  if roots.isEmpty then "   • No source roots found; add them to enable symbol resolution"
  else s!"   • Indexing {roots.length} source roots"

/-- A new configuration file with the source roots that exist. -/
def runInit (fs : FileSystem) (directory : Option String) (force : Bool) : Outcome :=
  match fs.canonical (directory.getD (FileSystem.placePath fs.workingDir)) with
  | .error e => ⟨"", some (.projectRoot e), none⟩
  | .ok root =>
    let path := Path.join root (Config.fileNames.headD "")
    if fs.pathExists path && !force then
      ⟨Outcome.linesText ["❌ Config already exists at: " ++ path,
        "   Use --force to overwrite"], none, none⟩
    else
      let started := "🚀 Initializing kospec in: " ++ root
      let roots := sourceRootCandidates.filter fun r => fs.isDirectory (Path.join root r)
      let config := { Config.default with sourceRoots := roots }
      match config.save fs path with
      | .error e => ⟨Outcome.linesText [started], some (.writing path e), none⟩
      | .ok _ =>
        ⟨Outcome.linesText [started, "✅ Created config: " ++ path, sourceRootNote roots],
          none, some (path, config.toText)⟩

/-- What comes of a command in a file system. -/
def execute (fs : FileSystem) : Command → Outcome
  | .analyze file json noResolve => .ofText (runAnalyze fs file json noResolve)
  | .stub style name spec => .ofText (runStub style name spec)
  | .styles => .ofText (.ok (Outcome.linesText Report.styleLines))
  | .run file dryRun => .ofText (runRun fs file dryRun)
  | .init directory force => runInit fs directory force

end Command

end KotestOutline
