import KotestOutline.FileSystem
import KotestOutline.Json

/-!
# Gradle

The Gradle command of a target: what is configured about it, how it is written and started, and
where.
-/

namespace KotestOutline

/-!
## Gradle settings

How test runs are handed to Gradle, as far as a configuration says so.
-/

/-- The configured parts of a Gradle invocation. -/
structure GradleSettings where
  command : Option String
  task : Option String
  extraArgs : Option (List String)
  /-- Additions to the environment. -/
  env : Option Table
  deriving DecidableEq, Inhabited

namespace GradleSettings

/-- The settings that leave everything unset. -/
def unset : GradleSettings := ⟨none, none, none, none⟩

/-- The Gradle program, by default the wrapper script. -/
def program (g : GradleSettings) : String := g.command.getD "./gradlew"

/-- The task that runs the tests. -/
def taskName (g : GradleSettings) : String := g.task.getD "test"

/-- The arguments behind the test filter. -/
def arguments (g : GradleSettings) : List String := g.extraArgs.getD []

/-- The names of the fields in data. -/
def fieldNames : List String := ["command", "task", "extra_args", "env"]

/-- The settings in data, unset fields left out. -/
def toJson (g : GradleSettings) : Json :=
  .record <|
    (g.command.map (("command", Json.str ·))).toList ++
      (g.task.map (("task", Json.str ·))).toList ++
      (g.extraArgs.map (("extra_args", Json.arrayOf Json.str ·))).toList ++
      (g.env.map fun table =>
        ("env", .record (table.map fun (key, value) => (key, .str value)))).toList

/-- The settings that data holds. -/
def ofJson? (v : Json) : Option GradleSettings := do
  let [command, task, extraArgs, env] ← v.fields? fieldNames | none
  return ⟨← command.optional Json.toText?, ← task.optional Json.toText?,
    ← extraArgs.optional (Json.toList? Json.toText?), ← env.optional Json.toTable?⟩

end GradleSettings

/-!
## Run targets

What a run is about: a whole spec, or one test or container inside it.
-/

/-- The name that run tools show for the test framework. -/
def frameworkName : String := "Kotest"

/-- The runner that a run under a debugger uses. -/
def debugRunnerId : String := "KotestDebug"

/-- A spec, or a test inside it. -/
structure TestTarget where
  specFqName : String
  /-- The path of the test, none for the whole spec. -/
  testPath : Option String
  deriving DecidableEq, Inhabited

namespace TestTarget

/-- The target for people. -/
def label (t : TestTarget) : String :=
  match t.testPath with
  | some path => t.specFqName ++ " / " ++ path
  | none => t.specFqName

end TestTarget

/-!
## Gradle commands

The command that runs a target, and its two renderings: one line for a shell, and the program,
arguments and environment of a process.
-/

/-! ### Quoting -/

/-- Whether a character stands for itself everywhere in a shell line. -/
def isPlainInShell (c : Char) : Bool :=
  c.isAlphanum || "-_./:=@%+,".toList.contains c

/-- A word of a shell line: as it is if every character is plain, else between single quotes. A
quote inside closes them, is escaped by a backslash, and opens them again. -/
def shellQuote (word : String) : String :=
  let cs := word.toList
  if !cs.isEmpty && cs.all isPlainInShell then word
  else
    .ofList <| '\'' ::
      cs.flatMap (fun c => if c = '\'' then ['\'', '\\', '\'', '\''] else [c]) ++ ['\'']

/-! ### Processes -/

/-- What a process is started from. -/
structure Process where
  program : String
  args : List String
  workingDir : Option String
  /-- Additions to the environment, in ascending order of their keys. -/
  env : Table
  deriving DecidableEq, Inhabited

/-- A word as a process holds it. A zero character ends a word there, so a word that contains one
has no such form, and a placeholder stands in its place. -/
def processWord (word : String) : String :=
  if word.toList.contains '\x00' then "<string-with-nul>" else word

/-! ### Commands -/

/-- A Gradle invocation. -/
structure GradleCommand where
  program : String
  args : List String
  workingDir : Option String
  /-- Additions to the environment, in the order they were made. -/
  env : List (String × String)
  deriving DecidableEq, Inhabited

namespace GradleCommand

/-- The variable from which Kotest reads the specs to run. -/
def specFilter : String := "kotest_filter_specs"

/-- The variable from which Kotest reads the path of the test to run. -/
def testFilter : String := "kotest_filter_tests"

/-- An invocation without working directory and environment. -/
def new (program : String) (args : List String) : GradleCommand := ⟨program, args, none, []⟩

/-- The command that runs in a directory. -/
def inDir (c : GradleCommand) (dir : String) : GradleCommand := { c with workingDir := some dir }

/-- The command with one more addition to the environment. -/
def withEnv (c : GradleCommand) (key value : String) : GradleCommand :=
  { c with env := c.env ++ [(key, value)] }

/-- The command that runs a target: the filters of Kotest first, then the configured environment in
the order of its keys. -/
def forTarget (target : TestTarget) (settings : GradleSettings) : GradleCommand :=
  ⟨settings.program, [settings.taskName, "--tests", target.specFqName] ++ settings.arguments, none,
    (specFilter, target.specFqName) :: (target.testPath.map (testFilter, ·)).toList ++
      (settings.env.getD []).sorted⟩

/-- The command as one shell line, environment assignments first. -/
def toShell (c : GradleCommand) : String :=
  " ".intercalate <|
    c.env.map (fun (key, value) => key ++ "=" ++ shellQuote value) ++
      shellQuote c.program :: c.args.map shellQuote

/-- The process of the command. Of several additions under one key the last one counts. -/
def toProcess (c : GradleCommand) : Process :=
  ⟨processWord c.program, c.args.map processWord, c.workingDir.map processWord,
    (Table.ofEntries c.env).sorted⟩

end GradleCommand

/-!
## Launching Gradle

Why the program of a command does not start. Programs are not run here: the files of a file system
are texts and no programs, and none is installed under a bare name.
-/

/-- Why a program does not start. -/
inductive LaunchError where
  /-- A word of the process holds a zero character. -/
  | invalidWord
  /-- The program is not found. -/
  | missing (cause : FileError)
  /-- The program is found and is none. -/
  | notExecutable
  deriving DecidableEq, Inhabited

/-- The text of a launch error. -/
def LaunchError.message : LaunchError → String
  | invalidWord => "nul byte found in provided data"
  | missing cause => cause.message
  | notExecutable => "Permission denied (os error 13)"

namespace GradleCommand

/-- The words that the process of a command is made of. -/
def words (c : GradleCommand) : List String :=
  c.program :: c.args ++ c.workingDir.toList ++
    c.toProcess.env.flatMap fun (key, value) => [key, value]

/-- Why a command does not start. A program with a slash in its name is looked up from the directory
that the command runs in, and a bare name among the installed programs. -/
def launchError (c : GradleCommand) (fs : FileSystem) : LaunchError :=
  if c.words.any (·.toList.contains '\x00') then .invalidWord
  else if c.program.toList.contains '/' then
    let found := do
      let directory ← fs.place (c.workingDir.getD ".")
      { fs with workingDir := directory }.place c.program
    match found with
    | .error e => .missing e
    | .ok _ => .notExecutable
  else if FileSystem.isLongName c.program then .missing .nameTooLong
  else .missing .notFound

end GradleCommand

/-!
## Gradle roots

The directory in which Gradle runs the tests of a file: the outermost directory around the file with
a settings file, or else the innermost one with any file that marks a Gradle build.
-/

/-- The files that mark the root of a whole build. -/
def settingsMarkers : List String := ["settings.gradle.kts", "settings.gradle"]

/-- The files that mark a build or a part of one. -/
def buildMarkers : List String :=
  settingsMarkers ++ ["gradlew", "build.gradle.kts", "build.gradle"]

namespace FileSystem

/-- Whether a directory holds one of these names. -/
def holdsAny (fs : FileSystem) (names : List String) (directory : String) : Bool :=
  names.any fun name => fs.pathExists (Path.join directory name)

/-- The directories around a path, innermost first; a directory is around itself. -/
def directoriesAround (fs : FileSystem) (path : String) : List String :=
  if fs.isDirectory path then Path.ancestors path else Path.parents path

/-- What the way up from a path has met so far. -/
structure RootSearch where
  /-- The last directory with a settings file. -/
  settings : Option String
  /-- The first directory with any marker. -/
  nearest : Option String

/-- Going on to the next directory. -/
def RootSearch.visit (fs : FileSystem) (met : RootSearch) (directory : String) : RootSearch where
  settings := if fs.holdsAny settingsMarkers directory then some directory else met.settings
  nearest :=
    if met.nearest.isNone && fs.holdsAny buildMarkers directory then some directory
    else met.nearest

/-- The directory in which Gradle should run for a path. -/
def gradleRoot? (fs : FileSystem) (path : String) : Option String :=
  let met := (fs.directoriesAround path).foldl (RootSearch.visit fs) ⟨none, none⟩
  met.settings.or met.nearest

end FileSystem

end KotestOutline
