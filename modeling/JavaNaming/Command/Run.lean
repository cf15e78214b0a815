import JavaNaming.Command.Argument
import JavaNaming.Config.Load
import JavaNaming.Files.Collect
import JavaNaming.Naming.FileCheck

/-!
# The command

`run` does what the arguments ask for and gives the exit status, what is printed, and the log. The status
is 0 if all files pass, 1 if a name breaks its convention, and 2 if something could not be done.
-/

namespace JavaNaming.Command

open Config (ConfigError)
open Files (FileSystem PathError)
open Naming (Checker Conventions FileFailure InvalidFormat)

/-- What a program leaves behind. -/
structure Outcome where
  status : Nat
  output : String
  errors : String
  log : List String
deriving DecidableEq, Repr

/-! ## The log -/

/-- How much a message matters. -/
inductive Level where
  | debug
  | info
  | warn
deriving DecidableEq, Repr

/-- The name of a level. -/
def Level.label : Level → String
  | .debug => "DEBUG"
  | .info => "INFO"
  | .warn => "WARN"

/-- What is worth a message. -/
inductive Note where
  | standardConfig (path : String)
  | legacyStyle
  | filesFound (count : Nat)
  | fileStarted (path : String)
deriving DecidableEq, Repr

namespace Note

/-- How much a note matters. -/
def level : Note → Level
  | standardConfig _ | fileStarted _ => .debug
  | filesFound _ => .info
  | legacyStyle => .warn

/-- The line of a note. -/
def line (n : Note) : String :=
  n.level.label ++ " " ++
    match n with
    | standardConfig path =>
      s!"using configuration from working directory path={Text.quoted path.toList}"
    | legacyStyle => "type names are checked with the legacy snake_case format"
    | filesFound count => s!"checking files count={count}"
    | fileStarted path => s!"checking file path={path}"

end Note

/-- The lines of the log. Without `verbose` it has the most important notes only. -/
def logLines (verbose : Bool) (notes : List Note) : List String :=
  (notes.filter fun n => verbose || n.level == .warn).map Note.line

/-! ## The steps of a check -/

/-- Why nothing could be checked. -/
inductive Obstacle where
  | config (path : String) (e : ConfigError)
  | format (e : InvalidFormat)
  | files (e : PathError)

/-- The wording at each level of detail. -/
def Obstacle.causes : Obstacle → List String
  | config path e => s!"failed to load configuration from {path}" :: e.causes
  | format e => ["invalid naming configuration", e.message, e.cause.message]
  | files e => e.causes

/-- The settings document that is used if there is one. -/
def standardConfig : String := "stylecheck.toml"

/-- The file with the conventions: the one that is asked for, or the standard one if it is there. -/
def configPath? (fs : FileSystem) (o : Options) : Option String :=
  match o.config? with
  | some path => some path
  | none => if fs.isFile standardConfig then some standardConfig else none

/-- The conventions in force. -/
def conventionsFor (fs : FileSystem) (o : Options) : Except Obstacle Conventions :=
  match configPath? fs o with
  | none => .ok Conventions.standard
  | some path =>
    match Config.load fs path with
    | .ok c => .ok c
    | .error e => .error (.config path e)

/-- The notes before the conventions are read. -/
def configNotes (fs : FileSystem) (o : Options) : List Note :=
  if o.config?.isNone && fs.isFile standardConfig then [.standardConfig standardConfig] else []

/-- The notes about conventions. -/
def styleNotes (c : Conventions) : List Note :=
  if c.usesLegacyTypeStyle then [.legacyStyle] else []

/-- The checker for some conventions. -/
def checkerFor (c : Conventions) : Except Obstacle Checker :=
  match Checker.ofConventions c with
  | .ok checker => .ok checker
  | .error e => .error (.format e)

/-- The files to check. -/
def filesFor (fs : FileSystem) (o : Options) : Except Obstacle (List String) :=
  match fs.javaFiles o.paths with
  | .ok files => .ok files
  | .error e => .error (.files e)

/-- The notes about the files that are checked in turn, up to the first that does not pass. -/
def fileNotes (checker : Checker) (fs : FileSystem) : List String → List Note
  | [] => []
  | path :: paths =>
    .fileStarted path ::
      if (checker.checkFile fs path).isNone then fileNotes checker fs paths else []

/-! ## Results -/

/-- The line about files that all pass. -/
def summary (files : List String) : String :=
  s!"Checked {files.length} file(s), no naming violations\n"

/-- The line about a file that does not pass. -/
def report (f : FileFailure) : String :=
  (if f.isViolation then "error: " else "fatal: ") ++ f.message ++ "\n"

/-- The status by the first file that does not pass. -/
def statusOf : Option FileFailure → Nat
  | none => 0
  | some f => if f.isViolation then 1 else 2

/-- The outcome where nothing could be checked. -/
def obstructed (e : Obstacle) (log : List String) : Outcome :=
  ⟨2, "", "error: " ++ ": ".intercalate e.causes ++ "\n", log⟩

/-- Check files. -/
def checkFiles (fs : FileSystem) (o : Options) : Outcome :=
  let log := logLines o.verbose
  let notes := configNotes fs o
  match conventionsFor fs o with
  | .error e => obstructed e (log notes)
  | .ok conventions =>
    let notes := notes ++ styleNotes conventions
    match checkerFor conventions with
    | .error e => obstructed e (log notes)
    | .ok checker =>
      match filesFor fs o with
      | .error e => obstructed e (log notes)
      | .ok files =>
        let failure? := checker.firstFailure? fs files
        let visited := if o.verbose then fileNotes checker fs files else []
        { status := statusOf failure?
          output := if failure?.isNone && !o.quiet then summary files else ""
          errors := (failure?.map report).getD ""
          log := log (notes ++ .filesFound files.length :: visited) }

/-- The text that is printed for help. -/
def helpText : String :=
  "Check Java identifier naming conventions\n\n" ++ usageLine [] ++ "\n\n" ++
  "Arguments:\n" ++
  "  [PATHS]...  Java files or directories to check [default: .]\n\n" ++
  "Options:\n" ++
  "  -c, --config <FILE>  Configuration file: stylecheck.toml, or a checkstyle .xml\n" ++
  "  -j, --jobs <N>       Number of files checked in parallel " ++
    "(defaults to the number of CPUs)\n" ++
  "  -q, --quiet          Print nothing when all files pass\n" ++
  "  -v, --verbose        Log each file as it is checked\n" ++
  "  -h, --help           Print help\n" ++
  "  -V, --version        Print version\n"

/-- The text that is printed for the version. -/
def versionText : String := commandName ++ " 0.1.0\n"

/-- Do what the arguments ask for. -/
def run (fs : FileSystem) (args : List String) : Outcome :=
  match Request.ofArguments args with
  | .error e => ⟨2, "", e.message, []⟩
  | .ok .help => ⟨0, helpText, "", []⟩
  | .ok .version => ⟨0, versionText, "", []⟩
  | .ok (.check o) => checkFiles fs o

end JavaNaming.Command
