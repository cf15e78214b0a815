import JavaNaming.Config.Checkstyle
import JavaNaming.Config.Settings
import JavaNaming.Files.Tree

/-!
# Loading conventions

`load` reads conventions from a file: a Checkstyle configuration if the extension is that of XML, and a
settings document otherwise.
-/

namespace JavaNaming.Config

open Files (FileError FileSystem)
open Naming (Conventions)

/-- Why there are no conventions. -/
inductive ConfigError where
  | unreadable (path : String) (e : FileError)
  | settings (document : List Char) (e : SettingsError)
  | modules (e : ModuleError)
  | notChecker (name : String)
deriving DecidableEq, Repr

namespace ConfigError

/-- The wording of the error. -/
def message : ConfigError → String
  | unreadable path e => s!"failed to read {path}: {e.message}"
  | settings document e => s!"invalid TOML configuration: {e.message document}"
  | modules e => s!"invalid checkstyle XML: {e.message}"
  | notChecker name =>
    s!"not a checkstyle configuration: root module is '{name}', expected '{rootName}'"

/-- The wording at each level of detail. -/
def causes (e : ConfigError) : List String :=
  e.message ::
    match e with
    | unreadable _ inner => [inner.message]
    | settings document inner => [inner.message document]
    | modules inner => inner.causes
    | notChecker _ => []

end ConfigError

/-- The conventions of a settings document. -/
def ofSettings (document : List Char) : Except ConfigError Conventions :=
  match Settings.read document with
  | .ok c => .ok c
  | .error e => .error (.settings document e)

/-- The conventions of a Checkstyle configuration. -/
def ofCheckstyle (document : List Char) : Except ConfigError Conventions :=
  match Checkstyle.read document with
  | .ok c => .ok c
  | .error (.module e) => .error (.modules e)
  | .error (.notChecker name) => .error (.notChecker name)

/-- Whether a file has the extension of XML, in letters of either case. -/
def isXml (path : String) : Bool :=
  (Files.extension? path).any fun e => e.toList.map Char.toLower == "xml".toList

/-- The conventions in a file. -/
def load (fs : FileSystem) (path : String) : Except ConfigError Conventions :=
  match fs.readText path with
  | .error e => .error (.unreadable path e)
  | .ok document => if isXml path then ofCheckstyle document else ofSettings document

/-- Where conventions come from. -/
inductive Origin where
  | standard
  | settings (document : List Char)
  | checkstyle (document : List Char)
  | changes (d : Naming.Changes)

/-- The conventions of an origin. -/
def Origin.conventions : Origin → Except ConfigError Conventions
  | standard => .ok Conventions.standard
  | settings document => ofSettings document
  | checkstyle document => ofCheckstyle document
  | changes d => .ok (Conventions.standard.change d)

end JavaNaming.Config
