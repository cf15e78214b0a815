import JavaNaming.Naming.Conventions
import JavaNaming.Text.Quoted
import JavaNaming.Toml.Document

/-!
# Conventions in TOML

A settings document has one table, `naming`, with a key for each of the formats and one for the style of
types. Keys that are left out keep what holds without settings. `Settings.read` gives the conventions
of a document, and says what is wrong with it otherwise.
-/

namespace JavaNaming.Config

open Naming (Conventions Changes TypeStyle)
open Toml (Key Value Scalar FloatValue Entries Flaw)

/-- What can be wrong with a settings document. -/
inductive SettingsFault where
  | form (flaw : Flaw)
  | unknownField (name : String) (known : List String)
  | wrongType (found wanted : String)
  | integerOverflow
  | floatOverflow
  | unknownStyle (name : String)
  | noStyle
  | styleCount (several : Bool)
  | styleValue (kind : String)
  | styleContent (kind : String)
deriving DecidableEq, Repr

/-- Names between backquotes, as alternatives. -/
def alternatives : List String → String
  | [] => "there are no fields"
  | [a] => s!"expected `{a}`"
  | [a, b] => s!"expected `{a}` or `{b}`"
  | names => "expected one of " ++ ", ".intercalate (names.map fun n => s!"`{n}`")

/-- The names of the styles. -/
def styleNames : List String := [TypeStyle.pascalCase.label, TypeStyle.legacySnakeCase.label]

/-- The wording of a fault. -/
def SettingsFault.message : SettingsFault → String
  | form flaw => flaw.message
  | unknownField name known => s!"unknown field `{name}`, {alternatives known}"
  | wrongType found wanted => s!"invalid type: {found}, expected {wanted}"
  | integerOverflow => "integer number overflowed"
  | floatOverflow => "floating-point number overflowed"
  | unknownStyle name => s!"unknown variant `{name}`, {alternatives styleNames}"
  | noStyle => "wanted string or table"
  | styleCount false => "wanted exactly 1 element, found 0 elements"
  | styleCount true => "wanted exactly 1 element, more than 1 element"
  | styleValue kind => s!"expected table, found {kind}"
  | styleContent kind => s!"expected empty {kind}"

/-- A fault and its place in the document. -/
structure SettingsError where
  fault : SettingsFault
  range? : Option Text.Range
deriving DecidableEq, Repr

/-- The wording of an error, with the place quoted from the document. -/
def SettingsError.message (document : List Char) (e : SettingsError) : String :=
  Toml.report document e.range? e.fault.message

/-! ## Values -/

/-- The least number that needs more than a given number of bits. -/
def bitBound (bits : Nat) : Int := (Nat.pow 2 bits : Nat)

/-- An integer of a width, in words; wide ones say so. -/
def describeInteger (n : Int) : Except SettingsFault String :=
  if -bitBound 63 ≤ n ∧ n < bitBound 64 then .ok s!"integer `{n}`"
  else if -bitBound 127 ≤ n ∧ n < bitBound 127 then .ok s!"integer `{n}` as i128"
  else if 0 ≤ n ∧ n < bitBound 128 then .ok s!"integer `{n}` as u128"
  else .error .integerOverflow

/-- The sign of a number. -/
def minus (negative : Bool) : String := if negative then "-" else ""

/-- A float in words. -/
def describeFloat : FloatValue → Except SettingsFault String
  | .notANumber => .ok "floating point `NaN`"
  | .infinite negative => .ok s!"floating point `{minus negative}inf`"
  | .finite negative magnitude =>
    match Decimal.rounded? magnitude with
    | some text => .ok s!"floating point `{minus negative}{text}`"
    | none => .error .floatOverflow

/-- A value in words. -/
def describeValue : Value → Except SettingsFault String
  | .scalar (.string text) => .ok s!"string {Text.quoted text}"
  | .scalar (.integer (some n)) => describeInteger n
  | .scalar (.integer none) => .error .integerOverflow
  | .scalar (.float f) => describeFloat f
  | .scalar (.boolean b) => .ok s!"boolean `{b}`"
  | .scalar .moment => .ok "map"
  | .array .. => .ok "sequence"
  | .table .. => .ok "map"

/-- The fault of a value that should have been something else. -/
def mismatch (value : Value) (wanted : String) : SettingsFault :=
  match describeValue value with
  | .ok found => .wrongType found wanted
  | .error fault => fault

/-- The string that a value is. -/
def stringOf (range : Text.Range) : Value → Except SettingsError String
  | .scalar (.string text) => .ok (String.ofList text)
  | value => .error ⟨mismatch value "a string", some range⟩

/-- The style that a name in the document stands for. -/
def styleNamed (range : Text.Range) (name : String) : Except SettingsError TypeStyle :=
  match TypeStyle.ofLabel? name with
  | some style => .ok style
  | none => .error ⟨.unknownStyle name, some range⟩

/-- The style that a value is: its name, or a table with its name as the only key and nothing in it. -/
def styleOf (range : Text.Range) : Value → Except SettingsError TypeStyle
  | .scalar (.string text) => styleNamed range (String.ofList text)
  | .table _ [] => .error ⟨.styleCount false, some range⟩
  | .table _ [(key, inner, value)] => do
    let style ← styleNamed key.range key.name
    match value with
    | .array _ [] | .table _ [] => return style
    | .array _ _ => throw ⟨.styleContent "array", some inner⟩
    | .table _ _ => throw ⟨.styleContent "table", some inner⟩
    | .scalar s => throw ⟨.styleValue s.kind, some inner⟩
  | .table _ _ => .error ⟨.styleCount true, some range⟩
  | _ => .error ⟨.noStyle, some range⟩

/-! ## Tables -/

/-- The settings for names. -/
inductive Field where
  | parameterFormat
  | variableFormat
  | methodFormat
  | typeStyle
  | typeFormat
deriving DecidableEq, Repr

namespace Field

/-- The fields in their order. -/
def all : List Field := [.parameterFormat, .variableFormat, .methodFormat, .typeStyle, .typeFormat]

/-- The key of a field. -/
def label : Field → String
  | .parameterFormat => "parameter-format"
  | .variableFormat => "variable-format"
  | .methodFormat => "method-format"
  | .typeStyle => "type-style"
  | .typeFormat => "type-format"

/-- The field with a given key. -/
def ofLabel? (name : String) : Option Field := all.find? (·.label = name)

/-- Set a field to a value. -/
def set (f : Field) (range : Text.Range) (value : Value) (c : Conventions) :
    Except SettingsError Conventions :=
  match f with
  | .parameterFormat => do return { c with parameterFormat := ← stringOf range value }
  | .variableFormat => do return { c with variableFormat := ← stringOf range value }
  | .methodFormat => do return { c with methodFormat := ← stringOf range value }
  | .typeStyle => do return { c with typeStyle := ← styleOf range value }
  | .typeFormat => do return { c with typeFormat? := some (← stringOf range value) }

end Field

/-- The entries of a table by the order of their keys. -/
def sorted (entries : Entries) : Entries :=
  entries.mergeSort fun a b => !(decide (b.1.name < a.1.name))

/-- The key under which a date shows its text. -/
def momentKey : String := "$__toml_private_datetime"

/-- The fault of a key that is none of the known ones. -/
def unknownName (name : String) : SettingsFault := .unknownField name (Field.all.map Field.label)

/-- Set the field that an entry is for. -/
def setEntry (c : Conventions) (entry : Key × Text.Range × Value) :
    Except SettingsError Conventions :=
  match Field.ofLabel? entry.1.name with
  | some field => field.set entry.2.1 entry.2.2 c
  | none => .error ⟨unknownName entry.1.name, some entry.1.range⟩

/-- The conventions of the table for names. They can also be given as an array, field by field. -/
def namingOf (range : Text.Range) : Value → Except SettingsError Conventions
  | .table _ entries => (sorted entries).foldlM setEntry Conventions.standard
  | .array _ items =>
    (Field.all.zip items).foldlM (fun c (field, place, value) => field.set place value c)
      Conventions.standard
  | .scalar .moment => .error ⟨unknownName momentKey, some range⟩
  | value => .error ⟨mismatch value "struct NamingConfig", some range⟩

/-- The key of the table for names. -/
def namingKey : String := "naming"

namespace Settings

/-- The conventions by an entry of the document. -/
def readEntry (_ : Conventions) (entry : Key × Text.Range × Value) :
    Except SettingsError Conventions :=
  if entry.1.name = namingKey then namingOf entry.2.1 entry.2.2
  else .error ⟨.unknownField entry.1.name [namingKey], some entry.1.range⟩

/-- The conventions of a settings document. -/
def read (document : List Char) : Except SettingsError Conventions := do
  match Toml.Document.read document with
  | .error e => throw ⟨.form e.flaw, e.range?⟩
  | .ok entries => (sorted entries).foldlM readEntry Conventions.standard

end Settings

end JavaNaming.Config
