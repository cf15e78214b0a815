import JavaNaming.Naming.Conventions
import JavaNaming.Text.Quoted
import JavaNaming.Xml.Event

/-!
# Conventions in Checkstyle configurations

A Checkstyle configuration is a tree of modules with properties. `Module.ofEvents` reads the tree from
the events of a document, and `Checkstyle.conventions` takes the formats from the modules that check
names: for each category the first one in the order of the document.
-/

namespace JavaNaming.Config

open Naming (Category Conventions)
open Xml (Attribute Event Tag XmlError)

/-- A property of a module. -/
structure Property where
  name : String
  value : String
deriving DecidableEq, Repr

/-- A module with its properties and the modules in it. -/
inductive Module where
  | mk (name : String) (properties : List Property) (modules : List Module)

namespace Module

/-- The name of a module. -/
def name : Module → String
  | mk name _ _ => name

/-- The properties of a module. -/
def properties : Module → List Property
  | mk _ properties _ => properties

/-- The modules in a module. -/
def modules : Module → List Module
  | mk _ _ modules => modules

end Module

/-! ## Errors -/

/-- Why a document is no tree of modules. -/
inductive ModuleError where
  | xml (e : XmlError)
  | nothing
  | textOnly (text : List Char)
  | missingField (name : String)
  | duplicateField (name : String)
deriving DecidableEq, Repr

namespace ModuleError

/-- The wording of the error. -/
def message : ModuleError → String
  | xml e => e.message
  | nothing => "unexpected `Event::Eof`"
  | textOnly text => s!"invalid type: string {Text.quoted text}, expected struct Module"
  | missingField name => s!"missing field `{name}`"
  | duplicateField name => s!"duplicate field `{name}`"

/-- The wording at each level of detail. -/
def causes (e : ModuleError) : List String :=
  e.message ::
    match e with
    | xml inner => inner.causes
    | _ => []

end ModuleError

/-- The error of an element that is not closed. -/
def unclosed (name : List Char) : ModuleError :=
  .xml (.badNesting (.missingEnd (String.ofList name)))

/-! ## Attributes -/

/-- The field for the name of a module or property. -/
def nameField : String := "@name"

/-- The field for the value of a property. -/
def valueField : String := "@value"

/-- The field that an attribute is for. -/
def fieldOf (a : Attribute) : String :=
  "@" ++ String.ofList (if a.bindsNames then a.name else Xml.localName a.name)

/-- The fields that were read so far, with their values. -/
abbrev Fields := List (String × String)

/-- Read the attributes that are for one of some fields. -/
def readFields (known : List String) : List Attribute → Fields → Except ModuleError Fields
  | [], fields => .ok fields
  | a :: as, fields => do
    let field := fieldOf a
    if known.contains field then
      if (fields.lookup field).isSome then throw (.duplicateField field)
      match Xml.unescape a.value with
      | .ok value => readFields known as ((field, String.ofList value) :: fields)
      | .error e => throw (.xml (.badEscape e))
    else readFields known as fields

/-- The fields of a tag. -/
def fieldsOf (known : List String) (tag : Tag) : Except ModuleError Fields := do
  let (attributes, e?) := Xml.attributesOf tag.name tag.rest
  let fields ← readFields known attributes []
  match e? with
  | some e => throw (.xml (.badAttribute e))
  | none => return fields

/-- A field that has to be there. -/
def requireField (fields : Fields) (field : String) : Except ModuleError String :=
  match fields.lookup field with
  | some value => .ok value
  | none => .error (.missingField field)

/-! ## Elements -/

/-- Pass the rest of an element that has no meaning. `depth` counts the open elements of the same name
in it. Text in it is not looked at. -/
def passElement (name : List Char) : Nat → List Event → Except ModuleError (List Event)
  | _, [] => .error (unclosed name)
  | depth, event :: events =>
    match event with
    | .start tag => passElement name (if tag.name = name then depth + 1 else depth) events
    | .stop other =>
      if other = name then
        match depth with
        | 0 => .ok events
        | depth + 1 => passElement name depth events
      else passElement name depth events
    | .text _ => passElement name depth events
    | .halt e => .error (.xml e)
    | .finish => .error (unclosed name)

/-- Set the rest of an element aside, up to its end. -/
def setAside (name : List Char) : Nat → List Event → Except ModuleError (List Event × List Event)
  | _, [] => .ok ([], [])
  | depth, event :: events =>
    let keep := fun depth => do
      let (kept, rest) ← setAside name depth events
      return (event :: kept, rest)
    match event with
    | .start tag => keep (if tag.name = name then depth + 1 else depth)
    | .stop other =>
      if other = name then
        match depth with
        | 0 => .ok ([event], events)
        | depth + 1 => keep depth
      else keep depth
    | .text (.error e) => .error (.xml (.badEscape e))
    | .text (.ok _) => keep depth
    | .halt e => .error (.xml e)
    | .finish => .ok ([], event :: events)

/-- Read the content of a property, which has no meaning. -/
def passContent (name : List Char) : Nat → List Event → Except ModuleError (List Event)
  | 0, _ => .error (unclosed name)
  | _ + 1, [] => .error (unclosed name)
  | fuel + 1, event :: events =>
    match event with
    | .start tag => do passContent name fuel (← passElement tag.name 0 events)
    | .stop _ => .ok events
    | .text (.error e) => .error (.xml (.badEscape e))
    | .text (.ok _) => passContent name fuel events
    | .halt e => .error (.xml e)
    | .finish => .error (unclosed name)

/-- Read a property after its start tag. -/
def readProperty (tag : Tag) (events : List Event) :
    Except ModuleError (Property × List Event) := do
  let fields ← fieldsOf [nameField, valueField] tag
  let events ← passContent tag.name (events.length + 1) events
  let name ← requireField fields nameField
  let value ← requireField fields valueField
  return (⟨name, value⟩, events)

/-- Read all elements in the element `parent` that have the name of the next one. Other elements are set
aside and come after them. `aside` has those that were set aside so far, and `found` those that were
read, both in reverse. -/
def readAlike {α : Type} (read : Tag → List Event → Except ModuleError (α × List Event))
    (parent name : List Char) :
    Nat → List Event → List Event → List α → Except ModuleError (List α × List Event)
  | 0, _, _, _ => .error (unclosed parent)
  | _ + 1, [], _, _ => .error (unclosed parent)
  | fuel + 1, event :: events, aside, found =>
    match event with
    | .start tag => do
      if tag.name = name then
        let (a, events) ← read tag events
        readAlike read parent name fuel events aside (a :: found)
      else
        let (kept, events) ← setAside tag.name 0 events
        readAlike read parent name fuel events (kept.reverse ++ event :: aside) found
    | .stop _ => .ok (found.reverse, aside.reverse ++ event :: events)
    | .text (.error e) => .error (.xml (.badEscape e))
    | .text (.ok _) => readAlike read parent name fuel events aside found
    | .halt e => .error (.xml e)
    | .finish => .error (unclosed parent)

/-- The properties and modules of a module that were read so far. -/
structure Content where
  properties? : Option (List Property)
  modules? : Option (List Module)

mutual

/-- Read a module after its start tag. -/
def readModule : Nat → Tag → List Event → Except ModuleError (Module × List Event)
  | 0, tag, _ => .error (unclosed tag.name)
  | fuel + 1, tag, events => do
    let fields ← fieldsOf [nameField] tag
    let (content, events) ← readContent fuel tag events ⟨none, none⟩
    let name ← requireField fields nameField
    return (.mk name (content.properties?.getD []) (content.modules?.getD []), events)

/-- Read the properties and modules of a module. -/
def readContent : Nat → Tag → List Event → Content → Except ModuleError (Content × List Event)
  | 0, tag, _, _ => .error (unclosed tag.name)
  | _ + 1, tag, [], _ => .error (unclosed tag.name)
  | fuel + 1, tag, event :: events, content =>
    match event with
    | .start inner => do
      if Xml.localName inner.name = "property".toList then
        if content.properties?.isSome then throw (.duplicateField "property")
        let (found, events) ←
          readAlike readProperty tag.name inner.name (events.length + 2) (event :: events) [] []
        readContent fuel tag events { content with properties? := some found }
      else if Xml.localName inner.name = "module".toList then
        if content.modules?.isSome then throw (.duplicateField "module")
        let (found, events) ←
          readAlike (readModule fuel) tag.name inner.name (events.length + 2) (event :: events) [] []
        readContent fuel tag events { content with modules? := some found }
      else readContent fuel tag (← passElement inner.name 0 events) content
    | .stop _ => .ok (content, events)
    | .text (.error e) => .error (.xml (.badEscape e))
    | .text (.ok _) => readContent fuel tag events content
    | .halt e => .error (.xml e)
    | .finish => .error (unclosed tag.name)

end

/-- The module that a document is. What stands after it is not looked at. -/
def Module.ofEvents : List Event → Except ModuleError Module
  | [] => .error .nothing
  | .start tag :: events => (readModule (events.length + 2) tag events).map (·.1)
  | .stop _ :: _ => .error .nothing
  | .text (.error e) :: _ => .error (.xml (.badEscape e))
  | .text (.ok text) :: events =>
    if text.all Xml.isBlank then Module.ofEvents events else .error (.textOnly text)
  | .halt e :: _ => .error (.xml e)
  | .finish :: _ => .error .nothing

/-! ## Formats -/

/-- The category whose names a module checks, and its format if it has none of its own. -/
def target? : String → Option (Category × String)
  | "ParameterName" | "LambdaParameterName" => some (.parameter, "^[a-z][a-zA-Z0-9]*$")
  | "CatchParameterName" => some (.parameter, "^(e|t|ex|[a-z][a-z][a-zA-Z]+|_)$")
  | "LocalVariableName" | "LocalFinalVariableName" => some (.variable, "^([a-z][a-zA-Z0-9]*|_)$")
  | "MemberName" | "StaticVariableName" => some (.variable, "^[a-z][a-zA-Z0-9]*$")
  | "MethodName" => some (.method, "^[a-z][a-zA-Z0-9]*$")
  | "TypeName" => some (.type, "^[A-Z][a-zA-Z0-9]*$")
  | _ => none

/-- The category and format of a module that checks names. The format is the value of the first property
for it. -/
def Module.format? (m : Module) : Option (Category × String) :=
  (target? m.name).map fun (category, standard) =>
    (category, ((m.properties.find? (·.name = "format")).map (·.value)).getD standard)

/-- The formats that were found, with none for a category without modules. -/
structure Formats where
  parameterFormat? : Option String
  variableFormat? : Option String
  methodFormat? : Option String
  typeFormat? : Option String
deriving DecidableEq, Repr

namespace Formats

/-- No formats. -/
def none : Formats := ⟨Option.none, Option.none, Option.none, Option.none⟩

/-- Add a format, unless its category has one. -/
def add (f : Formats) (category : Category) (format : String) : Formats :=
  match category with
  | .parameter => { f with parameterFormat? := some (f.parameterFormat?.getD format) }
  | .variable => { f with variableFormat? := some (f.variableFormat?.getD format) }
  | .method => { f with methodFormat? := some (f.methodFormat?.getD format) }
  | .type => { f with typeFormat? := some (f.typeFormat?.getD format) }

mutual

/-- Add the formats of a module and of the modules in it. -/
def visit (f : Formats) : Module → Formats
  | .mk name properties modules =>
    let f :=
      match (Module.mk name properties modules).format? with
      | some (category, format) => f.add category format
      | Option.none => f
    f.visitAll modules

/-- Add the formats of some modules, one after the other. -/
def visitAll (f : Formats) : List Module → Formats
  | [] => f
  | m :: ms => (f.visit m).visitAll ms

end

end Formats

/-- Why a document gives no conventions. -/
inductive CheckstyleError where
  | module (e : ModuleError)
  | notChecker (name : String)
deriving DecidableEq, Repr

/-- The name of the root module. -/
def rootName : String := "Checker"

namespace Checkstyle

/-- The conventions by a tree of modules. -/
def conventions (root : Module) : Except CheckstyleError Conventions :=
  if root.name = rootName then
    let formats := Formats.none.visit root
    .ok { Conventions.standard with
      parameterFormat := formats.parameterFormat?.getD Conventions.standard.parameterFormat
      variableFormat := formats.variableFormat?.getD Conventions.standard.variableFormat
      methodFormat := formats.methodFormat?.getD Conventions.standard.methodFormat
      typeFormat? := formats.typeFormat? }
  else .error (.notChecker root.name)

/-- The conventions of a document. -/
def read (document : List Char) : Except CheckstyleError Conventions :=
  match Module.ofEvents (Event.ofText document) with
  | .ok root => conventions root
  | .error e => .error (.module e)

end Checkstyle

end JavaNaming.Config
