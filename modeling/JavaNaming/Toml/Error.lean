import JavaNaming.Toml.Excerpt

/-!
# Errors in TOML documents

A flaw has a description and, often, the things that could have stood in its place. A document has the
error of the first flaw that is found.
-/

namespace JavaNaming.Toml

/-- Something that could have stood in the place of a flaw. -/
inductive Expected where
  /-- This text. -/
  | literal (text : String)
  /-- A thing that these words describe. -/
  | description (words : String)
deriving DecidableEq, Repr

/-- The wording of an expectation. -/
def Expected.render : Expected → String
  | literal "\n" => "newline"
  | literal "`" => "'`'"
  | literal text => s!"`{text}`"
  | description words => words

/-- The forms of strings. -/
inductive StringForm where
  | basic
  | literal
  | multiLineBasic
  | multiLineLiteral
deriving DecidableEq, Repr

/-- The name of a form. -/
def StringForm.label : StringForm → String
  | basic => "basic string"
  | literal => "literal string"
  | multiLineBasic => "multi-line basic string"
  | multiLineLiteral => "multi-line literal string"

/-- What can come next in an inline table. -/
inductive EntryPart where
  | key
  | equals
  | value
  | comma
deriving DecidableEq, Repr

/-- The bases of integers other than ten. -/
inductive Base where
  | hexadecimal
  | octal
  | binary
deriving DecidableEq, Repr

namespace Base

/-- The name of a base. -/
def label : Base → String
  | hexadecimal => "hexadecimal"
  | octal => "octal"
  | binary => "binary"

/-- The number of digits. -/
def radix : Base → Nat
  | hexadecimal => 16
  | octal => 8
  | binary => 2

/-- The letter after the zero with which integers of a base start. -/
def mark : Base → Char
  | hexadecimal => 'x'
  | octal => 'o'
  | binary => 'b'

end Base

/-- The parts of a float. -/
inductive FloatPart where
  | mantissa
  | fraction
  | exponent
deriving DecidableEq, Repr

/-- The name of a part. -/
def FloatPart.label : FloatPart → String
  | mantissa => "mantissa"
  | fraction => "fraction"
  | exponent => "exponent"

/-- The parts of a date and time. -/
inductive MomentPart where
  | date
  | time
  | offset
  | dateTime
deriving DecidableEq, Repr

/-- The name of a part. -/
def MomentPart.label : MomentPart → String
  | date => "date"
  | time => "time"
  | offset => "offset"
  | dateTime => "datetime"

/-- What can be wrong with the form of a document. -/
inductive Flaw where
  | loneCarriageReturn
  | commentCharacter
  | tooDeep
  | unclosedTable
  | unclosedArrayTable (missing : String)
  | unopenedTable
  | contentAfterLine
  | invalidPair
  | keyWithoutValue
  | missingValue
  | extraEquals
  | unopenedInlineTable
  | unopenedArray
  | unclosedArray
  | extraCommaInArray
  | equalsInArray
  | missingCommaInArray
  | unclosedInlineTable
  | extraCommaInTable (wanted : EntryPart)
  | extraAssignment (wanted : EntryPart)
  | missingKey
  | missingAssignment
  | missingCommaInTable
  | invalidElement (wanted : EntryPart)
  | emptyKey
  | keyCharacter
  | multiLineKey (form : StringForm)
  | tooManyKeys
  | unfinishedString (form : StringForm)
  | stringCharacter (form : StringForm)
  | escape
  | escapeTooShort
  | escapeInvalid
  | unquotedString
  | boolean (wanted : String)
  | floatWord (wanted : String)
  | leadingZero
  | redundantSign
  | signedBase
  | upperCaseBase (wanted : Base)
  | redundantBase
  | signAfterBase
  | digit (base : Option Base)
  | underscore
  | floatPart (part : FloatPart)
  | floatRest
  | moment (part : MomentPart) (wanted? : Option String)
  | duplicateKey
  | notExtendable (kind : String)
deriving DecidableEq, Repr

namespace Flaw

/-- The wording of a flaw. -/
def description : Flaw → String
  | loneCarriageReturn => "carriage return must be followed by newline"
  | commentCharacter => "invalid comment character"
  | tooDeep => "cannot recurse further; max recursion depth met"
  | unclosedTable => "unclosed table"
  | unclosedArrayTable _ => "unclosed array table"
  | unopenedTable => "missing table open"
  | contentAfterLine => "unexpected key or value"
  | invalidPair => "invalid key-value pair"
  | keyWithoutValue => "key with no value"
  | missingValue => "missing value for key"
  | extraEquals => "extra `=`"
  | unopenedInlineTable => "missing inline table opening"
  | unopenedArray => "missing array opening"
  | unclosedArray => "unclosed array"
  | extraCommaInArray => "extra comma in array"
  | equalsInArray => "unexpected `=` in array"
  | missingCommaInArray => "missing comma between array elements"
  | unclosedInlineTable => "unclosed inline table"
  | extraCommaInTable _ => "extra comma in inline table"
  | extraAssignment _ => "extra assignment between key-value pairs"
  | missingKey => "missing key for inline table element"
  | missingAssignment => "missing assignment between key-value pairs"
  | missingCommaInTable => "missing comma between key-value pairs"
  | invalidElement _ => "invalid inline table element"
  | emptyKey => "unquoted keys cannot be empty"
  | keyCharacter => "invalid unquoted key"
  | multiLineKey form => s!"keys cannot be {form.label}s"
  | tooManyKeys => "recursion limit"
  | unfinishedString form | stringCharacter form => s!"invalid {form.label}"
  | escape => "missing escaped value"
  | escapeTooShort => "too few unicode value digits"
  | escapeInvalid => "invalid value"
  | unquotedString => "string values must be quoted"
  | boolean _ => "invalid boolean"
  | floatWord _ | floatRest => "invalid float"
  | leadingZero => "unexpected leading zero"
  | redundantSign => "redundant numeric sign"
  | signedBase => "integers with a radix cannot be signed"
  | upperCaseBase _ => "radix must be lowercase"
  | redundantBase => "redundant integer number prefix"
  | signAfterBase => "unexpected sign"
  | digit none => "invalid integer number"
  | digit (some base) => s!"invalid {base.label} number"
  | underscore => "`_` may only go between digits"
  | floatPart part => s!"invalid {part.label}"
  | moment part _ => s!"invalid {part.label}"
  | duplicateKey => "duplicate key"
  | notExtendable kind => s!"cannot extend value of type {kind} with a dotted key"

/-- What is expected where a part comes next. -/
def ofEntryPart : EntryPart → Expected
  | .key => .description "key"
  | .equals => .literal "="
  | .value => .description "value"
  | .comma => .literal ","

/-- What could have stood in the place of a flaw, where that is said. -/
def expected? : Flaw → Option (List Expected)
  | loneCarriageReturn => some [.literal "\n"]
  | commentCharacter => some [.description "printable characters"]
  | unclosedTable | unclosedArray => some [.literal "]"]
  | unclosedArrayTable missing => some [.literal missing]
  | unopenedTable | unopenedArray => some [.literal "["]
  | contentAfterLine => some [.literal "\n", .literal "#"]
  | invalidPair => some [.description "key"]
  | keyWithoutValue | missingValue | missingAssignment => some [.literal "="]
  | extraEquals | leadingZero | redundantSign | signedBase | redundantBase | signAfterBase
  | underscore | floatRest => some []
  | unopenedInlineTable => some [.literal "\x7b"]
  | extraCommaInArray => some [.description "value"]
  | equalsInArray => some [.description "value", .literal "]"]
  | missingCommaInArray | missingCommaInTable => some [.literal ","]
  | unclosedInlineTable => some [.literal "\x7d"]
  | extraCommaInTable wanted | extraAssignment wanted | invalidElement wanted =>
    some [ofEntryPart wanted]
  | missingKey => some [.description "key"]
  | emptyKey | keyCharacter =>
    some [.description "letters", .description "numbers", .literal "-", .literal "_"]
  | multiLineKey _ => some [.description "basic string", .description "literal string"]
  | unfinishedString .basic | unfinishedString .multiLineBasic => some [.literal "\""]
  | unfinishedString .literal | unfinishedString .multiLineLiteral => some [.literal "'"]
  | stringCharacter .basic =>
    some [.description "non-double-quote visible characters", .literal "\\"]
  | stringCharacter .literal => some [.description "non-single-quote visible characters"]
  | stringCharacter .multiLineBasic => some [.literal "\\", .description "characters"]
  | stringCharacter .multiLineLiteral => some [.description "non-single-quote characters"]
  | escape => some (["b", "e", "f", "n", "r", "\\", "\"", "x", "u", "U"].map .literal)
  | escapeTooShort | escapeInvalid => some [.description "unicode hexadecimal value"]
  | unquotedString => some [.description "literal string"]
  | boolean wanted | floatWord wanted => some [.literal wanted]
  | upperCaseBase wanted => some [.literal ("".push wanted.mark)]
  | floatPart _ => some [.description "digits"]
  | moment _ wanted? => wanted?.map fun words => [.description words]
  | tooDeep | tooManyKeys | digit _ | duplicateKey | notExtendable _ => none

/-- The wording of a flaw with what could have stood in its place. -/
def message (f : Flaw) : String :=
  match f.expected? with
  | none => f.description
  | some [] => f.description ++ ", expected nothing"
  | some wanted => f.description ++ ", expected " ++ ", ".intercalate (wanted.map Expected.render)

end Flaw

/-- A flaw and the place where it was found. -/
structure FormError where
  flaw : Flaw
  range? : Option Text.Range
deriving DecidableEq, Repr

namespace FormError

/-- A flaw of the text in a range. -/
def on (flaw : Flaw) (range : Text.Range) : FormError := ⟨flaw, some range⟩

/-- A flaw in front of an offset. -/
def before (flaw : Flaw) (offset : Nat) : FormError := ⟨flaw, some ⟨offset, offset, Nat.le_refl _⟩⟩

end FormError

/-- A message about a document, with the quoted place if there is one. -/
def report (document : List Char) (range? : Option Text.Range) (message : String) : String :=
  (range?.map (excerpt document)).getD "" ++ message ++ "\n"

end JavaNaming.Toml
