import JavaNaming.Text.Similarity

/-!
# Arguments of the command

`Request.ofArguments` reads the arguments of the command line. Flags have a long name after two dashes and
a letter after one, and letters can be joined. A value follows its flag, or is attached to it. What is
no flag is a path, and so is everything after two dashes alone.
-/

namespace JavaNaming.Command

/-- The flags of the command. -/
inductive Flag where
  | config
  | jobs
  | quiet
  | verbose
  | help
  | version
deriving DecidableEq, Repr

namespace Flag

/-- The flags in the order in which they are listed. -/
def all : List Flag := [.config, .jobs, .quiet, .verbose, .help, .version]

/-- The long name. -/
def name : Flag → String
  | .config => "config"
  | .jobs => "jobs"
  | .quiet => "quiet"
  | .verbose => "verbose"
  | .help => "help"
  | .version => "version"

/-- The letter. -/
def letter : Flag → Char
  | .config => 'c'
  | .jobs => 'j'
  | .quiet => 'q'
  | .verbose => 'v'
  | .help => 'h'
  | .version => 'V'

/-- The word for the value, if there has to be one. -/
def placeholder? : Flag → Option String
  | .config => some "FILE"
  | .jobs => some "N"
  | _ => none

/-- A flag with its value, as it is written. -/
def usage (f : Flag) : String :=
  match f.placeholder? with
  | some word => s!"--{f.name} <{word}>"
  | none => s!"--{f.name}"

/-- The flag with a given long name. -/
def ofName? (name : String) : Option Flag := all.find? (·.name = name)

/-- The flag with a given letter. -/
def ofLetter? (c : Char) : Option Flag := all.find? (·.letter = c)

end Flag

/-- What is asked for: a flag, or the paths. -/
inductive Item where
  | flag (f : Flag)
  | paths
deriving DecidableEq, Repr

/-- An item, as it is written. -/
def Item.usage : Item → String
  | .flag f => f.usage
  | .paths => "[PATHS]..."

/-! ## Errors -/

/-- Why a text is no number. -/
inductive CountError where
  | empty
  | digit
  | tooLarge
deriving DecidableEq, Repr

/-- The wording of the error. -/
def CountError.message : CountError → String
  | empty => "cannot parse integer from empty string"
  | digit => "invalid digit found in string"
  | tooLarge => "number too large to fit in target type"

/-- Why arguments are not accepted. `used` has the items that were read before. -/
inductive ArgumentError where
  | missingValue (item : Item)
  | invalidCount (flag : Flag) (value : String) (e : CountError)
  | repeated (flag : Flag)
  | conflict (flag other : Flag) (used : List Item)
  | unexpectedValue (flag : Flag) (value : String) (used : List Item)
  | unknownLetter (c : Char)
  | unknownName (name : String) (similar? : Option Flag) (used : List Item)
deriving DecidableEq, Repr

/-- The name of the command. -/
def commandName : String := "stylecheck"

/-- How the command is used, with the flags that were given. -/
def usageLine (used : List Item) : String :=
  let words :=
    if used.isEmpty then ["[OPTIONS]"]
    else (used.filter (· ≠ .paths)).eraseDups.map Item.usage
  " ".intercalate (["Usage:", commandName] ++ words ++ [Item.paths.usage])

namespace ArgumentError

/-- What is wrong. -/
def reason : ArgumentError → String
  | missingValue item => s!"a value is required for '{item.usage}' but none was supplied"
  | invalidCount flag value e => s!"invalid value '{value}' for '{flag.usage}': {e.message}"
  | repeated flag => s!"the argument '{flag.usage}' cannot be used multiple times"
  | conflict flag other _ => s!"the argument '{flag.usage}' cannot be used with '{other.usage}'"
  | unexpectedValue flag value _ =>
    s!"unexpected value '{value}' for '{flag.usage}' found; no more were expected"
  | unknownLetter c => s!"unexpected argument '-{c}' found"
  | unknownName name _ _ => s!"unexpected argument '--{name}' found"

/-- What could be done about it. -/
def tip? : ArgumentError → Option String
  | unknownLetter c => some s!"to pass '-{c}' as a value, use '-- -{c}'"
  | unknownName name none _ => some s!"to pass '--{name}' as a value, use '-- --{name}'"
  | unknownName _ (some flag) _ => some s!"a similar argument exists: '--{flag.name}'"
  | _ => none

/-- How the command is used, where that is shown. -/
def usage? : ArgumentError → Option String
  | missingValue _ | invalidCount .. => none
  | repeated _ | unknownLetter _ => some (usageLine [])
  | conflict _ _ used | unexpectedValue _ _ used | unknownName _ _ used => some (usageLine used)

/-- The wording of the error. -/
def message (e : ArgumentError) : String :=
  s!"error: {e.reason}\n\n" ++ (e.tip?.map fun t => s!"  tip: {t}\n\n").getD "" ++
    (e.usage?.map fun u => s!"{u}\n\n").getD "" ++ "For more information, try '--help'.\n"

end ArgumentError

/-! ## Reading -/

/-- What the command is to do. -/
structure Options where
  paths : List String
  config? : Option String
  jobs? : Option Nat
  quiet : Bool
  verbose : Bool
deriving DecidableEq, Repr

/-- What the arguments ask for. -/
inductive Request where
  | help
  | version
  | check (o : Options)
deriving DecidableEq, Repr

/-- What was read so far. -/
structure State where
  options : Options
  /-- The items that were read, in order. -/
  used : List Item
  /-- An item whose values are not looked at yet, because more may follow. -/
  pending? : Option (Item × List String)
  /-- Whether the pending item still needs a value. -/
  waiting : Bool

/-- How reading ends early. -/
inductive Stop where
  | error (e : ArgumentError)
  | help
  | version

/-- The largest number of jobs. -/
def countLimit : Nat := 18446744073709551616

/-- The number that digits write, after those that write `n`. -/
def countFrom (n : Nat) : List Char → Except CountError Nat
  | [] => .ok n
  | c :: cs =>
    if c.isDigit then
      let m := 10 * n + (c.toNat - '0'.toNat)
      if m < countLimit then countFrom m cs else .error .tooLarge
    else .error .digit

/-- A text as a number. -/
def count (text : List Char) : Except CountError Nat :=
  match text with
  | [] => .error .empty
  | ['+'] => .error .digit
  | '+' :: cs => countFrom 0 cs
  | cs => countFrom 0 cs

namespace State

/-- Nothing read. -/
def start : State := ⟨⟨[], none, none, false, false⟩, [], none, false⟩

/-- Note that an item was read. -/
def use (s : State) (item : Item) : State :=
  { s with used := if s.used.contains item then s.used else s.used ++ [item] }

/-- Set a flag that has no value. -/
def setFlag (s : State) (flag : Flag) : State :=
  match flag with
  | .quiet => { s with options := { s.options with quiet := true } }
  | .verbose => { s with options := { s.options with verbose := true } }
  | _ => s

/-- Set a flag to a value. -/
def setValue (s : State) (flag : Flag) (value : String) : Except Stop State :=
  match flag with
  | .config =>
    if value = "" then throw (.error (.missingValue (.flag flag)))
    else return { s with options := { s.options with config? := some value } }
  | _ =>
    match count value.toList with
    | .ok n => return { s with options := { s.options with jobs? := some n } }
    | .error e => throw (.error (.invalidCount flag value e))

/-- Take the values of an item. -/
def take (s : State) (item : Item) (values : List String) : Except Stop State :=
  match item, values with
  | .paths, values =>
    if values.contains "" then throw (.error (.missingValue .paths))
    else
      return { s.use .paths with
        options := { s.options with paths := s.options.paths ++ values } }
  | .flag flag, [] => throw (.error (.missingValue (.flag flag)))
  | .flag flag, value :: _ =>
    if s.used.contains item then throw (.error (.repeated flag))
    else (s.use item).setValue flag value

/-- Take the values of the pending item. -/
def settle (s : State) : Except Stop State :=
  match s.pending? with
  | none => return s
  | some (item, values) =>
    { s with pending? := none, waiting := false }.take item values

/-- The items that were read, with the pending one if its values are there. A flag that is repeated is
taken away. -/
def usedNow (s : State) : List Item :=
  match s.pending? with
  | none => s.used
  | some (.flag _, []) => s.used
  | some (.flag flag, _) =>
    if s.used.contains (.flag flag) then s.used.filter (· ≠ .flag flag)
    else s.used ++ [.flag flag]
  | some (.paths, _) => (s.use .paths).used

/-- Read a flag, with the value that is attached to it. -/
def readFlag (s : State) (flag : Flag) (attached? : Option String) : Except Stop State := do
  let s ← s.settle
  match flag with
  | .help => throw .help
  | .version => throw .version
  | .config | .jobs =>
    match attached? with
    | some value => s.take (.flag flag) [value]
    | none => return { s with pending? := some (.flag flag, []), waiting := true }
  | .quiet | .verbose =>
    if s.used.contains (.flag flag) then throw (.error (.repeated flag))
    else return (s.use (.flag flag)).setFlag flag

/-- Read letters after a dash. What follows a letter that needs a value is its value. -/
def readLetters (s : State) : List Char → Except Stop State
  | [] => return s
  | c :: cs =>
    match Flag.ofLetter? c with
    | none => throw (.error (.unknownLetter c))
    | some flag =>
      if flag.placeholder?.isSome then
        match cs with
        | [] => s.readFlag flag none
        | '=' :: value => s.readFlag flag (some (String.ofList value))
        | value => s.readFlag flag (some (String.ofList value))
      else do (← s.readFlag flag none).readLetters cs

/-- Read a long name, with the value after the equals sign. -/
def readName (s : State) (name : String) (value? : Option String) : Except Stop State :=
  match Flag.ofName? name with
  | some flag =>
    match value? with
    | none => s.readFlag flag none
    | some value =>
      if flag.placeholder?.isSome then s.readFlag flag (some value)
      else throw (.error (.unexpectedValue flag value (s.used ++ [.flag flag])))
  | none =>
    let similar? := (Text.mostSimilar? name.toList (Flag.all.map Flag.name)).bind Flag.ofName?
    let s := { s with used := s.usedNow, pending? := none }
    let used := ((similar?.map fun f => (s.use (.flag f)).used).getD s.used)
    throw (.error (.unknownName name similar? used))

/-- Read a path. -/
def readPath (s : State) (path : String) : Except Stop State :=
  match s.pending? with
  | some (.paths, paths) => return { s with pending? := some (.paths, paths ++ [path]) }
  | _ => do return { ← s.settle with pending? := some (.paths, [path]) }

/-- Read a text that is a value or a path. -/
def readPlain (s : State) (text : String) : Except Stop State :=
  match s.waiting, s.pending? with
  | true, some (item, values) =>
    return { s with pending? := some (item, values ++ [text]), waiting := false }
  | _, _ => s.readPath text

/-- The text before the first equals sign, and the text after it if there is one. -/
def splitEquals (text : List Char) : String × Option String :=
  let value? :=
    match text.dropWhile (· ≠ '=') with
    | _ :: value => some (String.ofList value)
    | [] => none
  (String.ofList (text.takeWhile (· ≠ '=')), value?)

/-- Read one argument. -/
def readArgument (s : State) (arg : String) : Except Stop State :=
  match arg.toList with
  | '-' :: '-' :: text => s.readName (splitEquals text).1 (splitEquals text).2
  | '-' :: c :: cs => s.readLetters (c :: cs)
  | _ => s.readPlain arg

/-- Read arguments. After two dashes alone all are paths. -/
def read (s : State) : List String → Except Stop State
  | [] => s.settle
  | arg :: args => do
    if arg = "--" then (← args.foldlM readPath s).settle
    else (← s.readArgument arg).read args

end State

/-- The path that stands for all others if none is given. -/
def standardPath : String := "."

namespace Request

/-- The request of the options that were read. Two of the flags cannot be used together. -/
def ofState (s : State) : Except ArgumentError Request :=
  if s.options.quiet && s.options.verbose then
    let flags := s.used.filter fun i => i = .flag .quiet ∨ i = .flag .verbose
    let (flag, other) :=
      if flags.head? = some (.flag .verbose) then (Flag.verbose, Flag.quiet)
      else (Flag.quiet, Flag.verbose)
    .error (.conflict flag other (s.used.filter (· ≠ .flag other)))
  else
    let paths := if s.options.paths.isEmpty then [standardPath] else s.options.paths
    .ok (.check { s.options with paths := paths })

/-- The request of the arguments of the command. -/
def ofArguments (args : List String) : Except ArgumentError Request :=
  match State.start.read args with
  | .ok s => ofState s
  | .error (.error e) => .error e
  | .error .help => .ok .help
  | .error .version => .ok .version

end Request

end JavaNaming.Command
