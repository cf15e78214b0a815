import JavaNaming.Toml.Scalar

/-!
# TOML documents

`Document.read` gives the table that a document stands for. The form of the whole document is looked at
first, then keys and values in their order. A key can be set once in its table, and a table can be
declared once. Tables that only stand on the way to others can be declared later.
-/

namespace JavaNaming.Toml

open Text (Range)

/-- A key and where it is written. -/
structure Key where
  name : String
  range : Range
deriving DecidableEq, Repr

/-- How a table came to be. -/
inductive Origin where
  /-- It stands on the way to the table of a header. -/
  | implied
  /-- It stands on the way to the last part of a dotted key. -/
  | dotted
  /-- It has a header of its own, or is the document. -/
  | declared
  /-- It is written in braces. -/
  | inline
deriving DecidableEq, Repr

/-- A value. Parts of a value come with the place where they are written. -/
inductive Value where
  | scalar (s : Scalar)
  | array (ofTables : Bool) (items : List (Range × Value))
  | table (origin : Origin) (entries : List (Key × Range × Value))

/-- The entries of a table, in the order in which they were set. -/
abbrev Entries := List (Key × Range × Value)

/-- The name of a kind of scalars. -/
def Scalar.kind : Scalar → String
  | .string _ => "string"
  | .integer _ => "integer"
  | .float _ => "float"
  | .boolean _ => "boolean"
  | .moment => "datetime"

/-- The name of a kind of values. -/
def Value.kind : Value → String
  | .scalar s => s.kind
  | .array .. => "array"
  | .table .inline _ => "inline table"
  | .table .. => "table"

namespace Entries

/-- The place and value that a key has. -/
def find? (entries : Entries) (name : String) : Option (Range × Value) :=
  (List.find? (fun e => e.1.name = name) entries).map (·.2)

/-- The entries without a key. -/
def erase (entries : Entries) (name : String) : Entries :=
  entries.filter (fun e => e.1.name ≠ name)

/-- Give a key that is set another value. -/
def replace (entries : Entries) (name : String) (value : Value) : Entries :=
  entries.map fun e => if e.1.name = name then (e.1, e.2.1, value) else e

/-- Set a key that is not set. -/
def add (entries : Entries) (key : Key) (range : Range) (value : Value) : Entries :=
  entries ++ [(key, range, value)]

/-- Change the table at the end of a path, and create the tables on the way that are missing. The path
leads into the last table of an array of tables. -/
def descend {α : Type} (onTheWay : Origin)
    (change : Origin → Entries → Except FormError (Entries × α)) :
    List Key → Origin → Entries → Except FormError (Entries × α)
  | [], origin, entries => change origin entries
  | key :: path, _, entries =>
    match entries.find? key.name with
    | none => do
      let (child, a) ← descend onTheWay change path onTheWay []
      return (entries.add key key.range (.table onTheWay child), a)
    | some (_, .table origin child) => do
      if origin = .inline then throw (.on (.notExtendable "inline table") key.range)
      if onTheWay = .dotted ∧ origin = .declared then throw (.on .duplicateKey key.range)
      let (child, a) ← descend onTheWay change path origin child
      return (entries.replace key.name (.table origin child), a)
    | some (_, .array true items) =>
      match items.getLast? with
      | some (range, .table origin child) => do
        let (child, a) ← descend onTheWay change path origin child
        let items := items.dropLast ++ [(range, .table origin child)]
        return (entries.replace key.name (.array true items), a)
      | _ => throw (.on (.notExtendable "array") key.range)
    | some (_, value) => throw (.on (.notExtendable value.kind) key.range)

/-- Set the value of a dotted key with the parts `path` and, as its last one, `key`. -/
def set (entries : Entries) (origin : Origin) (path : List Key) (key : Key) (range : Range)
    (value : Value) : Except FormError Entries := do
  let (entries, _) ← descend .dotted
    (fun origin entries =>
      -- a key without dots belongs to a table of another kind than a dotted one
      if (origin = .dotted) = (path = []) then throw (.on .duplicateKey key.range)
      else if (entries.find? key.name).isSome then throw (.on .duplicateKey key.range)
      else pure (entries.add key range value, ()))
    path origin entries
  return entries

end Entries

/-! ## Values -/

/-- How many parts may stand in front of the last part of a dotted key. -/
def pathLimit : Nat := 80

/-- The keys that pieces stand for. -/
def keysOf (pieces : List Piece) : Except FormError (List Key) := do
  let keys ← pieces.mapM fun p => do
    let name ← p.key
    return (⟨String.ofList name, p.range⟩ : Key)
  if pathLimit < keys.length then throw ⟨.tooManyKeys, none⟩ else return keys

/-- A dotted key as the path to its last part and the last part. -/
def splitLast : List Key → Option (List Key × Key)
  | [] => none
  | [key] => some ([], key)
  | key :: keys => (splitLast keys).map fun (path, last) => (key :: path, last)

/-- The path and the last part that pieces stand for. -/
def pathOf (pieces : List Piece) : Except FormError (List Key × Key) := do
  match splitLast (← keysOf pieces) with
  | some split => return split
  | none => throw ⟨.emptyKey, none⟩

mutual

/-- The value of what is written, and its place. -/
def Written.value : Written → Except FormError (Range × Value)
  | .scalar piece => do return (piece.range, .scalar (← piece.scalar))
  | .array range items => do return (range, .array false (← itemValues items))
  | .table range entries => do return (range, .table .inline (← entryValues entries []))

/-- The values of the elements of an array. -/
def itemValues : List Written → Except FormError (List (Range × Value))
  | [] => .ok []
  | item :: items => do
    let value ← item.value
    return value :: (← itemValues items)

/-- The entries of an inline table, after those that are set. -/
def entryValues : List (List Piece × Written) → Entries → Except FormError Entries
  | [], done => .ok done
  | (pieces, written) :: entries, done => do
    let (path, key) ← pathOf pieces
    let (range, value) ← written.value
    entryValues entries (← done.set .inline path key range value)

end

/-! ## Documents -/

/-- A header: its place, the path and the last part of its key, and whether it declares an element of
an array of tables. -/
structure Header where
  range : Range
  path : List Key
  key : Key
  ofArray : Bool

/-- What is known of a document after some of its lines. The entries of the last header are kept apart
until the next one. -/
structure Draft where
  root : Entries
  header? : Option Header
  entries : Entries

namespace Draft

/-- The document before its first line. -/
def start : Draft := ⟨[], none, []⟩

/-- Put a table at the end of an array of tables. -/
def append (entries : Entries) (header : Header) (table : Value) : Except FormError Entries :=
  match entries.find? header.key.name with
  | none => .ok (entries.add header.key header.key.range (.array true [(header.range, table)]))
  | some (_, .array true items) =>
    .ok (entries.replace header.key.name (.array true (items ++ [(header.range, table)])))
  | some _ => .error (.on .duplicateKey header.key.range)

/-- The entries of the document with those of the last header in their place. -/
def finish (d : Draft) : Except FormError Entries :=
  match d.header? with
  | none => .ok d.entries
  | some header => do
    let table := Value.table .declared d.entries
    let (root, _) ← Entries.descend .implied
      (fun _ entries => do
        let entries ←
          if header.ofArray then append entries header table
          else pure (entries.add header.key header.range table)
        return (entries, ()))
      header.path .declared d.root
    return root

/-- Take away the table that a header declares, if it stands on the way to other tables only. -/
def claim (key : Key) (entries : Entries) : Except FormError (Entries × Entries) :=
  match entries.find? key.name with
  | none => .ok (entries, [])
  | some (_, .table .implied child) => .ok (entries.erase key.name, child)
  | some _ => .error (.on .duplicateKey key.range)

/-- Go on with a header. -/
def declare (d : Draft) (range : Range) (pieces : List Piece) (ofArray : Bool) :
    Except FormError Draft := do
  let root ← d.finish
  let (path, key) ← pathOf pieces
  let header : Header := ⟨range, path, key, ofArray⟩
  if ofArray then
    let (root, _) ← Entries.descend .implied (fun _ entries => pure (entries, ())) path .declared root
    return ⟨root, some header, []⟩
  else
    let (root, entries) ← Entries.descend .implied (fun _ entries => claim key entries) path
      .declared root
    return ⟨root, some header, entries⟩

/-- Go on with a line. -/
def read (d : Draft) : Line → Except FormError Draft
  | .table range pieces => d.declare range pieces false
  | .arrayTable range pieces => d.declare range pieces true
  | .entry pieces written => do
    let (path, key) ← pathOf pieces
    let (range, value) ← written.value
    return { d with entries := ← d.entries.set .declared path key range value }

end Draft

namespace Document

/-- The entries of a document. -/
def read (document : List Char) : Except FormError Entries := do
  let lines ← Line.ofTokens (Token.ofText document)
  let draft ← lines.foldlM Draft.read Draft.start
  draft.finish

end Document

end JavaNaming.Toml
