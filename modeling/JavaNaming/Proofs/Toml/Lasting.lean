import JavaNaming.Proofs.Toml.Lines
import JavaNaming.Toml.Document

/-!
# What a document keeps

The lines of a document are read from first to last, and each of them may change tables that were
declared before. Here it is shown what no later line takes back. A value that is set keeps its shape:
only a table that stands on the way to others is ever replaced. The names in the outermost table are
kept as well, up to one that is declared anew and comes back with its header.

* `Entries.Holds.descend`: changing a table along a path keeps what is held.
* `Draft.holds_finish`, `Draft.HoldsIn.read`: so does going on with a line.
* `Draft.Mentions.read`, `Draft.has_finish`: the same for the names in the outermost table.
-/

namespace JavaNaming.Toml

/-- What stays of a value: all of a scalar, and how an array or a table came to be. -/
inductive Shape where
  | scalar (s : Scalar)
  | array (ofTables : Bool)
  | table (origin : Origin)
deriving DecidableEq

/-- The shape of a value. -/
def Value.shape : Value → Shape
  | .scalar s => .scalar s
  | .array ofTables _ => .array ofTables
  | .table origin _ => .table origin

theorem Value.eq_scalar_of_shape {value : Value} {s : Scalar} (h : value.shape = .scalar s) :
    value = .scalar s := by
  cases value <;> cases h
  rfl

/-- What is written never stands on the way only. -/
theorem Written.shape_ne_implied {written : Written} {range : Text.Range} {value : Value}
    (h : written.value = .ok (range, value)) : value.shape ≠ .table .implied := by
  cases written with
  | scalar piece =>
    rw [Written.value] at h
    obtain ⟨s, -, h⟩ := bind_eq_ok h
    cases h
    simp [Value.shape]
  | array range items =>
    rw [Written.value] at h
    obtain ⟨values, -, h⟩ := bind_eq_ok h
    cases h
    simp [Value.shape]
  | table range entries =>
    rw [Written.value] at h
    obtain ⟨values, -, h⟩ := bind_eq_ok h
    cases h
    simp [Value.shape]

namespace Entries

/-! ## Finding keys -/

theorem find?_append {entries : Entries} {name : String} {found : Text.Range × Value}
    (h : entries.find? name = some found) (more : Entries) :
    Entries.find? (entries ++ more) name = some found := by
  obtain ⟨e, he, rfl⟩ := Option.map_eq_some_iff.1 h
  simp [find?, List.find?_append, he]

theorem find?_add {entries : Entries} {name : String} {found : Text.Range × Value}
    (h : entries.find? name = some found) (key : Key) (range : Text.Range) (value : Value) :
    (entries.add key range value).find? name = some found :=
  find?_append h _

theorem find?_add_self {entries : Entries} {key : Key} (h : entries.find? key.name = none)
    (range : Text.Range) (value : Value) :
    (entries.add key range value).find? key.name = some (range, value) := by
  rw [find?, Option.map_eq_none_iff] at h
  simp [add, find?, List.find?_append, h]

theorem find?_cons (e : Key × Text.Range × Value) (entries : Entries) (name : String) :
    find? (e :: entries) name = if e.1.name = name then some e.2 else entries.find? name := by
  by_cases h : e.1.name = name <;> simp [find?, h]

theorem find?_replace_of_ne {name other : String} (h : name ≠ other) (entries : Entries)
    (value : Value) : (entries.replace other value).find? name = entries.find? name := by
  induction entries with
  | nil => rfl
  | cons e entries ih =>
    rw [replace, List.map_cons, find?_cons, find?_cons, ← ih]
    by_cases he : e.1.name = other
    · rw [if_pos he, if_neg (by rw [he]; exact h.symm), if_neg (by rw [he]; exact h.symm)]
      rfl
    · rw [if_neg he]
      rfl

theorem find?_replace_self {entries : Entries} {name : String} {found : Text.Range × Value}
    (h : entries.find? name = some found) (value : Value) :
    (entries.replace name value).find? name = some (found.1, value) := by
  induction entries with
  | nil => cases h
  | cons e entries ih =>
    rw [find?_cons] at h
    rw [replace, List.map_cons, find?_cons]
    by_cases he : e.1.name = name
    · rw [if_pos he] at h
      cases h
      simp [he]
    · rw [if_neg he] at h
      rw [if_neg he, if_neg he]
      exact ih h

theorem find?_erase_of_ne {name other : String} (h : name ≠ other) (entries : Entries) :
    (entries.erase other).find? name = entries.find? name := by
  induction entries with
  | nil => rfl
  | cons e entries ih =>
    rw [erase, List.filter_cons, find?_cons, ← ih]
    by_cases he : e.1.name = other
    · rw [if_neg (by simpa using he), if_neg (by rw [he]; exact h.symm)]
      rfl
    · rw [if_pos (by simpa using he), find?_cons]
      rfl

/-! ## One step along a path -/

/-- What a step along a path does to the table in which it starts. -/
inductive Steps (onTheWay : Origin) {α : Type}
    (change : Origin → Entries → Except FormError (Entries × α)) (key : Key) (path : List Key)
    (entries : Entries) (a : α) : Entries → Prop
  | create (child : Entries) : entries.find? key.name = none →
      Steps onTheWay change key path entries a (entries.add key key.range (.table onTheWay child))
  | enter {range : Text.Range} {origin : Origin} {child child' : Entries} :
      entries.find? key.name = some (range, .table origin child) →
      descend onTheWay change path origin child = .ok (child', a) →
      Steps onTheWay change key path entries a (entries.replace key.name (.table origin child'))
  | enterLast {range : Text.Range} {items : List (Text.Range × Value)}
      (items' : List (Text.Range × Value)) :
      entries.find? key.name = some (range, .array true items) →
      Steps onTheWay change key path entries a (entries.replace key.name (.array true items'))

theorem steps_of_descend {onTheWay : Origin} {α : Type}
    {change : Origin → Entries → Except FormError (Entries × α)} {key : Key} {path : List Key}
    {origin : Origin} {entries : Entries} {result : Entries × α}
    (h : descend onTheWay change (key :: path) origin entries = .ok result) :
    Steps onTheWay change key path entries result.2 result.1 := by
  rw [descend] at h
  split at h
  · next hfind =>
    obtain ⟨inner, -, h⟩ := bind_eq_ok h
    cases h
    exact .create inner.1 hfind
  · next range origin' child hfind =>
    dsimp only at h
    by_cases hinline : origin' = .inline
    · rw [if_pos hinline] at h
      cases h
    by_cases hdeclared : onTheWay = .dotted ∧ origin' = .declared
    · rw [if_neg hinline, if_pos hdeclared] at h
      cases h
    rw [if_neg hinline, if_neg hdeclared] at h
    obtain ⟨inner, hinner, h⟩ := bind_eq_ok h
    cases h
    exact .enter hfind hinner
  · next range items hfind =>
    split at h
    · obtain ⟨inner, -, h⟩ := bind_eq_ok h
      cases h
      exact .enterLast _ hfind
    · cases h
  · cases h

/-! ## What is held -/

/-- A table has a key whose value has a shape. The key is given with the names of the tables that lead
to it, each of which was declared, dotted or inline. -/
def Holds (shape : Shape) (name : String) : List String → Entries → Prop
  | [], entries => ∃ range value, entries.find? name = some (range, value) ∧ value.shape = shape
  | n :: path, entries => ∃ range origin child, entries.find? n = some (range, .table origin child) ∧
      origin ≠ .implied ∧ Holds shape name path child

variable {shape : Shape} {name : String}

/-- The key by which a held value is found in the outermost of its tables. -/
def outermost (name : String) (path : List String) : String := path.head?.getD name

theorem Holds.of_find? {path : List String} {entries entries' : Entries}
    (h : Holds shape name path entries)
    (hfind : ∀ found, entries.find? (outermost name path) = some found →
      entries'.find? (outermost name path) = some found) : Holds shape name path entries' := by
  cases path with
  | nil =>
    obtain ⟨range, value, hvalue, hshape⟩ := h
    exact ⟨range, value, hfind _ hvalue, hshape⟩
  | cons n path =>
    obtain ⟨range, origin, child, hchild, horigin, h⟩ := h
    exact ⟨range, origin, child, hfind _ hchild, horigin, h⟩

theorem Holds.add {path : List String} {entries : Entries} (h : Holds shape name path entries)
    (key : Key) (range : Text.Range) (value : Value) :
    Holds shape name path (entries.add key range value) :=
  h.of_find? fun _ hfound => find?_add hfound key range value

/-- A value gives way to one of its shape that holds no less. -/
theorem Holds.replace {path : List String} {entries : Entries} {n : String} {range : Text.Range}
    {old new : Value} (h : Holds shape name path entries) (hfind : entries.find? n = some (range, old))
    (hnew : new.shape = old.shape)
    (hchild : ∀ origin child, old = .table origin child → ∃ child', new = .table origin child' ∧
      ∀ path, Holds shape name path child → Holds shape name path child') :
    Holds shape name path (entries.replace n new) := by
  have hself := find?_replace_self hfind new
  by_cases hn : outermost name path = n
  · subst hn
    cases path with
    | nil =>
      obtain ⟨range', value, hvalue, hshape⟩ := h
      cases hfind.symm.trans hvalue
      exact ⟨_, _, hself, hnew.trans hshape⟩
    | cons n path =>
      obtain ⟨range', origin, child, hfound, horigin, h⟩ := h
      cases hfind.symm.trans hfound
      obtain ⟨child', rfl, hkeeps⟩ := hchild origin child rfl
      exact ⟨_, _, _, hself, horigin, hkeeps path h⟩
  · exact h.of_find? fun _ hfound => (find?_replace_of_ne hn entries _).trans hfound

theorem Holds.replace_table {path : List String} {entries child child' : Entries} {n : String}
    {range : Text.Range} {origin : Origin} (h : Holds shape name path entries)
    (hfind : entries.find? n = some (range, .table origin child))
    (hchild : ∀ path, Holds shape name path child → Holds shape name path child') :
    Holds shape name path (entries.replace n (.table origin child')) := by
  refine h.replace hfind rfl ?_
  rintro _ _ ⟨⟩
  exact ⟨child', rfl, hchild⟩

theorem Holds.replace_array {path : List String} {entries : Entries} {n : String}
    {range : Text.Range} {items : List (Text.Range × Value)} (h : Holds shape name path entries)
    (hfind : entries.find? n = some (range, .array true items))
    (items' : List (Text.Range × Value)) :
    Holds shape name path (entries.replace n (.array true items')) := by
  refine h.replace hfind rfl ?_
  rintro _ _ ⟨⟩

/-- **Changing a table along a path keeps what is held**, if the change itself does. -/
theorem Holds.descend {α : Type} {onTheWay : Origin}
    {change : Origin → Entries → Except FormError (Entries × α)}
    (hchange : ∀ path origin entries result, Holds shape name path entries →
      change origin entries = .ok result → Holds shape name path result.1)
    {keys : List Key} {origin : Origin} {path : List String} {entries : Entries}
    {result : Entries × α} (h : Holds shape name path entries)
    (hresult : descend onTheWay change keys origin entries = .ok result) :
    Holds shape name path result.1 := by
  induction keys generalizing origin path entries result with
  | nil => exact hchange path origin entries result h hresult
  | cons key keys ih =>
    obtain ⟨entries', a⟩ := result
    cases steps_of_descend hresult with
    | create child _ => exact h.add key _ _
    | enter hfind hchild => exact h.replace_table hfind fun path hpath => ih hpath hchild
    | enterLast items' hfind => exact h.replace_array hfind items'

/-- Setting a key keeps what is held. -/
theorem Holds.set {path : List String} {entries entries' : Entries} {origin : Origin}
    {keys : List Key} {key : Key} {range : Text.Range} {value : Value}
    (h : Holds shape name path entries)
    (hset : entries.set origin keys key range value = .ok entries') :
    Holds shape name path entries' := by
  obtain ⟨result, hresult, hset⟩ := bind_eq_ok hset
  cases hset
  refine Holds.descend ?_ h hresult
  intro path origin entries result h hchange
  split at hchange
  · cases hchange
  · split at hchange
    · cases hchange
    · cases hchange
      exact h.add key range value

/-- What is held does not stand on the way only. -/
theorem Holds.not_implied (hshape : shape ≠ .table .implied) {path : List String}
    {entries child : Entries} (h : Holds shape name path entries) (range : Text.Range) :
    entries.find? (outermost name path) ≠ some (range, .table .implied child) := by
  intro hfind
  cases path with
  | nil =>
    obtain ⟨range', value, hvalue, rfl⟩ := h
    cases hfind.symm.trans hvalue
    exact hshape rfl
  | cons n path =>
    obtain ⟨range', origin, child', hfound, horigin, -⟩ := h
    cases hfind.symm.trans hfound
    exact horigin rfl

/-! ## Names -/

/-- A table has a key. -/
def Has (entries : Entries) (name : String) : Prop := ∃ found, entries.find? name = some found

theorem Has.add {entries : Entries} (h : entries.Has name) (key : Key) (range : Text.Range)
    (value : Value) : (entries.add key range value).Has name := by
  obtain ⟨found, hfound⟩ := h
  exact ⟨found, find?_add hfound key range value⟩

theorem has_add_self (entries : Entries) (key : Key) (range : Text.Range) (value : Value) :
    (entries.add key range value).Has key.name := by
  cases h : entries.find? key.name with
  | none => exact ⟨(range, value), find?_add_self h range value⟩
  | some found => exact ⟨found, find?_add h key range value⟩

theorem Has.replace {entries : Entries} (h : entries.Has name) (other : String) (value : Value) :
    (entries.replace other value).Has name := by
  obtain ⟨found, hfound⟩ := h
  by_cases hname : name = other
  · subst hname
    exact ⟨_, find?_replace_self hfound value⟩
  · exact ⟨found, (find?_replace_of_ne hname entries value).trans hfound⟩

/-- A step along a path keeps the names, and adds the one of the step. -/
theorem Steps.has {onTheWay : Origin} {α : Type}
    {change : Origin → Entries → Except FormError (Entries × α)} {key : Key} {path : List Key}
    {entries entries' : Entries} {a : α} (h : Steps onTheWay change key path entries a entries')
    (hname : entries.Has name ∨ key.name = name) : entries'.Has name := by
  cases h with
  | create child _ =>
    rcases hname with hname | rfl
    · exact hname.add key _ _
    · exact has_add_self entries key _ _
  | enter hfind _ =>
    rcases hname with hname | rfl
    · exact hname.replace key.name _
    · exact ⟨_, find?_replace_self hfind _⟩
  | enterLast items' hfind =>
    rcases hname with hname | rfl
    · exact hname.replace key.name _
    · exact ⟨_, find?_replace_self hfind _⟩

/-- Setting a key keeps the names, and adds the first part of the key. -/
theorem has_set {entries entries' : Entries} {origin : Origin} {path : List Key} {key : Key}
    {range : Text.Range} {value : Value}
    (hset : entries.set origin path key range value = .ok entries')
    (hname : entries.Has name ∨ (path.head?.getD key).name = name) : entries'.Has name := by
  obtain ⟨result, hresult, hset⟩ := bind_eq_ok hset
  cases hset
  cases path with
  | cons first path => exact (steps_of_descend hresult).has hname
  | nil =>
    rw [descend] at hresult
    split at hresult
    · cases hresult
    · split at hresult
      · cases hresult
      · cases hresult
        rcases hname with hname | rfl
        · exact hname.add key range value
        · exact has_add_self entries key range value

end Entries

/-! ## Documents -/

namespace Draft

open Entries (Holds Has)

variable {shape : Shape} {name table : String}

theorem holds_claim (hshape : shape ≠ .table .implied) {key : Key} {path : List String}
    {entries : Entries} {result : Entries × Entries} (h : Holds shape name path entries)
    (hclaim : claim key entries = .ok result) : Holds shape name path result.1 := by
  rw [claim] at hclaim
  split at hclaim
  · cases hclaim
    exact h
  · next range child hfind =>
    cases hclaim
    refine h.of_find? fun found hfound => ?_
    have hne : Entries.outermost name path ≠ key.name := by
      intro heq
      exact h.not_implied hshape range (heq ▸ hfind)
    rw [Entries.find?_erase_of_ne hne]
    exact hfound
  · cases hclaim

theorem holds_append {header : Header} {value : Value} {path : List String}
    {entries entries' : Entries} (h : Holds shape name path entries)
    (happend : append entries header value = .ok entries') : Holds shape name path entries' := by
  rw [append] at happend
  split at happend
  · cases happend
    exact h.add header.key _ _
  · next range items hfind =>
    cases happend
    exact h.replace_array hfind _
  · cases happend

/-- Putting the entries of the last header in their place keeps what the document holds. -/
theorem holds_finish {d : Draft} {header : Header} {path : List String} {root : Entries}
    (hheader : d.header? = some header) (h : Holds shape name path d.root)
    (hfinish : d.finish = .ok root) : Holds shape name path root := by
  rw [finish, hheader] at hfinish
  obtain ⟨result, hresult, hfinish⟩ := bind_eq_ok hfinish
  cases hfinish
  refine Holds.descend ?_ h hresult
  intro path origin entries result h hchange
  dsimp only at hchange
  split at hchange
  · obtain ⟨entries', happend, hchange⟩ := bind_eq_ok hchange
    cases hchange
    exact holds_append h happend
  · cases hchange
    exact h.add header.key _ _

/-- The document holds a key of one of its tables: among the entries of the only header so far, or in
the outermost table. -/
def HoldsIn (shape : Shape) (name table : String) (d : Draft) : Prop :=
  (∃ range key, d.root = [] ∧ d.header? = some ⟨range, [], key, false⟩ ∧ key.name = table ∧
    Holds shape name [] d.entries) ∨
  ∃ header, d.header? = some header ∧ Holds shape name [table] d.root

theorem HoldsIn.finish {d : Draft} (h : d.HoldsIn shape name table) {root : Entries}
    (hfinish : d.finish = .ok root) : Holds shape name [table] root := by
  rcases h with ⟨range, key, hroot, hheader, rfl, h⟩ | ⟨header, hheader, h⟩
  · rw [Draft.finish, hheader, hroot] at hfinish
    cases hfinish
    exact ⟨range, .declared, d.entries, Entries.find?_add_self rfl _ _, by simp, h⟩
  · exact holds_finish hheader h hfinish

/-- **Going on with a line keeps what the document holds.** -/
theorem HoldsIn.read (hshape : shape ≠ .table .implied) {d d' : Draft}
    (h : d.HoldsIn shape name table) {line : Line} (hread : d.read line = .ok d') :
    d'.HoldsIn shape name table := by
  have hdeclare : ∀ {range pieces ofArray}, d.declare range pieces ofArray = .ok d' →
      d'.HoldsIn shape name table := by
    intro range pieces ofArray hdeclare
    obtain ⟨root, hfinish, hdeclare⟩ := bind_eq_ok hdeclare
    obtain ⟨⟨path, key⟩, -, hdeclare⟩ := bind_eq_ok hdeclare
    have hroot := h.finish hfinish
    cases ofArray with
    | true =>
      obtain ⟨result, hresult, hdeclare⟩ := bind_eq_ok hdeclare
      cases hdeclare
      refine .inr ⟨_, rfl, Holds.descend ?_ hroot hresult⟩
      intro path origin entries result h hchange
      cases hchange
      exact h
    | false =>
      obtain ⟨result, hresult, hdeclare⟩ := bind_eq_ok hdeclare
      cases hdeclare
      refine .inr ⟨_, rfl, Holds.descend ?_ hroot hresult⟩
      intro path origin entries result h hchange
      exact holds_claim hshape h hchange
  cases line with
  | table range pieces => exact hdeclare hread
  | arrayTable range pieces => exact hdeclare hread
  | entry pieces written =>
    obtain ⟨⟨path, key⟩, -, hread⟩ := bind_eq_ok hread
    obtain ⟨⟨range, value⟩, -, hread⟩ := bind_eq_ok hread
    obtain ⟨entries, hset, hread⟩ := bind_eq_ok hread
    cases hread
    rcases h with ⟨range', key', hroot, hheader, hkey, h⟩ | ⟨header, hheader, h⟩
    · exact .inl ⟨range', key', hroot, hheader, hkey, h.set hset⟩
    · exact .inr ⟨header, hheader, h⟩

/-! ## Names in the outermost table -/

theorem has_append {header : Header} {value : Value} {entries entries' : Entries}
    (happend : append entries header value = .ok entries')
    (hname : entries.Has name ∨ header.key.name = name) : entries'.Has name := by
  rw [append] at happend
  split at happend
  · cases happend
    rcases hname with hname | rfl
    · exact hname.add header.key _ _
    · exact Entries.has_add_self entries header.key _ _
  · next range items hfind =>
    cases happend
    rcases hname with hname | rfl
    · exact hname.replace header.key.name _
    · exact ⟨_, Entries.find?_replace_self hfind _⟩
  · cases happend

/-- The outermost table of a document has a key, or gets it with the last header. -/
def Mentions (name : String) (d : Draft) : Prop :=
  (d.header? = none ∧ d.entries.Has name) ∨
  ∃ header, d.header? = some header ∧
    (d.root.Has name ∨ (header.path.head?.getD header.key).name = name)

theorem Mentions.finish {d : Draft} (h : d.Mentions name) {root : Entries}
    (hfinish : d.finish = .ok root) : root.Has name := by
  rcases h with ⟨hheader, h⟩ | ⟨⟨range, path, key, ofArray⟩, hheader, h⟩
  · rw [Draft.finish, hheader] at hfinish
    cases hfinish
    exact h
  · rw [Draft.finish, hheader] at hfinish
    obtain ⟨result, hresult, hfinish⟩ := bind_eq_ok hfinish
    cases hfinish
    cases path with
    | cons first path => exact (Entries.steps_of_descend hresult).has h
    | nil =>
      rw [Entries.descend] at hresult
      dsimp only at hresult
      split at hresult
      · obtain ⟨entries', happend, hresult⟩ := bind_eq_ok hresult
        cases hresult
        exact has_append happend h
      · cases hresult
        rcases h with h | rfl
        · exact h.add key _ _
        · exact Entries.has_add_self d.root key _ _

theorem has_claim {key : Key} {entries : Entries} {result : Entries × Entries}
    (hclaim : claim key entries = .ok result) (hname : entries.Has name) :
    result.1.Has name ∨ key.name = name := by
  rw [claim] at hclaim
  split at hclaim
  · cases hclaim
    exact .inl hname
  · cases hclaim
    by_cases hkey : key.name = name
    · exact .inr hkey
    · obtain ⟨found, hfound⟩ := hname
      exact .inl ⟨found, (Entries.find?_erase_of_ne (Ne.symm hkey) entries).trans hfound⟩
  · cases hclaim

/-- A header mentions its own name, and keeps those that were mentioned. -/
theorem mentions_declare {d d' : Draft} {range : Text.Range} {pieces : List Piece}
    {ofArray : Bool} (hdeclare : d.declare range pieces ofArray = .ok d')
    (hname : d.Mentions name ∨
      ∃ path key, pathOf pieces = .ok (path, key) ∧ (path.head?.getD key).name = name) :
    d'.Mentions name := by
  obtain ⟨root, hfinish, hdeclare⟩ := bind_eq_ok hdeclare
  obtain ⟨⟨path, key⟩, hpath, hdeclare⟩ := bind_eq_ok hdeclare
  have hfirst : root.Has name ∨ (path.head?.getD key).name = name := by
    rcases hname with hname | ⟨path', key', hpath', hname⟩
    · exact .inl (hname.finish hfinish)
    · cases hpath.symm.trans hpath'
      exact .inr hname
  cases ofArray with
  | true =>
    obtain ⟨result, hresult, hdeclare⟩ := bind_eq_ok hdeclare
    cases hdeclare
    refine .inr ⟨_, rfl, hfirst.imp_left fun hroot => ?_⟩
    cases path with
    | nil =>
      cases hresult
      exact hroot
    | cons first path => exact (Entries.steps_of_descend hresult).has (.inl hroot)
  | false =>
    obtain ⟨result, hresult, hdeclare⟩ := bind_eq_ok hdeclare
    cases hdeclare
    refine .inr ⟨_, rfl, hfirst.elim (fun hroot => ?_) .inr⟩
    cases path with
    | nil => exact has_claim hresult hroot
    | cons first path => exact .inl ((Entries.steps_of_descend hresult).has (.inl hroot))

/-- **Going on with a line keeps the names in the outermost table.** -/
theorem Mentions.read {d d' : Draft} (h : d.Mentions name) {line : Line}
    (hread : d.read line = .ok d') : d'.Mentions name := by
  cases line with
  | table range pieces => exact mentions_declare hread (.inl h)
  | arrayTable range pieces => exact mentions_declare hread (.inl h)
  | entry pieces written =>
    obtain ⟨⟨path, key⟩, -, hread⟩ := bind_eq_ok hread
    obtain ⟨⟨range, value⟩, -, hread⟩ := bind_eq_ok hread
    obtain ⟨entries, hset, hread⟩ := bind_eq_ok hread
    cases hread
    rcases h with ⟨hheader, h⟩ | ⟨header, hheader, h⟩
    · exact .inl ⟨hheader, Entries.has_set hset (.inl h)⟩
    · exact .inr ⟨header, hheader, h⟩

end Draft

end JavaNaming.Toml
