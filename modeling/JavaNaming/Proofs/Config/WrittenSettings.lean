import JavaNaming.Config.Load
import JavaNaming.Proofs.Toml.TableDocument
import Mathlib.Data.List.Nodup
import Mathlib.Data.List.Perm.Basic

/-!
# Settings as they are written

A settings document gives new values to some of the conventions, one line for each of them under the
header of the table for names. However its strings are spelled and in whatever order its lines stand,
it is read as the standard conventions with these values. A document that starts like this and goes on
with a key that is not known is an error, no matter what follows.

* `Field.put`, `foldlM_setEntry`: without errors, reading a table puts its strings one by one.
* `put_comm`, `foldl_put_perm`: the order in which they are put does not matter.
* `namingOf_eq_ok`, `Settings.read_eq_ok`: a document that is read has known keys only.
* `ofSettings_written`: both directions together.
-/

namespace JavaNaming.Config

open Naming (Conventions Changes TypeStyle)
open Toml (Key Value Entries TableDocument KeyFollows HeaderFollows)

/-! ## What is written -/

/-- The name of a style in a document. -/
def styleText : TypeStyle → String
  | .pascalCase => "pascal-case"
  | .legacySnakeCase => "legacy-snake-case"

/-- The keys of the table for names. -/
def keyNames : List String :=
  ["parameter-format", "variable-format", "method-format", "type-style", "type-format"]

/-- The keys and strings that write changes. A format for types that is taken away is not written. -/
def assignments (d : Changes) : List (String × String) :=
  (keyNames.zip [d.parameterFormat?, d.variableFormat?, d.methodFormat?,
    d.typeStyle?.map styleText, d.typeFormat?.join]).filterMap fun s => s.2.map (s.1, ·)

/-- Documents that name something that settings do not have. What follows after it is any text. -/
inductive Misfit : List Char → Prop
  /-- A key in the table for names is not known. -/
  | key {name : String} {settings : List (String × String)} {rest document : List Char} :
      name ∉ keyNames → TableDocument "naming" settings rest document → KeyFollows name rest →
      Misfit document
  /-- The style of types is not known. -/
  | style {name : String} {settings : List (String × String)} {rest document : List Char} :
      (∀ style, name ≠ styleText style) → ("type-style", name) ∈ settings →
      TableDocument "naming" settings rest document → Misfit document
  /-- The document starts with another key. -/
  | firstKey {name : String} {document : List Char} :
      name ≠ "naming" → KeyFollows name document → Misfit document
  /-- The document starts with the header of another table. -/
  | firstHeader {name : String} {document : List Char} :
      name ≠ "naming" → HeaderFollows name document → Misfit document
  /-- The header of another table follows the table for names. -/
  | nextHeader {name : String} {settings : List (String × String)} {rest document : List Char} :
      name ≠ "naming" → TableDocument "naming" settings rest document →
      HeaderFollows name rest → Misfit document

/-! ## Fields -/

theorem Field.label_of_ofLabel? {name : String} {f : Field} (h : Field.ofLabel? name = some f) :
    f.label = name := by
  simpa using List.find?_some h

theorem Field.ofLabel?_label (f : Field) : Field.ofLabel? f.label = some f := by
  cases f <;> decide

theorem Field.label_mem (f : Field) : f.label ∈ keyNames := by
  cases f <;> decide

theorem ofLabel?_eq_some_iff {name : String} {style : TypeStyle} :
    TypeStyle.ofLabel? name = some style ↔ name = styleText style := by
  constructor
  · intro h
    unfold TypeStyle.ofLabel? at h
    split at h <;> cases h <;> rfl
  · rintro rfl
    cases style <;> rfl

/-- Put a string in the place of a field. -/
def Field.put (f : Field) (text : String) (c : Conventions) : Conventions :=
  match f with
  | .parameterFormat => { c with parameterFormat := text }
  | .variableFormat => { c with variableFormat := text }
  | .methodFormat => { c with methodFormat := text }
  | .typeStyle => { c with typeStyle := (TypeStyle.ofLabel? text).getD c.typeStyle }
  | .typeFormat => { c with typeFormat? := some text }

theorem Field.put_comm {f g : Field} (h : f ≠ g) (a b : String) (c : Conventions) :
    g.put b (f.put a c) = f.put a (g.put b c) := by
  cases f <;> cases g <;> first | rfl | exact absurd rfl h

theorem Field.set_string {f : Field} {text : String}
    (h : f = .typeStyle → ∃ style, text = styleText style) (range : Text.Range) (c : Conventions) :
    f.set range (.scalar (.string text.toList)) c = .ok (f.put text c) := by
  cases f with
  | parameterFormat => simp only [set, stringOf, String.ofList_toList]; rfl
  | variableFormat => simp only [set, stringOf, String.ofList_toList]; rfl
  | methodFormat => simp only [set, stringOf, String.ofList_toList]; rfl
  | typeFormat => simp only [set, stringOf, String.ofList_toList]; rfl
  | typeStyle =>
    obtain ⟨style, hstyle⟩ := h rfl
    have hlabel := ofLabel?_eq_some_iff.2 hstyle
    simp only [set, styleOf, styleNamed, String.ofList_toList, hlabel]
    simp only [put, hlabel]
    rfl

/-! ## Tables of strings -/

/-- Put a string in the place of the field with a given key. -/
def put (c : Conventions) (s : String × String) : Conventions :=
  match Field.ofLabel? s.1 with
  | some f => f.put s.2 c
  | none => c

/-- The key is known, and so is the style if it is one. -/
def Proper (s : String × String) : Prop :=
  s.1 ∈ keyNames ∧ (s.1 = "type-style" → ∃ style, s.2 = styleText style)

theorem put_comm {s t : String × String} (h : s.1 ≠ t.1) (c : Conventions) :
    put (put c s) t = put (put c t) s := by
  unfold put
  cases hs : Field.ofLabel? s.1 with
  | none => rfl
  | some f =>
    cases ht : Field.ofLabel? t.1 with
    | none => rfl
    | some g =>
      have hne : f ≠ g := by
        rintro rfl
        exact h ((Field.label_of_ofLabel? hs).symm.trans (Field.label_of_ofLabel? ht))
      exact Field.put_comm hne s.2 t.2 c

/-- Strings can be put in any order. -/
theorem foldl_put_perm {settings settings' : List (String × String)}
    (hperm : settings.Perm settings') (hnodup : (settings.map Prod.fst).Nodup) (c : Conventions) :
    settings.foldl put c = settings'.foldl put c := by
  refine hperm.foldl_eq' (fun s hs t ht c => ?_) c
  by_cases h : s = t
  · rw [h]
  · exact put_comm (fun hkeys => h (List.inj_on_of_nodup_map hnodup hs ht hkeys)) c

theorem setEntry_of_gives {s : String × String} {entry : Key × Text.Range × Value}
    (h : Entries.Gives s entry) (hs : Proper s) (c : Conventions) :
    setEntry c entry = .ok (put c s) := by
  obtain ⟨hkey, hstyle⟩ := hs
  obtain ⟨f, hf⟩ : ∃ f, Field.ofLabel? s.1 = some f := by
    have hall : ∀ name ∈ keyNames, (Field.ofLabel? name).isSome := by decide
    exact Option.isSome_iff_exists.1 (hall s.1 hkey)
  have hset : f.set entry.2.1 (.scalar (.string s.2.toList)) c = .ok (f.put s.2 c) := by
    refine Field.set_string (fun heq => hstyle ?_) entry.2.1 c
    rw [← Field.label_of_ofLabel? hf, heq]
    rfl
  simp only [setEntry, put, h.1, h.2, hf, hset]

/-- **Reading a table of strings puts them one by one.** -/
theorem foldlM_setEntry {settings : List (String × String)} {entries : Entries}
    (h : List.Forall₂ Entries.Gives settings entries) (hproper : ∀ s ∈ settings, Proper s)
    (c : Conventions) : entries.foldlM setEntry c = .ok (settings.foldl put c) := by
  induction h generalizing c with
  | nil => rfl
  | cons hfirst _ ih =>
    obtain ⟨hs, hrest⟩ := List.forall_mem_cons.1 hproper
    rw [List.foldlM_cons, setEntry_of_gives hfirst hs c]
    exact ih hrest _

theorem sorted_perm (entries : Entries) : (sorted entries).Perm entries :=
  List.mergeSort_perm entries _

theorem namingOf_table {settings : List (String × String)} {entries : Entries}
    (h : List.Forall₂ Entries.Gives settings entries) (hproper : ∀ s ∈ settings, Proper s)
    (hnodup : (settings.map Prod.fst).Nodup) (range : Text.Range) (origin : Toml.Origin) :
    namingOf range (.table origin entries) = .ok (settings.foldl put Conventions.standard) := by
  obtain ⟨settings', hsettings, hgives⟩ : ∃ settings', settings.Perm settings' ∧
      List.Forall₂ Entries.Gives settings' (sorted entries) := by
    obtain ⟨settings', hgives, hsettings⟩ := List.perm_comp_forall₂ (sorted_perm entries) h.flip
    exact ⟨settings', hsettings.symm, hgives.flip⟩
  rw [namingOf, foldlM_setEntry hgives fun s hs => hproper s (hsettings.mem_iff.2 hs),
    foldl_put_perm hsettings hnodup]

/-! ## Changes -/

theorem proper_of_mem {d : Changes} {s : String × String} (h : s ∈ assignments d) : Proper s := by
  obtain ⟨⟨name, value?⟩, hmem, hvalue⟩ := List.mem_filterMap.1 h
  obtain ⟨value, rfl, rfl⟩ := Option.map_eq_some_iff.1 hvalue
  refine ⟨(List.of_mem_zip hmem).1, ?_⟩
  rintro rfl
  have hstyle : d.typeStyle?.map styleText = some value := by
    simpa [keyNames, eq_comm] using hmem
  obtain ⟨style, -, rfl⟩ := Option.map_eq_some_iff.1 hstyle
  exact ⟨style, rfl⟩

theorem map_filterMap_sublist (l : List (String × Option String)) :
    ((l.filterMap fun s => s.2.map (s.1, ·)).map Prod.fst).Sublist (l.map Prod.fst) := by
  induction l with
  | nil => exact .slnil
  | cons s l ih =>
    obtain ⟨name, value?⟩ := s
    cases value? with
    | none => exact ih.cons name
    | some value => exact ih.cons_cons name

theorem nodup_assignments (d : Changes) : ((assignments d).map Prod.fst).Nodup := by
  have hkeys : keyNames.Nodup := by decide
  exact hkeys.sublist (map_filterMap_sublist (keyNames.zip _))

theorem put_label (f : Field) (text : String) (c : Conventions) :
    put c (f.label, text) = f.put text c := by
  simp only [put, Field.ofLabel?_label]

/-- Put a string, if there is one. -/
def Field.put? (f : Field) (text? : Option String) (c : Conventions) : Conventions :=
  (text?.map fun text => f.put text c).getD c

theorem foldl_put_filterMap (l : List (Field × Option String)) (c : Conventions) :
    (l.filterMap fun s => s.2.map (s.1.label, ·)).foldl put c =
      l.foldl (fun c s => s.1.put? s.2 c) c := by
  induction l generalizing c with
  | nil => rfl
  | cons s l ih =>
    obtain ⟨f, text?⟩ := s
    cases text? with
    | none => exact ih c
    | some text =>
      refine Eq.trans (ih (put c (f.label, text))) ?_
      rw [put_label]
      rfl

/-- Putting the strings that write changes makes these changes. -/
theorem foldl_put_assignments (d : Changes) :
    (assignments d).foldl put Conventions.standard = Conventions.standard.change d := by
  have hassignments : assignments d =
      (Field.all.zip [d.parameterFormat?, d.variableFormat?, d.methodFormat?,
        d.typeStyle?.map styleText, d.typeFormat?.join]).filterMap
        fun s => s.2.map (s.1.label, ·) := rfl
  rw [hassignments, foldl_put_filterMap]
  obtain ⟨p, v, m, s, t⟩ := d
  cases p <;> cases v <;> cases m <;> rcases s with - | - | - <;> rcases t with - | - | - <;> rfl

/-! ## Documents -/

theorem Settings.read_written {settings : List (String × String)} {document : List Char}
    (h : TableDocument "naming" settings [] document) (hproper : ∀ s ∈ settings, Proper s)
    (hnodup : (settings.map Prod.fst).Nodup) :
    Settings.read document = .ok (settings.foldl put Conventions.standard) := by
  obtain ⟨key, range, entries, hkey, hgives, hread⟩ := Toml.Document.read_tableDocument h hnodup
  have hsorted : sorted [(key, range, .table .declared entries)] =
      [(key, range, .table .declared entries)] :=
    List.perm_singleton.1 (sorted_perm _)
  have hentry : Settings.readEntry Conventions.standard (key, range, .table .declared entries) =
      .ok (settings.foldl put Conventions.standard) :=
    (if_pos hkey).trans (namingOf_table hgives hproper hnodup range .declared)
  simp only [Settings.read, hread, hsorted, List.foldlM_cons, List.foldlM_nil, hentry]
  rfl

/-- The keys of a table that is read are known, and their values are those that the fields take. -/
theorem namingOf_eq_ok {range : Text.Range} {origin : Toml.Origin} {entries : Entries}
    {c : Conventions} (h : namingOf range (.table origin entries) = .ok c) {name : String}
    {found : Text.Range × Value} (hfind : entries.find? name = some found) :
    ∃ f c₁ c₂, Field.label f = name ∧ f.set found.1 found.2 c₁ = .ok c₂ := by
  obtain ⟨key, hmem, rfl⟩ := Entries.mem_of_find? hfind
  obtain ⟨c₁, c₂, hstep⟩ := exists_step_of_mem h ((sorted_perm entries).mem_iff.2 hmem)
  rw [setEntry] at hstep
  cases hf : Field.ofLabel? key.name with
  | none =>
    rw [hf] at hstep
    cases hstep
  | some f =>
    rw [hf] at hstep
    exact ⟨f, c₁, c₂, Field.label_of_ofLabel? hf, hstep⟩

/-- The only key of a document that is read is the one of the table for names. -/
theorem Settings.read_eq_ok {document : List Char} {c : Conventions}
    (h : Settings.read document = .ok c) :
    ∃ root, Toml.Document.read document = .ok root ∧ ∀ name found,
      root.find? name = some found → name = "naming" ∧ ∃ c', namingOf found.1 found.2 = .ok c' := by
  rw [Settings.read] at h
  cases hread : Toml.Document.read document with
  | error e =>
    rw [hread] at h
    cases h
  | ok root =>
    rw [hread] at h
    refine ⟨root, rfl, fun name found hfind => ?_⟩
    obtain ⟨key, hmem, rfl⟩ := Entries.mem_of_find? hfind
    obtain ⟨c₁, c₂, hstep⟩ := exists_step_of_mem h ((sorted_perm root).mem_iff.2 hmem)
    rw [Settings.readEntry] at hstep
    split at hstep
    · next hname => exact ⟨hname, c₂, hstep⟩
    · cases hstep

/-- What the table for names of a document that is read holds is taken by a field. -/
theorem Settings.exists_field {root : Entries} {name : String} {shape : Toml.Shape}
    (hknown : ∀ name found, root.find? name = some found →
      name = "naming" ∧ ∃ c', namingOf found.1 found.2 = .ok c')
    (hholds : Entries.Holds shape name ["naming"] root) :
    ∃ f range value c₁ c₂, Field.label f = name ∧ Value.shape value = shape ∧
      f.set range value c₁ = .ok c₂ := by
  obtain ⟨range, origin, child, hchild, -, place, value, hvalue, hshape⟩ := hholds
  obtain ⟨-, c', hnaming⟩ := hknown _ _ hchild
  obtain ⟨f, c₁, c₂, hlabel, hset⟩ := namingOf_eq_ok hnaming hvalue
  exact ⟨f, place, value, c₁, c₂, hlabel, hshape, hset⟩

theorem Field.set_typeStyle_ne_ok {name : String} (h : ∀ style, name ≠ styleText style)
    (range : Text.Range) (c c' : Conventions) :
    Field.set .typeStyle range (.scalar (.string name.toList)) c ≠ .ok c' := by
  have hnone : TypeStyle.ofLabel? name = none := by
    cases hstyle : TypeStyle.ofLabel? name with
    | none => rfl
    | some style => exact absurd (ofLabel?_eq_some_iff.1 hstyle) (h style)
  simp only [set, styleOf, styleNamed, String.ofList_toList, hnone]
  rintro ⟨⟩

/-- **A document that names something unknown is not read.** -/
theorem Misfit.read_ne_ok {document : List Char} (h : Misfit document) (c : Conventions) :
    Settings.read document ≠ .ok c := by
  intro hread
  obtain ⟨root, hroot, hknown⟩ := Settings.read_eq_ok hread
  have hnaming : ∀ {name : String}, root.Has name → name = "naming" := by
    rintro name ⟨found, hfound⟩
    exact (hknown name found hfound).1
  cases h with
  | key hname htable hkey =>
    obtain ⟨shape, hholds⟩ := Toml.Document.holds_foreignKey htable hkey hroot
    obtain ⟨f, -, -, -, -, rfl, -⟩ := Settings.exists_field hknown hholds
    exact hname f.label_mem
  | style hstyle hmem htable =>
    have hholds := Toml.Document.holds_setting htable hroot hmem
    obtain ⟨f, range, value, c₁, c₂, hlabel, hshape, hset⟩ := Settings.exists_field hknown hholds
    have hfield : f = .typeStyle := by
      change f.label = "type-style" at hlabel
      cases f <;> first | rfl | exact absurd hlabel (by decide)
    rw [hfield, Value.eq_scalar_of_shape hshape] at hset
    exact Field.set_typeStyle_ne_ok hstyle range c₁ c₂ hset
  | firstKey hname hkey => exact hname (hnaming (Toml.Document.has_firstKey hkey hroot))
  | firstHeader hname hheader =>
    exact hname (hnaming (Toml.Document.has_firstHeader hheader hroot))
  | nextHeader hname htable hheader =>
    exact hname (hnaming (Toml.Document.has_nextHeader htable hheader hroot))

theorem ofSettings_of_ne_ok {document : List Char} (h : ∀ c, Settings.read document ≠ .ok c) :
    ∃ e, ofSettings document = .error (.settings document e) := by
  cases hread : Settings.read document with
  | ok c => exact absurd hread (h c)
  | error e => exact ⟨e, by rw [ofSettings, hread]⟩

/-- **Settings are read as they are written.** Changes can be written in any order of their keys, and
each way to write them is read as the standard conventions with these changes. A document with a key, a
header or a style that is not known is an error. -/
theorem ofSettings_written :
    (∀ (d : Changes) (settings : List (String × String)), settings.Perm (assignments d) →
      (∃ document, TableDocument "naming" settings [] document) ∧
      ∀ document, TableDocument "naming" settings [] document →
        ofSettings document = .ok (Conventions.standard.change d)) ∧
    ∀ document, Misfit document → ∃ e, ofSettings document = .error (.settings document e) := by
  refine ⟨fun d settings hperm => ⟨Toml.exists_tableDocument _ _ _, fun document h => ?_⟩,
    fun document h => ofSettings_of_ne_ok h.read_ne_ok⟩
  have hproper : ∀ s ∈ settings, Proper s := fun s hs => proper_of_mem (hperm.mem_iff.1 hs)
  have hnodup : (settings.map Prod.fst).Nodup :=
    (hperm.map Prod.fst).nodup_iff.2 (nodup_assignments d)
  have hread : Settings.read document = .ok (Conventions.standard.change d) := by
    rw [Settings.read_written h hproper hnodup, foldl_put_perm hperm hnodup,
      foldl_put_assignments]
  rw [ofSettings, hread]

/-- A format with a backslash, a quote and a control character, in a document that ends without a line
feed; and a known key with an underscore in place of its hyphen, in front of text that is no TOML. -/
theorem ofSettings_written_escaped :
    ofSettings ("[naming]\r\n\ttype-style=\"legacy-snake-case\" \n" ++
        "'parameter-format' = \"\\\\w+\\\"\\u0007\"").toList =
      .ok { Conventions.standard with
        parameterFormat := "\\w+\"\x07", typeStyle := .legacySnakeCase } ∧
    ∃ e, ofSettings "[naming]\nmethod-format = \"m\"\nmethod_format = [".toList =
      .error (.settings "[naming]\nmethod-format = \"m\"\nmethod_format = [".toList e) := by
  have hnaming : Toml.KeyText "naming".toList "naming".toList :=
    .bare (by decide) (List.all_iff_forall_prop.1 (by decide))
  have hnone : Toml.Blanks [] := by simp [Toml.Blanks]
  have hspace : Toml.Blanks [' '] := by simp [Toml.Blanks]
  have htab : Toml.Blanks ['\t'] := by simp [Toml.Blanks]
  constructor
  · let d : Changes := ⟨some "\\w+\"\x07", none, none, some .legacySnakeCase, none⟩
    have hstyle : Toml.Spelled "legacy-snake-case".toList "legacy-snake-case".toList :=
      Toml.spelled_self (List.all_iff_forall_prop.1 (by decide))
    have hformat : Toml.Spelled "\\w+\"\x07".toList "\\\\w+\\\"\\u0007".toList :=
      .cons (.short (by decide : ('\\', '\\') ∈ Toml.shortEscapes))
        (.cons (.plain (by decide) (by decide) (by decide))
          (.cons (.plain (by decide) (by decide) (by decide))
            (.cons (.short (by decide : ('"', '"') ∈ Toml.shortEscapes))
              (.cons (@Toml.Spelling.code 'u' '\x07'
                [(0, false), (0, false), (0, false), (7, false)] (by decide) (by decide)) .nil))))
    have htype : Toml.KeyText "type-style".toList "type-style".toList :=
      .bare (by decide) (List.all_iff_forall_prop.1 (by decide))
    have hparameter : Toml.KeyText "parameter-format".toList "'parameter-format'".toList :=
      .literal (List.all_iff_forall_prop.1 (by decide))
    have hlines : Toml.StringLines
        [("type-style", "legacy-snake-case"), ("parameter-format", "\\w+\"\x07")]
        ("\ttype-style=\"legacy-snake-case\" \n" ++
          "'parameter-format' = \"\\\\w+\\\"\\u0007\"").toList [] :=
      .cons htab htype hnone hnone hstyle (.lineFeed hspace)
        (.cons hnone hparameter hspace hspace hformat (.document hnone) .nil)
    exact (ofSettings_written.1 d _ (.swap _ _ _)).2 _
      (.intro hnone hnone hnaming hnone (.carriageReturn hnone) hlines)
  · have hlines : Toml.StringLines [("method-format", "m")]
        "method-format = \"m\"\nmethod_format = [".toList "method_format = [".toList :=
      .cons hnone (.bare (by decide) (List.all_iff_forall_prop.1 (by decide))) hspace hspace
        (Toml.spelled_self (List.all_iff_forall_prop.1 (by decide))) (.lineFeed hnone) .nil
    have hkey : KeyFollows "method_format" "method_format = [".toList :=
      .intro hnone (.bare (by decide) (List.all_iff_forall_prop.1 (by decide))) ⟨' ', by decide, rfl⟩
    exact ofSettings_written.2 _ (.key (by decide)
      (.intro hnone hnone hnaming hnone (.lineFeed hnone) hlines) hkey)

end JavaNaming.Config
