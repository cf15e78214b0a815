import JavaNaming.Config.Checkstyle
import JavaNaming.Proofs.Result

/-!
# The first module of a category sets its format

`Formats.visit` goes down a tree of modules and fills one slot for each category on its way. Here the
tree is laid out in the order of the document (`Module.preorder`), and the slots are read off the list.

* `visit_eq_foldl`: a visit adds the modules of the tree one by one, in the order of the document.
* `get_foldl_addModule`: what is added goes to the slots that are still empty, so a slot has the format of
  the first module for its category.
* `setting_iff`: this is what `Module.Setting` says without a visit.
* `conventions_set_by_first_modules`: the conventions by a tree of modules.
-/

namespace JavaNaming.Config

open Naming (Category Conventions)

/-! ## Modules in the order of the document -/

namespace Module

mutual

/-- The modules of a tree, each before the modules in it. -/
def preorder : Module → List Module
  | .mk name properties modules => .mk name properties modules :: preorderAll modules

/-- The modules of several trees in turn. -/
def preorderAll : List Module → List Module
  | [] => []
  | m :: ms => m.preorder ++ preorderAll ms

end

/-- The module checks the names of a category. -/
def Checks (m : Module) (k : Category) : Prop := ∃ standard, target? m.name = some (k, standard)

/-- The module checks the names of a category by a format: the value of its first property for the
format or, where it has no such property, the format that goes with its name. -/
inductive Sets (m : Module) (k : Category) : String → Prop
  | property {standard : String} {before after : List Property} {p : Property}
    (target : target? m.name = some (k, standard)) (split : m.properties = before ++ p :: after)
    (format : p.name = "format") (first : ∀ q ∈ before, q.name ≠ "format") : Sets m k p.value
  | standard {standard : String} (target : target? m.name = some (k, standard))
    (absent : ∀ p ∈ m.properties, p.name ≠ "format") : Sets m k standard

/-- What a tree of modules says about a category: the format of the first module for it in the order of
the document, if there is one. -/
inductive Setting (root : Module) (k : Category) : Option String → Prop
  | first {before after : List Module} {m : Module} {format : String}
    (split : root.preorder = before ++ m :: after) (sets : m.Sets k format)
    (first : ∀ m' ∈ before, ¬ m'.Checks k) : Setting root k (some format)
  | absent (absent : ∀ m ∈ root.preorder, ¬ m.Checks k) : Setting root k none

/-- The format of a module for a category, if it checks the names of that category. -/
def formatFor? (k : Category) (m : Module) : Option String :=
  match m.format? with
  | some (k', format) => if k' = k then some format else none
  | none => none

theorem formatFor?_of_target {m : Module} {k k' : Category} {standard : String}
    (h : target? m.name = some (k', standard)) :
    m.formatFor? k = if k' = k then
      some (((m.properties.find? (·.name = "format")).map (·.value)).getD standard) else none := by
  unfold formatFor? format?
  rw [h]
  rfl

theorem formatFor?_eq_none_iff {m : Module} {k : Category} :
    m.formatFor? k = none ↔ ¬ m.Checks k := by
  unfold Checks
  cases h : target? m.name with
  | none => simp [formatFor?, format?, h]
  | some target =>
    obtain ⟨k', standard⟩ := target
    rw [formatFor?_of_target h]
    by_cases hk : k' = k <;> simp [hk]

theorem formatFor?_eq_some_iff {m : Module} {k : Category} {format : String} :
    m.formatFor? k = some format ↔ m.Sets k format := by
  constructor
  · intro hf
    cases h : target? m.name with
    | none => simp [formatFor?, format?, h] at hf
    | some target =>
      obtain ⟨k', standard⟩ := target
      rw [formatFor?_of_target h] at hf
      split at hf
      · rename_i hk
        subst hk
        cases hp : m.properties.find? (·.name = "format") with
        | none =>
          rw [hp] at hf
          cases hf
          exact .standard h fun p hp' => by simpa using List.find?_eq_none.1 hp p hp'
        | some p =>
          rw [hp] at hf
          cases hf
          obtain ⟨hname, before, after, hsplit, hbefore⟩ := List.find?_eq_some_iff_append.1 hp
          exact .property h hsplit (by simpa using hname) fun q hq => by simpa using hbefore q hq
      · cases hf
  · rintro (⟨target, split, hname, first⟩ | ⟨target, absent⟩)
    · rename_i standard before after p
      have hp : m.properties.find? (·.name = "format") = some p := by
        refine List.find?_eq_some_iff_append.2 ⟨by simpa using hname, before, after, split, ?_⟩
        intro q hq
        simpa using first q hq
      rw [formatFor?_of_target target, if_pos rfl, hp]
      rfl
    · have hp : m.properties.find? (·.name = "format") = none :=
        List.find?_eq_none.2 fun p hp => by simpa using absent p hp
      rw [formatFor?_of_target target, if_pos rfl, hp]
      rfl

/-- What a tree says about a category is what the first module for it says. -/
theorem setting_iff {root : Module} {k : Category} {setting : Option String} :
    root.Setting k setting ↔ root.preorder.findSome? (formatFor? k) = setting := by
  constructor
  · rintro (⟨split, sets, first⟩ | ⟨absent⟩)
    · refine List.findSome?_eq_some_iff.2 ⟨_, _, _, split, formatFor?_eq_some_iff.2 sets, ?_⟩
      exact fun m' hm' => formatFor?_eq_none_iff.2 (first m' hm')
    · exact List.findSome?_eq_none_iff.2 fun m hm => formatFor?_eq_none_iff.2 (absent m hm)
  · rintro rfl
    cases h : root.preorder.findSome? (formatFor? k) with
    | none =>
      rw [List.findSome?_eq_none_iff] at h
      exact .absent fun m hm => formatFor?_eq_none_iff.1 (h m hm)
    | some format =>
      obtain ⟨before, m, after, hsplit, hm, hbefore⟩ := List.findSome?_eq_some_iff.1 h
      refine .first hsplit (formatFor?_eq_some_iff.1 hm) ?_
      exact fun m' hm' => formatFor?_eq_none_iff.1 (hbefore m' hm')

end Module

/-! ## Visits -/

namespace Formats

/-- The format that was found for a category. -/
def get (f : Formats) : Category → Option String
  | .parameter => f.parameterFormat?
  | .variable => f.variableFormat?
  | .method => f.methodFormat?
  | .type => f.typeFormat?

/-- Add the format of a module, without the modules in it. -/
def addModule (f : Formats) (m : Module) : Formats :=
  match m.format? with
  | some (k, format) => f.add k format
  | Option.none => f

mutual

/-- **A visit** adds the modules of the tree in the order of the document. -/
theorem visit_eq_foldl (f : Formats) : ∀ m : Module, f.visit m = m.preorder.foldl addModule f
  | .mk name properties modules => by
    simp only [visit, Module.preorder, List.foldl_cons]
    exact visitAll_eq_foldl (f.addModule (.mk name properties modules)) modules

theorem visitAll_eq_foldl (f : Formats) :
    ∀ ms : List Module, f.visitAll ms = (Module.preorderAll ms).foldl addModule f
  | [] => rfl
  | m :: ms => by
    simp only [visitAll, Module.preorderAll, List.foldl_append, visit_eq_foldl f m]
    exact visitAll_eq_foldl _ ms

end

theorem get_add (f : Formats) (k k' : Category) (format : String) :
    (f.add k' format).get k = if k' = k then some ((f.get k).getD format) else f.get k := by
  cases k <;> cases k' <;> rfl

/-- A module fills the slot of its category if it is empty, and no other slot. -/
theorem get_addModule (f : Formats) (m : Module) (k : Category) :
    (f.addModule m).get k = (f.get k).or (m.formatFor? k) := by
  unfold addModule Module.formatFor?
  cases m.format? with
  | none => simp
  | some found =>
    obtain ⟨k', format⟩ := found
    simp only [get_add]
    split
    · cases f.get k <;> rfl
    · simp

theorem get_foldl_addModule (f : Formats) (ms : List Module) (k : Category) :
    (ms.foldl addModule f).get k = (f.get k).or (ms.findSome? (Module.formatFor? k)) := by
  induction ms generalizing f with
  | nil => simp
  | cons m ms ih =>
    rw [List.foldl_cons, ih, get_addModule, Option.or_assoc, List.findSome?_cons]
    cases m.formatFor? k <;> simp

theorem setting_visit (root : Module) (k : Category) (setting : Option String) :
    root.Setting k setting ↔ (Formats.none.visit root).get k = setting := by
  have hnone : Formats.none.get k = Option.none := by cases k <;> rfl
  rw [Module.setting_iff, visit_eq_foldl, get_foldl_addModule, hnone, Option.none_or]

end Formats

/-! ## Conventions -/

theorem conventions_eq_notChecker_iff {root : Module} {name : String} :
    Checkstyle.conventions root = .error (.notChecker name) ↔
      root.name ≠ rootName ∧ name = root.name := by
  unfold Checkstyle.conventions
  split
  · rename_i h
    simp [h]
  · rename_i h
    simp [h, eq_comm]

/-- **The conventions by a tree of modules.** There are none exactly if the root has not the name of the
root of a configuration, and the error then has its name. Otherwise each category has the format of the
first module for it in the order of the document, and the standard format where there is no such module.
A document gives the conventions of the tree of modules that it is. -/
theorem conventions_set_by_first_modules (root : Module) :
    (∀ name, Checkstyle.conventions root = .error (.notChecker name) ↔
      root.name ≠ "Checker" ∧ name = root.name) ∧
    (root.name = "Checker" → ∃ setting : Category → Option String,
      (∀ k s, root.Setting k s ↔ setting k = s) ∧
      Checkstyle.conventions root = .ok
        { parameterFormat := (setting .parameter).getD Conventions.standard.parameterFormat
          variableFormat := (setting .variable).getD Conventions.standard.variableFormat
          methodFormat := (setting .method).getD Conventions.standard.methodFormat
          typeStyle := Conventions.standard.typeStyle
          typeFormat? := setting .type }) ∧
    ∀ document, Module.ofEvents (Xml.Event.ofText document) = .ok root →
      Checkstyle.read document = Checkstyle.conventions root := by
  refine ⟨fun name => conventions_eq_notChecker_iff, fun hroot => ?_, fun document h => ?_⟩
  · refine ⟨(Formats.none.visit root).get, Formats.setting_visit root, ?_⟩
    unfold Checkstyle.conventions
    exact if_pos hroot
  · unfold Checkstyle.read
    rw [h]

/-- A configuration in which a module for types without a format of its own has another one in it. -/
def nestedDocument : List Char :=
  ("<module name='Checker'><module name='TypeName'><module name='TypeName'>" ++
    "<property name='format' value='T'/></module></module></module>").toList

/-- The outer module sets the format for types, by its name alone. -/
theorem conventions_set_by_first_modules_nested :
    ∃ root, Module.ofEvents (Xml.Event.ofText nestedDocument) = .ok root ∧
      root.preorder.map Module.name = ["Checker", "TypeName", "TypeName"] ∧
      Checkstyle.read nestedDocument = .ok
        { Conventions.standard with typeFormat? := some "^[A-Z][a-zA-Z0-9]*$" } := by
  have hroot : ∃ root, Module.ofEvents (Xml.Event.ofText nestedDocument) = .ok root ∧
      root.name = "Checker" ∧ root.preorder.map Module.name = ["Checker", "TypeName", "TypeName"] ∧
      Category.all.map (fun k => root.preorder.findSome? (Module.formatFor? k)) =
        [none, none, none, some "^[A-Z][a-zA-Z0-9]*$"] := by decide +kernel
  obtain ⟨root, hdocument, hname, hnames, hvalues⟩ := hroot
  obtain ⟨-, hchecker, hread⟩ := conventions_set_by_first_modules root
  obtain ⟨setting, hsetting, hconventions⟩ := hchecker hname
  have hvalue (k : Category) : root.preorder.findSome? (Module.formatFor? k) = setting k :=
    Module.setting_iff.1 ((hsetting k _).2 rfl)
  simp only [Category.all, List.map_cons, List.map_nil, hvalue, List.cons.injEq] at hvalues
  obtain ⟨hparameter, hvariable, hmethod, htype, -⟩ := hvalues
  refine ⟨root, hdocument, hnames, ?_⟩
  rw [hread _ hdocument, hconventions, hparameter, hvariable, hmethod, htype]
  rfl

end JavaNaming.Config
