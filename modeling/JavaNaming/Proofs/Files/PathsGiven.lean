import JavaNaming.Proofs.Files.Listing
import JavaNaming.Proofs.Result
import Mathlib.Data.List.Forall2

/-!
# The files that paths stand for

A path leads to a file, which stands for itself, to a directory, which stands for the Java files below it,
or nowhere. A directory stands for nothing if it or one below it cannot be listed. In which order the
directories list their entries makes no difference to this.

* `Rearranged.agree`: the same names lead to the same files when entries change their places.
* `find_agree`, `javaFilesFor_rearranged`: so the same paths lead there and stand for the same files.
* `exists_javaFilesFor_iff`, `javaFilesFor_eq_error_iff`: when a path stands for files, and what is wrong
  with it otherwise.
* `javaFiles_listing`: the files of a list of paths, and which path is named if one is at fault.
-/

namespace JavaNaming.Files

/-! ## The order of entries -/

/-- Trees that differ in the order in which directories, at any depth, list their entries. -/
inductive Rearranged : Node → Node → Prop
  | refl (node : Node) : Rearranged node node
  | trans {a b c : Node} : Rearranged a b → Rearranged b c → Rearranged a c
  | permute {entries entries' : List (String × Node)} {listable : Bool} (h : entries.Perm entries') :
    Rearranged (.directory entries listable) (.directory entries' listable)
  | inside {before after : List (String × Node)} {listable : Bool} {name : String} {a b : Node}
    (h : Rearranged a b) : Rearranged (.directory (before ++ (name, a) :: after) listable)
      (.directory (before ++ (name, b) :: after) listable)

/-- A node without its entries. -/
def Node.bare : Node → Node
  | .directory _ listable => .directory [] listable
  | node => node

/-- The same names lead somewhere in both trees, to the same files and links or to directories that are
both listable or both not. -/
def Agree (a b : Node) : Prop :=
  ∀ names, (a.at? names).map Node.bare = (b.at? names).map Node.bare

theorem agree_directory {entries entries' : List (String × Node)} {listable : Bool}
    (h : ∀ name names, ((entries.lookup name).bind (Node.at? names)).map Node.bare =
      ((entries'.lookup name).bind (Node.at? names)).map Node.bare) :
    Agree (.directory entries listable) (.directory entries' listable) := by
  intro names
  cases names with
  | nil => rfl
  | cons name names => exact h name names

theorem lookup_perm {entries entries' : List (String × Node)} (h : entries.Perm entries')
    (hdistinct : (entries.map (·.1)).Nodup) (name : String) :
    entries.lookup name = entries'.lookup name := by
  have hdistinct' : (entries'.map (·.1)).Nodup := (h.map _).nodup_iff.1 hdistinct
  ext node
  rw [lookup_eq_some_iff hdistinct, lookup_eq_some_iff hdistinct', h.mem_iff]

/-- **Rearranging** a tree of files keeps it well-formed, and keeps what names lead to. -/
theorem Rearranged.agree {a b : Node} (h : Rearranged a b) (ha : a.WellFormed) :
    b.WellFormed ∧ Agree a b := by
  induction h with
  | refl node => exact ⟨ha, fun _ => rfl⟩
  | trans _ _ ih ih' =>
    obtain ⟨hb, hab⟩ := ih ha
    obtain ⟨hc, hbc⟩ := ih' hb
    exact ⟨hc, fun names => (hab names).trans (hbc names)⟩
  | @permute _ _ listable hperm =>
    cases ha with
    | directory _ hnames hdistinct hbelow =>
      refine ⟨.directory listable (fun e he => hnames e (hperm.mem_iff.2 he))
        ((hperm.map _).nodup_iff.1 hdistinct) (fun e he => hbelow e (hperm.mem_iff.2 he)), ?_⟩
      exact agree_directory fun name names => by rw [lookup_perm hperm hdistinct]
  | @inside before after listable name a b _ ih =>
    cases ha with
    | directory _ hnames hdistinct hbelow =>
      rw [List.forall_mem_append, List.forall_mem_cons] at hnames hbelow
      obtain ⟨hb, hab⟩ := ih hbelow.2.1
      refine ⟨.directory listable ?_ (by simpa using hdistinct) ?_, agree_directory fun n names => ?_⟩
      · rw [List.forall_mem_append, List.forall_mem_cons]
        exact hnames
      · rw [List.forall_mem_append, List.forall_mem_cons]
        exact ⟨hbelow.1, hb, hbelow.2.2⟩
      · rw [List.lookup_append, List.lookup_append, List.lookup_cons, List.lookup_cons]
        cases before.lookup n with
        | some node => rfl
        | none =>
          cases n == name with
          | true => exact hab names
          | false => rfl

theorem bare_eq_file_iff {node : Node} {content : ByteArray} {readable : Bool} :
    node.bare = .file content readable ↔ node = .file content readable := by
  cases node <;> simp [Node.bare]

theorem bare_eq_directory_iff {node : Node} {listable : Bool} :
    node.bare = .directory [] listable ↔ ∃ entries, node = .directory entries listable := by
  cases node <;> simp [Node.bare]

theorem Agree.hasJavaFile_iff {a b : Node} (h : Agree a b) (names : List String) :
    a.HasJavaFile names ↔ b.HasJavaFile names := by
  have hfile : ∀ (node : Node) (content : ByteArray) (readable : Bool),
      node.at? names = some (.file content readable) ↔
        (node.at? names).map Node.bare = some (.file content readable) := by
    intro node content readable
    simp only [Option.map_eq_some_iff, bare_eq_file_iff, exists_eq_right]
  simp only [Node.HasJavaFile, hfile, h names]

theorem Agree.closedAt_iff {a b : Node} (h : Agree a b) (names : List String) :
    a.ClosedAt names ↔ b.ClosedAt names := by
  have hclosed : ∀ node : Node, node.ClosedAt names ↔
      (node.at? names).map Node.bare = some (.directory [] false) := by
    intro node
    simp only [Node.ClosedAt, Option.map_eq_some_iff, bare_eq_directory_iff]
    constructor
    · rintro ⟨entries, hat⟩
      exact ⟨_, hat, entries, rfl⟩
    · rintro ⟨_, hat, entries, rfl⟩
      exact ⟨entries, hat⟩
  rw [hclosed, hclosed, h names]

theorem Agree.firstClosed {a b : Node} (h : Agree a b) {names : List String}
    (hfirst : a.FirstClosed names) : b.FirstClosed names :=
  ⟨(h.closedAt_iff names).1 hfirst.closed,
    fun others hothers => hfirst.first others ((h.closedAt_iff others).2 hothers)⟩

theorem Agree.symm {a b : Node} (h : Agree a b) : Agree b a := fun names => (h names).symm

/-- Names lead to nodes of one kind, or nowhere. -/
inductive SameKind : Option Node → Option Node → Prop
  | nowhere : SameKind none none
  | file (content : ByteArray) (readable : Bool) :
    SameKind (some (.file content readable)) (some (.file content readable))
  | directory (entries entries' : List (String × Node)) (listable : Bool) :
    SameKind (some (.directory entries listable)) (some (.directory entries' listable))
  | link (target : List String) : SameKind (some (.link target)) (some (.link target))

theorem Agree.sameKind {a b : Node} (h : Agree a b) (names : List String) :
    SameKind (a.at? names) (b.at? names) := by
  have hbare := h names
  revert hbare
  rcases a.at? names with _ | _ | _ | _ <;> rcases b.at? names with _ | _ | _ | _ <;> intro hbare <;>
    cases hbare <;> constructor

theorem enter_agree {root root' : Node} (h : Agree root root') : enter root = enter root' := by
  funext here part
  have hhere := h.sameKind here
  have hnext := h.sameKind (here ++ [part])
  unfold enter
  generalize root.at? here = a, root'.at? here = b at hhere
  generalize root.at? (here ++ [part]) = c, root'.at? (here ++ [part]) = d at hnext
  cases hhere with
  | directory => cases hnext <;> rfl
  | nowhere => rfl
  | file => rfl
  | link => rfl

theorem at?_append (place names : List String) (root : Node) :
    root.at? (place ++ names) = (root.at? place).bind (Node.at? names) := by
  induction place generalizing root with
  | nil => rfl
  | cons name place ih =>
    simp only [List.cons_append, Node.at?, Option.bind_assoc]
    exact congrArg _ (funext fun child => ih child)

theorem Agree.below {root root' node : Node} (h : Agree root root') {place : List String}
    (hnode : root.at? place = some node) : ∃ node', root'.at? place = some node' ∧ Agree node node' := by
  have hplace := h place
  rw [hnode] at hplace
  obtain ⟨node', hnode', -⟩ := Option.map_eq_some_iff.1 hplace.symm
  refine ⟨node', hnode', fun names => ?_⟩
  have hnames := h (place ++ names)
  rwa [at?_append, at?_append, hnode, hnode'] at hnames

theorem wellFormed_of_at? {root node : Node} (h : root.WellFormed) {place : List String}
    (hnode : root.at? place = some node) : node.WellFormed := by
  induction place generalizing root with
  | nil =>
    cases hnode
    exact h
  | cons name place ih =>
    cases h with
    | file content readable => cases hnode
    | link target => cases hnode
    | directory listable hnames distinct hbelow =>
      obtain ⟨child, hchild, hnode⟩ := (at?_cons distinct).1 hnode
      exact ih (hbelow _ hchild) hnode

/-! ## Paths and what they stand for -/

section

variable {fs : FileSystem} {path : String} {node : Node}

theorem find_eq_ok_iff : fs.find path = .ok node ↔ path ≠ "" ∧ (∀ target, node ≠ .link target) ∧
    ∃ place, follow fs.root (fs.partsFor path) = .ok place ∧ fs.root.at? place = some node := by
  unfold FileSystem.find
  split
  · simp [*]
  · cases follow fs.root (fs.partsFor path) with
    | error e => simp
    | ok place => rcases hat : fs.root.at? place with _ | _ | _ | _ <;> grind

theorem wellFormed_of_find (h : fs.root.WellFormed) (hnode : fs.find path = .ok node) :
    node.WellFormed := by
  obtain ⟨-, -, place, -, hat⟩ := find_eq_ok_iff.1 hnode
  exact wellFormed_of_at? h hat

/-- **A path leads to nodes that agree** in trees that agree. -/
theorem find_agree {root : Node} (h : Agree fs.root root) (hnode : fs.find path = .ok node) :
    ∃ node', FileSystem.find ⟨root, fs.workingDirectory⟩ path = .ok node' ∧ Agree node node' := by
  obtain ⟨hpath, hlink, place, hplace, hat⟩ := find_eq_ok_iff.1 hnode
  obtain ⟨node', hat', hsame⟩ := h.below hat
  refine ⟨node', find_eq_ok_iff.2 ⟨hpath, fun target => ?_, place, ?_, hat'⟩, hsame⟩
  · rintro rfl
    have hbare : node.bare = .link target := Option.some.inj (hsame [])
    cases node <;> cases hbare
    exact hlink target rfl
  · rw [← hplace, follow, follow, enter_agree h]
    rfl

/-- The files that a path stands for: a file for itself, whatever its name, and a directory for the Java
files below it. -/
inductive StandsFor (fs : FileSystem) (path : String) : List String → Prop
  | file {content : ByteArray} {readable : Bool} (h : fs.find path = .ok (.file content readable)) :
    StandsFor fs path [path]
  | directory {entries : List (String × Node)} {listable : Bool} {files : List String}
    (h : fs.find path = .ok (.directory entries listable))
    (lists : ListsBelow path (.directory entries listable) files) : StandsFor fs path files

/-- What is wrong with a path that does not stand for files: it leads nowhere, or the walk of a directory
stops at the first directory that cannot be listed. -/
inductive Faulty (fs : FileSystem) (path : String) : PathError → Prop
  | missing (h : ∀ node, fs.find path ≠ .ok node) : Faulty fs path (.missing path)
  | unlistable {node : Node} {names : List String} (h : fs.find path = .ok node)
    (first : node.FirstClosed names) : Faulty fs path (.unlistable path (below path names))

theorem mapError_eq_ok_iff {ε ε' α : Type} {f : ε → ε'} {x : Except ε α} {a : α} :
    x.mapError f = .ok a ↔ x = .ok a := by
  cases x with
  | ok b =>
    constructor
    · rintro ⟨⟩
      rfl
    · rintro ⟨⟩
      rfl
  | error cause => constructor <;> rintro ⟨⟩

theorem mapError_eq_error_iff {ε ε' α : Type} {f : ε → ε'} {x : Except ε α} {e : ε'} :
    x.mapError f = .error e ↔ ∃ cause, x = .error cause ∧ e = f cause := by
  cases x with
  | ok a => constructor <;> rintro ⟨_, ⟨⟩, -⟩
  | error cause =>
    constructor
    · rintro ⟨⟩
      exact ⟨cause, rfl, rfl⟩
    · rintro ⟨_, ⟨⟩, rfl⟩
      rfl

theorem standsFor_of_javaFilesFor (h : fs.root.WellFormed) {files : List String}
    (hfiles : fs.javaFilesFor path = .ok files) : StandsFor fs path files := by
  unfold FileSystem.javaFilesFor at hfiles
  cases hnode : fs.find path with
  | error e =>
    rw [hnode] at hfiles
    cases hfiles
  | ok node =>
    rw [hnode] at hfiles
    cases node with
    | file content readable =>
      cases hfiles
      exact .file hnode
    | directory entries listable =>
      exact .directory hnode
        (listsBelow_of_wellFormed (wellFormed_of_find h hnode) (mapError_eq_ok_iff.1 hfiles))
    | link target => exact absurd rfl ((find_eq_ok_iff.1 hnode).2.1 target)

/-- A path stands for files exactly if it leads somewhere and no directory there refuses to be listed. -/
theorem exists_javaFilesFor_iff :
    (∃ files, fs.javaFilesFor path = .ok files) ↔ ∃ node, fs.find path = .ok node ∧ ¬ node.HasClosed := by
  unfold FileSystem.javaFilesFor
  cases fs.find path with
  | error e => simp
  | ok node =>
    have hwalk := exists_javaFilesAt_iff path "" node
    cases node with
    | file content readable =>
      refine iff_of_true ⟨_, rfl⟩ ⟨_, rfl, ?_⟩
      rintro ⟨⟩
    | directory entries listable => simpa [mapError_eq_ok_iff] using hwalk
    | link target => simpa [mapError_eq_ok_iff] using hwalk

theorem javaFilesFor_of_find (h : fs.find path = .ok node) {e : PathError} :
    fs.javaFilesFor path = .error e ↔
      ∃ place, javaFilesAt path "" node = .error place ∧ e = .unlistable path place := by
  unfold FileSystem.javaFilesFor
  rw [h]
  cases node with
  | file content readable => simp [javaFilesAt_file]
  | directory entries listable => exact mapError_eq_error_iff
  | link target => exact mapError_eq_error_iff

/-- **What is wrong with a path** that does not stand for files. -/
theorem javaFilesFor_eq_error_iff (h : fs.root.WellFormed) {e : PathError} :
    fs.javaFilesFor path = .error e ↔ Faulty fs path e := by
  cases hnode : fs.find path with
  | error cause =>
    unfold FileSystem.javaFilesFor
    rw [hnode]
    constructor
    · rintro ⟨⟩
      exact .missing fun node hfound => by cases hnode.symm.trans hfound
    · rintro (_ | ⟨hfound, -⟩)
      · rfl
      · cases hnode.symm.trans hfound
  | ok node =>
    simp only [javaFilesFor_of_find hnode, javaFilesAt_eq_error_iff (wellFormed_of_find h hnode)]
    constructor
    · rintro ⟨_, ⟨names, hfirst, rfl⟩, rfl⟩
      exact .unlistable hnode hfirst
    · rintro (hnone | ⟨hfound, hfirst⟩)
      · exact absurd hnode (hnone node)
      · cases hnode.symm.trans hfound
        exact ⟨_, ⟨_, hfirst, rfl⟩, rfl⟩

theorem Faulty.agree {root : Node} (h : Agree fs.root root) {e : PathError} (hfaulty : Faulty fs path e) :
    Faulty ⟨root, fs.workingDirectory⟩ path e := by
  cases hfaulty with
  | missing hnone =>
    refine .missing fun node hnode => ?_
    obtain ⟨node', hnode', -⟩ := find_agree h.symm hnode
    exact hnone node' hnode'
  | unlistable hnode hfirst =>
    obtain ⟨node', hnode', hsame⟩ := find_agree h hnode
    exact .unlistable hnode' (hsame.firstClosed hfirst)

theorem StandsFor.eq_of_agree {root : Node} (h : Agree fs.root root) {files files' : List String}
    (hfiles : StandsFor fs path files) (hfiles' : StandsFor ⟨root, fs.workingDirectory⟩ path files') :
    files = files' := by
  cases hfiles with
  | file hnode =>
    obtain ⟨node', hnode', hsame⟩ := find_agree h hnode
    cases hfiles' with
    | file _ => rfl
    | directory hdirectory _ =>
      cases hnode'.symm.trans hdirectory
      cases hsame []
  | directory hnode hlists =>
    obtain ⟨node', hnode', hsame⟩ := find_agree h hnode
    cases hfiles' with
    | file hfile =>
      cases hnode'.symm.trans hfile
      cases hsame []
    | directory hdirectory hlists' =>
      cases hnode'.symm.trans hdirectory
      exact hlists.unique hlists' hsame.hasJavaFile_iff

/-- The files of a path, and what is wrong with it, do not depend on the order of entries. -/
theorem javaFilesFor_rearranged (h : fs.root.WellFormed) {root : Node}
    (hroot : Rearranged fs.root root) :
    FileSystem.javaFilesFor ⟨root, fs.workingDirectory⟩ path = fs.javaFilesFor path := by
  obtain ⟨h', hagree⟩ := hroot.agree h
  cases hfiles : fs.javaFilesFor path with
  | error e =>
    exact (javaFilesFor_eq_error_iff h').2 (((javaFilesFor_eq_error_iff h).1 hfiles).agree hagree)
  | ok files =>
    cases hfiles' : FileSystem.javaFilesFor ⟨root, fs.workingDirectory⟩ path with
    | error e =>
      have hfaulty : Faulty fs path e := ((javaFilesFor_eq_error_iff h').1 hfiles').agree hagree.symm
      cases hfiles.symm.trans ((javaFilesFor_eq_error_iff h).2 hfaulty)
    | ok files' =>
      rw [(standsFor_of_javaFilesFor h hfiles).eq_of_agree hagree (standsFor_of_javaFilesFor h' hfiles')]

end

theorem javaFiles_eq_error_iff {fs : FileSystem} {paths : List String} {e : PathError} :
    fs.javaFiles paths = .error e ↔ paths.mapM fs.javaFilesFor = .error e := by
  unfold FileSystem.javaFiles
  cases paths.mapM fs.javaFilesFor with
  | error e' => simp [bind, Except.bind]
  | ok found => simp [bind, Except.bind, pure, Except.pure]

theorem forall₂_of_mapM {ε α β : Type} {f : α → Except ε β} {as : List α} {bs : List β}
    (h : as.mapM f = .ok bs) : List.Forall₂ (fun a b => f a = .ok b) as bs := by
  induction as generalizing bs with
  | nil =>
    cases h
    exact .nil
  | cons a as ih =>
    obtain ⟨b, bs', hb, hbs', rfl⟩ := mapM_cons_eq_ok h
    exact .cons hb (ih hbs')

/-- The first of some paths with something wrong, and what is wrong with it. -/
def FirstFaulty (fs : FileSystem) (paths : List String) (e : PathError) : Prop :=
  ∃ before path after, paths = before ++ path :: after ∧ (∀ p ∈ before, ∀ e, ¬ Faulty fs p e) ∧
    Faulty fs path e

theorem javaFiles_eq_error_iff_firstFaulty {fs : FileSystem} (h : fs.root.WellFormed)
    {paths : List String} {e : PathError} : fs.javaFiles paths = .error e ↔ FirstFaulty fs paths e := by
  have hwalked : ∀ p, (∃ files, fs.javaFilesFor p = .ok files) ↔ ∀ e, ¬ Faulty fs p e := by
    intro p
    simp only [← javaFilesFor_eq_error_iff h]
    cases fs.javaFilesFor p <;> simp
  rw [javaFiles_eq_error_iff, mapM_eq_error_iff]
  simp only [javaFilesFor_eq_error_iff h, hwalked, FirstFaulty]

/-- The first of some paths that leads nowhere. -/
def FirstMissing (fs : FileSystem) (paths : List String) (path : String) : Prop :=
  ∃ before after, paths = before ++ path :: after ∧ (∀ p ∈ before, ∃ node, fs.find p = .ok node) ∧
    ∀ node, fs.find path ≠ .ok node

/-- Where all directories can be listed, a path can only be faulty by leading nowhere. -/
theorem firstFaulty_iff_firstMissing {fs : FileSystem} (h : fs.root.WellFormed) {paths : List String}
    (hopen : ∀ path ∈ paths, ∀ node, fs.find path = .ok node → ¬ node.HasClosed) {e : PathError} :
    FirstFaulty fs paths e ↔ ∃ path, FirstMissing fs paths path ∧ e = .missing path := by
  have hfaulty : ∀ p ∈ paths, ∀ e, Faulty fs p e ↔ (∀ node, fs.find p ≠ .ok node) ∧ e = .missing p := by
    intro p hp e
    constructor
    · rintro (hnone | ⟨hnode, hfirst⟩)
      · exact ⟨hnone, rfl⟩
      · exact absurd (hfirst.closed.hasClosed (wellFormed_of_find h hnode)) (hopen p hp _ hnode)
    · rintro ⟨hnone, rfl⟩
      exact .missing hnone
  constructor
  · rintro ⟨before, path, after, rfl, hbefore, hpath⟩
    obtain ⟨hnone, rfl⟩ := (hfaulty path (by simp) e).1 hpath
    refine ⟨path, ⟨before, after, rfl, fun p hp => ?_, hnone⟩, rfl⟩
    by_contra hno
    exact hbefore p hp _ (.missing fun node hnode => hno ⟨node, hnode⟩)
  · rintro ⟨path, ⟨before, after, rfl, hbefore, hnone⟩, rfl⟩
    refine ⟨before, path, after, rfl, fun p hp e he => ?_, .missing hnone⟩
    obtain ⟨node, hnode⟩ := hbefore p hp
    exact ((hfaulty p (by simp [hp]) e).1 he).1 node hnode

/-- **The files that paths stand for.** Where all directories can be listed, there is an error exactly if
a path leads nowhere, and it names the first such path. In general it names the first path that leads
nowhere or to a directory with one that cannot be listed, and then also the first of those. Without an
error the files are those of the paths in turn: a file stands for itself, and a directory for the Java
files below it, each once and in order. The order in which directories list their entries does not
matter. -/
theorem javaFiles_listing (fs : FileSystem) (h : fs.root.WellFormed) (paths : List String) :
    ((∀ path ∈ paths, ∀ node, fs.find path = .ok node → ¬ node.HasClosed) →
      ∀ e, fs.javaFiles paths = .error e ↔ ∃ path, FirstMissing fs paths path ∧ e = .missing path) ∧
    (∀ e, fs.javaFiles paths = .error e ↔ FirstFaulty fs paths e) ∧
    ((∀ path ∈ paths, ∃ node, fs.find path = .ok node ∧ ¬ node.HasClosed) →
      ∃ found, fs.javaFiles paths = .ok found.flatten ∧ List.Forall₂ (StandsFor fs) paths found) ∧
    ∀ root, Rearranged fs.root root →
      FileSystem.javaFiles ⟨root, fs.workingDirectory⟩ paths = fs.javaFiles paths := by
  refine ⟨fun hopen e => ?_, fun e => javaFiles_eq_error_iff_firstFaulty h, fun hpaths => ?_,
    fun root hroot => ?_⟩
  · rw [javaFiles_eq_error_iff_firstFaulty h, firstFaulty_iff_firstMissing h hopen]
  · obtain ⟨found, hfound⟩ := (exists_mapM_iff fs.javaFilesFor paths).2
      fun path hpath => exists_javaFilesFor_iff.2 (hpaths path hpath)
    refine ⟨found, ?_, (forall₂_of_mapM hfound).imp fun _ _ => standsFor_of_javaFilesFor h⟩
    unfold FileSystem.javaFiles
    rw [hfound]
    rfl
  · unfold FileSystem.javaFiles
    rw [show FileSystem.javaFilesFor ⟨root, fs.workingDirectory⟩ = fs.javaFilesFor from
      funext fun path => javaFilesFor_rearranged h hroot]

/-- A directory that lists its entries against the order of their names. Its entry `X.java` is a
directory, `L.java` is a link, and two other files only look like Java files. -/
def mixedEntries : List (String × Node) :=
  [("z.java", .file ⟨#[]⟩), ("a.java", .file ⟨#[]⟩ false),
    ("a-b", .directory [("B.java", .file ⟨#[]⟩), ("B.JAVA", .file ⟨#[]⟩)]),
    ("a", .directory [("X.java", .directory [("C.java", .file ⟨#[]⟩)])]),
    ("L.java", .link ["src", "z.java"]), (".java", .file ⟨#[]⟩)]

/-- A directory with two directories that cannot be listed. -/
def closedEntries : List (String × Node) :=
  [("b", .directory [("A.java", .file ⟨#[]⟩)] false), ("a", .directory [("c", .directory [] false)])]

/-- The directories `src` and `lib`. -/
def mixedFiles : FileSystem :=
  ⟨.directory [("src", .directory mixedEntries), ("lib", .directory closedEntries)], []⟩

theorem wellFormed_mixedFiles : mixedFiles.root.WellFormed := by
  have hfile : ∀ readable, (Node.file ⟨#[]⟩ readable).WellFormed := Node.WellFormed.file _
  have hsrc : (Node.directory mixedEntries).WellFormed := by
    refine .directory _ (by decide) (by decide) ?_
    simp only [mixedEntries, List.forall_mem_cons, List.not_mem_nil, false_implies, implies_true,
      and_true]
    refine ⟨hfile _, hfile _, .directory _ (by decide) (by decide) (by simp [hfile]),
      .directory _ (by decide) (by decide) ?_, .link _, hfile _⟩
    rw [List.forall_mem_singleton]
    exact .directory _ (by decide) (by decide) (by simp [hfile])
  have hlib : (Node.directory closedEntries).WellFormed := by
    refine .directory _ (by decide) (by decide) ?_
    simp only [closedEntries, List.forall_mem_cons, List.not_mem_nil, false_implies, implies_true,
      and_true]
    refine ⟨.directory _ (by decide) (by decide) (by simp [hfile]),
      .directory _ (by decide) (by decide) ?_⟩
    rw [List.forall_mem_singleton]
    exact .directory _ (by simp) (by simp) (by simp)
  exact .directory _ (by decide) (by decide) (by simp [hsrc, hlib])

theorem javaFilesAt_mixedEntries : javaFilesAt "src" "" (.directory mixedEntries) =
    .ok ["src/a/X.java/C.java", "src/a-b/B.java", "src/a.java", "src/z.java"] := by
  have houter : inOrder mixedEntries = mixedEntries.reverse :=
    inOrder_eq_of_perm (List.reverse_perm _) (by decide)
  have hpair : inOrder [("B.java", .file ⟨#[]⟩), ("B.JAVA", .file ⟨#[]⟩)] =
      [("B.JAVA", .file ⟨#[]⟩), ("B.java", .file ⟨#[]⟩)] :=
    inOrder_eq_of_perm (.swap _ _ _) (by decide)
  have hone : ∀ e : String × Node, inOrder [e] = [e] := fun e =>
    inOrder_eq_of_perm (.refl _) (List.pairwise_singleton _ _)
  rw [javaFilesAt_directory, houter]
  simp only [mixedEntries, javaFilesAmong, List.reverse_cons, List.reverse_nil, List.nil_append,
    List.cons_append, List.mapM_cons, List.mapM_nil, javaFilesAt_directory, javaFilesAt_file,
    javaFilesAt_link, hpair, hone]
  decide

theorem javaFilesAt_closedEntries :
    javaFilesAt "lib" "" (.directory closedEntries) = .error "lib/a/c" := by
  have houter : inOrder closedEntries = closedEntries.reverse :=
    inOrder_eq_of_perm (List.reverse_perm _) (by decide)
  have hone : ∀ e : String × Node, inOrder [e] = [e] := fun e =>
    inOrder_eq_of_perm (.refl _) (List.pairwise_singleton _ _)
  rw [javaFilesAt_directory, houter]
  simp only [closedEntries, javaFilesAmong, List.reverse_cons, List.reverse_nil, List.nil_append,
    List.cons_append, List.mapM_cons, List.mapM_nil, javaFilesAt_directory, javaFilesAt_closed, hone]
  decide

/-- The directory `a` comes before `a-b`, though the path of its file would come after it if whole paths
were compared. The first path that leads nowhere is named, and the first directory that cannot be listed:
the one below `a`, not `b`. -/
theorem javaFiles_listing_mixedFiles :
    mixedFiles.javaFiles ["src", "src/.java", "src/L.java"] = .ok ["src/a/X.java/C.java",
        "src/a-b/B.java", "src/a.java", "src/z.java", "src/.java", "src/L.java"] ∧
      mixedFiles.javaFiles ["src", "gone", "lost"] = .error (.missing "gone") ∧
      mixedFiles.javaFiles ["src", "lib", "gone"] = .error (.unlistable "lib" "lib/a/c") ∧
      FirstFaulty mixedFiles ["src", "lib", "gone"] (.unlistable "lib" "lib/a/c") ∧
      FileSystem.javaFiles ⟨.directory [("src", .directory mixedEntries.reverse),
        ("lib", .directory closedEntries)], []⟩ ["src"] = mixedFiles.javaFiles ["src"] := by
  obtain ⟨hmissing, -⟩ := javaFiles_listing mixedFiles wellFormed_mixedFiles ["src", "gone", "lost"]
  obtain ⟨-, hfaulty, -⟩ := javaFiles_listing mixedFiles wellFormed_mixedFiles ["src", "lib", "gone"]
  obtain ⟨-, -, -, hrearranged⟩ := javaFiles_listing mixedFiles wellFormed_mixedFiles ["src"]
  have hsrc : mixedFiles.find "src" = .ok (.directory mixedEntries) := by rfl
  have hlib : mixedFiles.find "lib" = .ok (.directory closedEntries) := by rfl
  have hfile : mixedFiles.find "src/.java" = .ok (.file ⟨#[]⟩) := by rfl
  have hlink : mixedFiles.find "src/L.java" = .ok (.file ⟨#[]⟩) := by rfl
  have hgone : ∀ node, mixedFiles.find "gone" ≠ .ok node := by rintro node ⟨⟩
  have hlost : ∀ node, mixedFiles.find "lost" ≠ .ok node := by rintro node ⟨⟩
  have hopen : ¬ (Node.directory mixedEntries).HasClosed :=
    (exists_javaFilesAt_iff _ _ _).1 ⟨_, javaFilesAt_mixedEntries⟩
  have hwalked : mixedFiles.javaFilesFor "src" =
      .ok ["src/a/X.java/C.java", "src/a-b/B.java", "src/a.java", "src/z.java"] := by
    unfold FileSystem.javaFilesFor
    rw [hsrc]
    exact mapError_eq_ok_iff.2 javaFilesAt_mixedEntries
  have hstopped : mixedFiles.javaFilesFor "lib" = .error (.unlistable "lib" "lib/a/c") :=
    (javaFilesFor_of_find hlib).2 ⟨_, javaFilesAt_closedEntries, rfl⟩
  have hclosed : mixedFiles.javaFiles ["src", "lib", "gone"] =
      .error (.unlistable "lib" "lib/a/c") := by
    simp [FileSystem.javaFiles, hwalked, hstopped, bind, Except.bind]
  refine ⟨?_, (hmissing ?_ _).2 ⟨"gone", ⟨["src"], ["lost"], rfl, by simp [hsrc], hgone⟩, rfl⟩, hclosed,
    (hfaulty _).1 hclosed, hrearranged _ ?_⟩
  · have hself : mixedFiles.javaFilesFor "src/.java" = .ok ["src/.java"] := by
      rw [FileSystem.javaFilesFor, hfile]
    have hlinked : mixedFiles.javaFilesFor "src/L.java" = .ok ["src/L.java"] := by
      rw [FileSystem.javaFilesFor, hlink]
    simp [FileSystem.javaFiles, hwalked, hself, hlinked, bind, Except.bind, pure, Except.pure]
  · simp only [List.forall_mem_cons, List.not_mem_nil, false_implies, implies_true, and_true]
    refine ⟨fun node hnode => ?_, fun node hnode => absurd hnode (hgone node),
      fun node hnode => absurd hnode (hlost node)⟩
    cases hsrc.symm.trans hnode
    exact hopen
  · exact @Rearranged.inside [] _ _ "src" _ _ (.permute (List.reverse_perm _).symm)

end JavaNaming.Files
