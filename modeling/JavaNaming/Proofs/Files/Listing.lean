import JavaNaming.Files.Collect
import JavaNaming.Proofs.Result
import JavaNaming.Proofs.Text.ByteOrder
import JavaNaming.Proofs.Text.Runs
import Mathlib.Data.List.Nodup

/-!
# The Java files below a directory

The files below a directory are collected directory by directory, each with its entries in the order of
their names. Here the list is described as a whole: what is in it, and in which order. There is no list
where a directory cannot be listed.

* `isJavaName_iff`: the name of a Java file is a stem that is not empty, and then `.java`.
* `exists_javaFilesAt_iff`: files are collected exactly where no directory refuses to be listed.
* `exists_collects`: what is collected from a node are the files to which names lead, in the order that
  compares names one by one, by their bytes.
* `javaFilesAt_eq_error_iff`: otherwise the error names the first directory, in the same order, that
  cannot be listed.
* `innerParts_below`, `below_injective`: different names lead to different paths.
* `listsBelow_of_wellFormed`, `ListsBelow.unique`: the files below a directory, each once, and that there
  is only one such list.
-/

namespace JavaNaming.Files

open Text (bytes bytes_lt_iff exists_takeWhile_append)

/-! ## Trees of files -/

/-- A name that an entry of a directory can have. -/
def IsEntryName (name : String) : Prop :=
  name ≠ "" ∧ name ≠ "." ∧ name ≠ ".." ∧ '/' ∉ name.toList

instance (name : String) : Decidable (IsEntryName name) :=
  inferInstanceAs (Decidable (_ ∧ _))

/-- In all directories the entries have names that entries can have, and no two have the same one. -/
inductive Node.WellFormed : Node → Prop
  | file (content : ByteArray) (readable : Bool) : WellFormed (.file content readable)
  | directory {entries : List (String × Node)} (listable : Bool)
    (names : ∀ e ∈ entries, IsEntryName e.1) (distinct : (entries.map (·.1)).Nodup)
    (below : ∀ e ∈ entries, e.2.WellFormed) : WellFormed (.directory entries listable)
  | link (target : List String) : WellFormed (.link target)

/-- A directory at a node or below it cannot be listed. -/
inductive Node.HasClosed : Node → Prop
  | self (entries : List (String × Node)) : HasClosed (.directory entries false)
  | entry {entries : List (String × Node)} {listable : Bool} {e : String × Node} (h : e ∈ entries)
    (closed : e.2.HasClosed) : HasClosed (.directory entries listable)

/-- A property of nodes that follows from the same property of the entries holds of every node. -/
@[elab_as_elim]
theorem Node.induct {P : Node → Prop} (file : ∀ content readable, P (.file content readable))
    (directory : ∀ entries listable, (∀ e ∈ entries, P e.2) → P (.directory entries listable))
    (link : ∀ target, P (.link target)) (node : Node) : P node := by
  cases node with
  | file content readable => exact file content readable
  | directory entries listable =>
    refine directory entries listable fun e he => ?_
    have : sizeOf e < sizeOf entries := List.sizeOf_lt_of_mem he
    exact induct file directory link e.2
  | link target => exact link target
termination_by node
decreasing_by
  obtain ⟨name, node⟩ := e
  simp only [Node.directory.sizeOf_spec, Prod.mk.sizeOf_spec] at *
  omega

theorem lookup_eq_some_iff {α : Type} {entries : List (String × α)}
    (h : (entries.map (·.1)).Nodup) {name : String} {a : α} :
    entries.lookup name = some a ↔ (name, a) ∈ entries := by
  induction entries with
  | nil => simp
  | cons e entries ih =>
    obtain ⟨n, b⟩ := e
    simp only [List.map_cons, List.nodup_cons] at h
    rw [List.lookup_cons, List.mem_cons]
    by_cases hname : name = n
    · subst hname
      have hnot : (name, a) ∉ entries := fun hmem => h.1 (List.mem_map_of_mem hmem)
      simp [hnot, eq_comm]
    · have hbeq : (name == n) = false := by simpa using hname
      simp only [hbeq, Prod.mk.injEq, hname, false_and, false_or]
      exact ih h.2

/-! ## Names of Java files -/

theorem isJavaName_append {stem : String} (h : stem ≠ "") : isJavaName (stem ++ ".java") = true := by
  have hlength : 0 < stem.toList.length := List.length_pos_iff.2 (by simpa using h)
  have hreverse : (stem ++ ".java").toList.reverse = "avaj.".toList ++ stem.toList.reverse := by simp
  have hending : ((stem ++ ".java").toList.reverse.takeWhile (· ≠ '.')).reverse = "java".toList := by
    rw [hreverse]
    simp
  simp only [isJavaName, extensionOf?, hending, beq_iff_eq]
  rw [if_pos (by simp; omega)]
  rfl

/-- **The name of a Java file** is a stem that is not empty, and then `.java`. -/
theorem isJavaName_iff {name : String} :
    isJavaName name = true ↔ ∃ stem, stem ≠ "" ∧ name = stem ++ ".java" := by
  constructor
  · intro h
    simp only [isJavaName, extensionOf?, beq_iff_eq] at h
    split at h
    · rename_i hlength
      have hending : name.toList.reverse.takeWhile (· ≠ '.') = "avaj".toList := by
        have htext := congrArg String.toList (Option.some.inj h)
        rw [String.toList_ofList] at htext
        exact List.reverse_eq_iff.1 htext
      simp only [List.length_reverse] at hlength
      have hshort : (name.toList.reverse.takeWhile (· ≠ '.')).length < name.toList.reverse.length := by
        rw [List.length_reverse]
        omega
      obtain ⟨c, rest, hsplit, hdot⟩ := exists_takeWhile_append hshort
      obtain rfl : c = '.' := by simpa using hdot
      rw [hending] at hsplit
      have hname : name = String.ofList rest.reverse ++ ".java" := by
        rw [← String.toList_inj, ← List.reverse_inj, hsplit]
        simp
      refine ⟨String.ofList rest.reverse, fun hstem => ?_, hname⟩
      rw [hname, hstem] at hlength
      exact absurd hlength (by decide)
    · cases h
  · rintro ⟨stem, hstem, rfl⟩
    exact isJavaName_append hstem

example : ["A.java", "..java", ".java", "A.JAVA", "A.java~"].map isJavaName =
    [true, true, false, false, false] := by decide

/-! ## Collecting -/

/-- The entries of a directory in the order in which they are visited. -/
def inOrder (entries : List (String × Node)) : List (String × Node) :=
  entries.mergeSort fun a b => !(decide (b.1 < a.1))

theorem javaFilesOf_eq (path : String) (entries : List (String × Node)) :
    javaFilesOf path entries =
      entries.map fun e => (e.1, javaFilesAt (join path e.1) e.1 e.2) := by
  induction entries with
  | nil => rw [javaFilesOf, List.map_nil]
  | cons e entries ih => rw [javaFilesOf, ih, List.map_cons]

theorem javaFilesAt_file (path name : String) (content : ByteArray) (readable : Bool) :
    javaFilesAt path name (.file content readable) =
      .ok (if isJavaName name then [path] else []) := by
  rw [javaFilesAt]

theorem javaFilesAt_closed (path name : String) (entries : List (String × Node)) :
    javaFilesAt path name (.directory entries false) = .error path := by
  rw [javaFilesAt]

theorem javaFilesAt_link (path name : String) (target : List String) :
    javaFilesAt path name (.link target) = .ok [] := by
  rw [javaFilesAt]

/-- The Java files of entries of the directory with a given path, for one entry after the other. -/
def javaFilesAmong (path : String) (entries : List (String × Node)) :
    Except String (List (List String)) :=
  entries.mapM fun e => javaFilesAt (join path e.1) e.1 e.2

theorem javaFilesAt_directory (path name : String) (entries : List (String × Node)) :
    javaFilesAt path name (.directory entries true) =
      List.flatten <$> javaFilesAmong path (inOrder entries) := by
  rw [javaFilesAt, javaFilesOf_eq, inOrder, javaFilesAmong,
    ← List.map_mergeSort (r := fun a b => !(decide (b.1 < a.1))) fun _ _ _ _ => rfl, List.mapM_map, map_eq_pure_bind]
  rfl

theorem exists_javaFilesAt_directory_iff {path name : String} {entries : List (String × Node)} :
    (∃ files, javaFilesAt path name (.directory entries true) = .ok files) ↔
      ∃ found, javaFilesAmong path (inOrder entries) = .ok found := by
  rw [javaFilesAt_directory]
  cases javaFilesAmong path (inOrder entries) <;> simp [Functor.map, Except.map]

theorem javaFilesAt_directory_eq_error_iff {path name place : String}
    {entries : List (String × Node)} : javaFilesAt path name (.directory entries true) = .error place ↔
      javaFilesAmong path (inOrder entries) = .error place := by
  rw [javaFilesAt_directory]
  cases javaFilesAmong path (inOrder entries) <;> simp [Functor.map, Except.map]

theorem mem_inOrder {entries : List (String × Node)} {e : String × Node} :
    e ∈ inOrder entries ↔ e ∈ entries :=
  List.mem_mergeSort

/-- The names grow from entry to entry. -/
theorem pairwise_inOrder {entries : List (String × Node)} (h : (entries.map (·.1)).Nodup) :
    (inOrder entries).Pairwise fun a b => a.1 < b.1 := by
  have hsorted : (inOrder entries).Pairwise fun a b => (!(decide (b.1 < a.1))) = true := by
    refine List.pairwise_mergeSort (fun a b c hab hbc => ?_) (fun a b => ?_) entries
    · simp only [Bool.not_eq_true', decide_eq_false_iff_not, not_lt] at hab hbc ⊢
      exact hab.trans hbc
    · simp only [Bool.or_eq_true, Bool.not_eq_true', decide_eq_false_iff_not, not_lt]
      exact le_total a.1 b.1
  have hdistinct : ((inOrder entries).map (·.1)).Nodup :=
    ((List.mergeSort_perm entries _).map (·.1)).nodup_iff.2 h
  refine hsorted.imp₂ (fun a b hle hne => ?_) (List.pairwise_map.1 hdistinct)
  simp only [Bool.not_eq_true', decide_eq_false_iff_not, not_lt] at hle
  exact lt_of_le_of_ne hle hne

theorem inOrder_eq_of_perm {entries sorted : List (String × Node)} (hperm : sorted.Perm entries)
    (hsorted : sorted.Pairwise fun a b => a.1 < b.1) : inOrder entries = sorted := by
  have hdistinct : (entries.map (·.1)).Nodup :=
    (hperm.map _).nodup_iff.1 (List.pairwise_map.2 (hsorted.imp fun hlt => hlt.ne))
  refine ((List.mergeSort_perm entries _).trans hperm.symm).eq_of_pairwise (fun a b _ _ hab hba => ?_)
    (pairwise_inOrder hdistinct) hsorted
  exact absurd hba (lt_asymm hab)

/-- The path to which names lead from a path. -/
def below (path : String) (names : List String) : String := names.foldl join path

/-- The order of the files below a directory: names are compared one by one, by their bytes. -/
def PathLt : List String → List String → Prop := List.Lex fun a b => bytes a < bytes b

/-- Names lead from a node with a given name to a Java file. -/
def JavaFileAt (name : String) (node : Node) (names : List String) : Prop :=
  (∃ content readable, node.at? names = some (.file content readable)) ∧
    isJavaName (names.getLastD name) = true

/-- **Files are collected** from a node exactly if no directory there refuses to be listed. -/
theorem exists_javaFilesAt_iff (path name : String) (node : Node) :
    (∃ files, javaFilesAt path name node = .ok files) ↔ ¬ node.HasClosed := by
  induction node using Node.induct generalizing path name with
  | file content readable =>
    refine iff_of_true ⟨_, javaFilesAt_file path name content readable⟩ ?_
    rintro ⟨⟩
  | link target =>
    refine iff_of_true ⟨_, javaFilesAt_link path name target⟩ ?_
    rintro ⟨⟩
  | directory entries listable ih =>
    cases listable with
    | false =>
      refine iff_of_false ?_ (not_not_intro (.self entries))
      rw [javaFilesAt_closed]
      rintro ⟨files, ⟨⟩⟩
    | true =>
      rw [exists_javaFilesAt_directory_iff, javaFilesAmong, exists_mapM_iff]
      constructor
      · rintro hwalked (_ | ⟨he, hclosed⟩)
        exact (ih _ he _ _).1 (hwalked _ (mem_inOrder.2 he)) hclosed
      · intro hopen e he
        rw [mem_inOrder] at he
        exact (ih e he _ _).2 fun hclosed => hopen (.entry he hclosed)

/-- The files that are collected from a node are those to which `listing` leads. -/
structure Collects (files : String → Except String (List String)) (listing : List (List String))
    (found : List String → Prop) : Prop where
  paths : ∀ path, files path = .ok (listing.map (below path))
  ordered : listing.Pairwise PathLt
  complete : ∀ names, names ∈ listing ↔ found names

/-- **One entry after the other.** What is collected from entries in order is in order. -/
theorem exists_collects_entries {entries : List (String × Node)}
    (hsorted : entries.Pairwise fun a b => a.1 < b.1)
    (h : ∀ e ∈ entries, ∃ listing, Collects (fun path => javaFilesAt path e.1 e.2) listing
      (JavaFileAt e.1 e.2)) :
    ∃ listing, Collects (fun path => List.flatten <$> javaFilesAmong path entries) listing
      fun names => ∃ e ∈ entries, ∃ rest, names = e.1 :: rest ∧ JavaFileAt e.1 e.2 rest := by
  induction entries with
  | nil => exact ⟨[], fun _ => rfl, .nil, by simp⟩
  | cons e entries ih =>
    rw [List.pairwise_cons] at hsorted
    obtain ⟨first, hfirst⟩ := h e List.mem_cons_self
    obtain ⟨others, hothers⟩ := ih hsorted.2 fun d hd => h d (List.mem_cons_of_mem e hd)
    refine ⟨first.map (e.1 :: ·) ++ others, fun path => ?_, ?_, fun names => ?_⟩
    · obtain ⟨found, hfound, hflatten⟩ := map_eq_ok (hothers.paths path)
      have hhere : javaFilesAt (join path e.1) e.1 e.2 = .ok (first.map (below (join path e.1))) :=
        hfirst.paths _
      have hrest : entries.mapM (fun d => javaFilesAt (join path d.1) d.1 d.2) = .ok found := hfound
      simp only [javaFilesAmong, List.mapM_cons, hhere, hrest]
      rw [List.map_append, List.map_map, ← hflatten]
      rfl
    · rw [List.pairwise_append]
      refine ⟨List.pairwise_map.2 (hfirst.ordered.imp .cons), hothers.ordered, ?_⟩
      intro a ha b hb
      obtain ⟨a, -, rfl⟩ := List.mem_map.1 ha
      obtain ⟨d, hd, rest, rfl, -⟩ := (hothers.complete b).1 hb
      exact .rel (bytes_lt_iff.2 (hsorted.1 d hd))
    · rw [List.mem_append, List.mem_map, hothers.complete, List.exists_mem_cons_iff]
      refine or_congr_left (exists_congr fun rest => ?_)
      rw [hfirst.complete, and_comm, eq_comm]

theorem at?_cons {entries : List (String × Node)} (h : (entries.map (·.1)).Nodup) {listable : Bool}
    {name : String} {names : List String} {node : Node} :
    (Node.directory entries listable).at? (name :: names) = some node ↔
      ∃ child, (name, child) ∈ entries ∧ child.at? names = some node := by
  have hat : (Node.directory entries listable).at? (name :: names) =
      (entries.lookup name).bind (Node.at? names) := rfl
  simp only [hat, Option.bind_eq_some_iff, lookup_eq_some_iff h]

theorem javaFileAt_directory {name : String} {entries : List (String × Node)} {listable : Bool}
    (h : (entries.map (·.1)).Nodup) {names : List String} :
    (∃ e ∈ entries, ∃ rest, names = e.1 :: rest ∧ JavaFileAt e.1 e.2 rest) ↔
      JavaFileAt name (.directory entries listable) names := by
  cases names with
  | nil => simp [JavaFileAt, Node.at?]
  | cons n rest =>
    simp only [JavaFileAt, at?_cons h, List.getLastD_cons]
    constructor
    · rintro ⟨⟨n, node⟩, he, _, ⟨⟩, ⟨content, readable, hfile⟩, hname⟩
      exact ⟨⟨content, readable, node, he, hfile⟩, hname⟩
    · rintro ⟨⟨content, readable, node, he, hfile⟩, hname⟩
      exact ⟨(n, node), he, rest, rfl, ⟨content, readable, hfile⟩, hname⟩

/-- **What is collected from a node** are the Java files to which names lead, in order. -/
theorem exists_collects {node : Node} (h : node.WellFormed) (hopen : ¬ node.HasClosed) (name : String) :
    ∃ listing, Collects (fun path => javaFilesAt path name node) listing (JavaFileAt name node) := by
  induction h generalizing name with
  | file content readable =>
    by_cases hname : isJavaName name = true
    · refine ⟨[[]], fun path => by simp [javaFilesAt_file, hname, below], List.pairwise_singleton _ _,
        fun names => ?_⟩
      cases names with
      | nil => simp [JavaFileAt, Node.at?, hname]
      | cons n names => simp [JavaFileAt, Node.at?, Node.entries]
    · refine ⟨[], fun path => by simp [javaFilesAt_file, hname], .nil, fun names => ?_⟩
      cases names with
      | nil => simp [JavaFileAt, hname]
      | cons n names => simp [JavaFileAt, Node.at?, Node.entries]
  | link target =>
    refine ⟨[], fun path => javaFilesAt_link path name target, .nil, fun names => ?_⟩
    cases names with
    | nil => simp [JavaFileAt, Node.at?]
    | cons n names => simp [JavaFileAt, Node.at?, Node.entries]
  | @directory entries listable names distinct below ih =>
    cases listable with
    | false => exact absurd (.self entries) hopen
    | true =>
      obtain ⟨listing, hlisting⟩ := exists_collects_entries (pairwise_inOrder distinct) fun e he =>
        ih e (mem_inOrder.1 he) (fun hclosed => hopen (.entry (mem_inOrder.1 he) hclosed)) e.1
      refine ⟨listing, fun path => ?_, hlisting.ordered, fun rest => ?_⟩
      · rw [javaFilesAt_directory]
        exact hlisting.paths path
      · rw [hlisting.complete, ← javaFileAt_directory distinct]
        simp only [mem_inOrder]

/-! ## Paths -/

/-- The parts of a path that are not empty. -/
def innerParts (path : String) : List String := (parts path).filter (· ≠ "")

theorem splitSlashes_append_slash (part a b : List Char) :
    splitSlashes part (a ++ '/' :: b) = splitSlashes part a ++ splitSlashes [] b := by
  induction a generalizing part with
  | nil => simp [splitSlashes]
  | cons c a ih =>
    by_cases hc : c = '/'
    · simp [splitSlashes, hc, ih]
    · simp [splitSlashes, hc, ih]

theorem splitSlashes_of_notMem {name : List Char} (h : '/' ∉ name) (part : List Char) :
    splitSlashes part name = [part.reverse ++ name] := by
  induction name generalizing part with
  | nil => simp [splitSlashes]
  | cons c name ih =>
    simp only [List.mem_cons, not_or] at h
    have hc : c ≠ '/' := fun hc => h.1 hc.symm
    simp [splitSlashes, hc, ih h.2]

theorem innerParts_slash (a b : String) :
    innerParts (a ++ "/" ++ b) = innerParts a ++ innerParts b := by
  have hlist : (a ++ "/" ++ b).toList = a.toList ++ '/' :: b.toList := by simp
  simp [innerParts, parts, hlist, splitSlashes_append_slash]

theorem innerParts_name {name : String} (h : IsEntryName name) : innerParts name = [name] := by
  obtain ⟨hne, -, -, hslash⟩ := h
  simp [innerParts, parts, splitSlashes_of_notMem hslash, hne]

theorem innerParts_join (path : String) {name : String} (h : IsEntryName name) :
    innerParts (join path name) = innerParts path ++ [name] := by
  unfold join
  split
  · rename_i hlast
    -- The slash at the end of the path does not add a part.
    obtain ⟨front, hfront⟩ := List.getLast?_eq_some_iff.1 hlast
    have hpath : path = String.ofList front ++ "/" ++ "" := by
      rw [← String.toList_inj, hfront]
      simp
    rw [hpath, String.append_empty, innerParts_slash, innerParts_name h,
      ← String.append_empty (s := String.ofList front ++ "/"), innerParts_slash]
    have hempty : innerParts "" = [] := by decide
    rw [hempty, List.append_nil]
  · rw [innerParts_slash, innerParts_name h]

theorem innerParts_below (path : String) {names : List String} (h : ∀ n ∈ names, IsEntryName n) :
    innerParts (below path names) = innerParts path ++ names := by
  induction names generalizing path with
  | nil => exact (List.append_nil _).symm
  | cons n names ih =>
    rw [List.forall_mem_cons] at h
    have hbelow : below path (n :: names) = below (join path n) names := rfl
    rw [hbelow, ih _ h.2, innerParts_join path h.1, List.append_assoc, List.singleton_append]

/-- Different names lead to different paths. -/
theorem below_injective {path : String} {a b : List String} (ha : ∀ n ∈ a, IsEntryName n)
    (hb : ∀ n ∈ b, IsEntryName n) (h : below path a = below path b) : a = b := by
  have hparts := congrArg innerParts h
  rwa [innerParts_below path ha, innerParts_below path hb, List.append_cancel_left_eq] at hparts

theorem isEntryName_of_at? {node m : Node} (h : node.WellFormed) {names : List String}
    (hm : node.at? names = some m) : ∀ n ∈ names, IsEntryName n := by
  induction names generalizing node with
  | nil => simp
  | cons n names ih =>
    cases h with
    | file content readable => simp [Node.at?, Node.entries] at hm
    | link target => simp [Node.at?, Node.entries] at hm
    | directory listable hnames distinct hbelow =>
      obtain ⟨child, hmem, hm⟩ := (at?_cons distinct).1 hm
      exact List.forall_mem_cons.2 ⟨hnames _ hmem, ih (hbelow _ hmem) hm⟩

/-! ## Files below a directory -/

/-- Names lead from a directory to a file whose own name is a stem that is not empty and then
`.java`. -/
def Node.HasJavaFile (directory : Node) (names : List String) : Prop :=
  (∃ content readable, directory.at? names = some (.file content readable)) ∧
    ∃ stem, stem ≠ "" ∧ names.getLast? = some (stem ++ ".java")

/-- The files are the Java files below a directory with a given path, each once, and in the order that
compares the names below the directory one by one, by their bytes. -/
structure ListsBelow (path : String) (directory : Node) (files : List String) : Prop where
  once : files.Nodup
  listing : ∃ listing : List (List String), files = listing.map (below path) ∧
    listing.Pairwise PathLt ∧ ∀ names, names ∈ listing ↔ directory.HasJavaFile names

theorem javaFileAt_iff_hasJavaFile {name : String} {entries : List (String × Node)} {listable : Bool}
    {names : List String} : JavaFileAt name (.directory entries listable) names ↔
      (Node.directory entries listable).HasJavaFile names := by
  unfold JavaFileAt Node.HasJavaFile
  rw [isJavaName_iff]
  refine and_congr_right fun hfile => ?_
  cases names with
  | nil => simp [Node.at?] at hfile
  | cons n names => simp [List.getLast?_cons]

theorem pathLt_iff {a b : List String} : PathLt a b ↔ a < b := by
  constructor
  · intro h
    induction h with
    | nil => exact .nil
    | rel h => exact .rel (bytes_lt_iff.1 h)
    | cons h ih => exact .cons ih
  · intro h
    induction h with
    | nil => exact .nil
    | rel h => exact .rel (bytes_lt_iff.2 h)
    | cons h ih => exact .cons ih

theorem nodup_of_pathLt {listing : List (List String)} (h : listing.Pairwise PathLt) :
    listing.Nodup :=
  h.imp fun hlt => (pathLt_iff.1 hlt).ne

theorem listsBelow_of_wellFormed {entries : List (String × Node)} {listable : Bool}
    (h : (Node.directory entries listable).WellFormed) {path name : String} {files : List String}
    (hfiles : javaFilesAt path name (.directory entries listable) = .ok files) :
    ListsBelow path (.directory entries listable) files := by
  obtain ⟨listing, hlisting⟩ := exists_collects h ((exists_javaFilesAt_iff _ _ _).1 ⟨files, hfiles⟩) name
  obtain rfl : files = listing.map (below path) :=
    Except.ok.inj (hfiles.symm.trans (hlisting.paths path))
  have hcomplete : ∀ names, names ∈ listing ↔ (Node.directory entries listable).HasJavaFile names :=
    fun names => (hlisting.complete names).trans javaFileAt_iff_hasJavaFile
  refine ⟨?_, listing, rfl, hlisting.ordered, hcomplete⟩
  have hnames : ∀ names ∈ listing, ∀ n ∈ names, IsEntryName n := by
    intro names hmem
    obtain ⟨⟨content, readable, hfile⟩, -⟩ := (hcomplete names).1 hmem
    exact isEntryName_of_at? h hfile
  refine List.Nodup.map_on (fun a ha b hb hab => ?_) (nodup_of_pathLt hlisting.ordered)
  exact below_injective (hnames a ha) (hnames b hb) hab

/-- A directory has one list of files. -/
theorem ListsBelow.unique {path : String} {directory directory' : Node} {files files' : List String}
    (h : ListsBelow path directory files) (h' : ListsBelow path directory' files')
    (hsame : ∀ names, directory.HasJavaFile names ↔ directory'.HasJavaFile names) :
    files = files' := by
  obtain ⟨listing, rfl, hordered, hcomplete⟩ := h.listing
  obtain ⟨listing', rfl, hordered', hcomplete'⟩ := h'.listing
  have hperm : listing.Perm listing' := by
    rw [List.perm_ext_iff_of_nodup (nodup_of_pathLt hordered) (nodup_of_pathLt hordered')]
    intro names
    rw [hcomplete, hcomplete', hsame]
  rw [hperm.eq_of_pairwise (fun a b _ _ hab hba => ?_) hordered hordered']
  exact absurd (pathLt_iff.1 hba) (lt_asymm (pathLt_iff.1 hab))

/-! ## Directories that cannot be listed -/

/-- Names lead to a directory that cannot be listed. -/
def Node.ClosedAt (node : Node) (names : List String) : Prop :=
  ∃ entries, node.at? names = some (.directory entries false)

/-- Names lead to the first directory that cannot be listed. A directory comes before what is below it. -/
structure Node.FirstClosed (node : Node) (names : List String) : Prop where
  closed : node.ClosedAt names
  first : ∀ others, node.ClosedAt others → others = names ∨ PathLt names others

theorem closedAt_cons {entries : List (String × Node)} (h : (entries.map (·.1)).Nodup)
    {listable : Bool} {name : String} {names : List String} :
    (Node.directory entries listable).ClosedAt (name :: names) ↔
      ∃ child, (name, child) ∈ entries ∧ child.ClosedAt names := by
  simp only [Node.ClosedAt, at?_cons h]
  constructor
  · rintro ⟨inner, child, hmem, hat⟩
    exact ⟨child, hmem, inner, hat⟩
  · rintro ⟨child, hmem, inner, hat⟩
    exact ⟨inner, child, hmem, hat⟩

theorem Node.ClosedAt.hasClosed {node : Node} (h : node.WellFormed) {names : List String}
    (hclosed : node.ClosedAt names) : node.HasClosed := by
  induction h generalizing names with
  | file content readable =>
    obtain ⟨entries, hat⟩ := hclosed
    cases names with
    | nil => cases hat
    | cons n names => cases hat
  | link target =>
    obtain ⟨entries, hat⟩ := hclosed
    cases names with
    | nil => cases hat
    | cons n names => cases hat
  | @directory entries listable _ distinct _ ih =>
    cases names with
    | nil =>
      obtain ⟨_, ⟨⟩⟩ := hclosed
      exact .self entries
    | cons n names =>
      obtain ⟨child, hmem, hclosed⟩ := (closedAt_cons distinct).1 hclosed
      exact .entry hmem (ih _ hmem hclosed)

/-- The first directory below the first entry with one comes before all others. -/
theorem firstClosed_cons {entries before after : List (String × Node)}
    {e : String × Node} {names : List String} (distinct : (entries.map (·.1)).Nodup)
    (hbelow : ∀ d ∈ entries, d.2.WellFormed) (hsplit : inOrder entries = before ++ e :: after)
    (hbefore : ∀ d ∈ before, ¬ d.2.HasClosed) (hfirst : e.2.FirstClosed names) :
    (Node.directory entries).FirstClosed (e.1 :: names) := by
  have hmem : ∀ d, d ∈ entries ↔ d ∈ before ∨ d = e ∨ d ∈ after := by
    intro d
    rw [← mem_inOrder, hsplit, List.mem_append, List.mem_cons]
  have hsorted := pairwise_inOrder distinct
  rw [hsplit, List.pairwise_append, List.pairwise_cons] at hsorted
  refine ⟨(closedAt_cons distinct).2 ⟨e.2, (hmem e).2 (.inr (.inl rfl)), hfirst.closed⟩, ?_⟩
  intro others hothers
  cases others with
  | nil => obtain ⟨_, ⟨⟩⟩ := hothers
  | cons n others =>
    obtain ⟨child, hchild, hothers⟩ := (closedAt_cons distinct).1 hothers
    rcases (hmem (n, child)).1 hchild with hd | hd | hd
    · exact absurd (hothers.hasClosed (hbelow _ hchild)) (hbefore _ hd)
    · subst hd
      rcases hfirst.first others hothers with rfl | hlt
      · exact .inl rfl
      · exact .inr (.cons hlt)
    · exact .inr (.rel (bytes_lt_iff.2 (hsorted.2.1.1 _ hd)))

/-- The error of a walk names the first directory that cannot be listed. -/
theorem exists_firstClosed {node : Node} (h : node.WellFormed) {path name place : String}
    (herror : javaFilesAt path name node = .error place) :
    ∃ names, node.FirstClosed names ∧ place = below path names := by
  induction h generalizing path name with
  | file content readable =>
    rw [javaFilesAt_file] at herror
    cases herror
  | link target =>
    rw [javaFilesAt_link] at herror
    cases herror
  | @directory entries listable _ distinct hbelow ih =>
    cases listable with
    | false =>
      rw [javaFilesAt_closed] at herror
      cases herror
      refine ⟨[], ⟨⟨entries, rfl⟩, fun others _ => ?_⟩, rfl⟩
      cases others with
      | nil => exact .inl rfl
      | cons n others => exact .inr .nil
    | true =>
      rw [javaFilesAt_directory_eq_error_iff, javaFilesAmong, mapM_eq_error_iff] at herror
      obtain ⟨before, e, after, hsplit, hbefore, herror⟩ := herror
      have he : e ∈ entries := mem_inOrder.1 (by simp [hsplit])
      obtain ⟨names, hfirst, rfl⟩ := ih e he herror
      -- What comes before has been walked, so nothing is closed there.
      have hwalked : ∀ d ∈ before, ¬ d.2.HasClosed := fun d hd =>
        (exists_javaFilesAt_iff _ _ _).1 (hbefore d hd)
      exact ⟨e.1 :: names, firstClosed_cons distinct hbelow hsplit hwalked hfirst, rfl⟩

theorem Node.FirstClosed.unique {node : Node} {a b : List String} (ha : node.FirstClosed a)
    (hb : node.FirstClosed b) : a = b := by
  rcases ha.first b hb.closed with hba | hab
  · exact hba.symm
  rcases hb.first a ha.closed with hab | hba
  · exact hab
  · exact absurd (pathLt_iff.1 hba) (lt_asymm (pathLt_iff.1 hab))

/-- **A walk fails** exactly if a directory cannot be listed, and the error names the first one. -/
theorem javaFilesAt_eq_error_iff {node : Node} (h : node.WellFormed) {path name place : String} :
    javaFilesAt path name node = .error place ↔
      ∃ names, node.FirstClosed names ∧ place = below path names := by
  refine ⟨exists_firstClosed h, ?_⟩
  rintro ⟨names, hfirst, rfl⟩
  cases hwalk : javaFilesAt path name node with
  | ok files =>
    exact absurd (hfirst.closed.hasClosed h) ((exists_javaFilesAt_iff _ _ _).1 ⟨files, hwalk⟩)
  | error place =>
    obtain ⟨others, hothers, rfl⟩ := exists_firstClosed h hwalk
    rw [hfirst.unique hothers]

end JavaNaming.Files
