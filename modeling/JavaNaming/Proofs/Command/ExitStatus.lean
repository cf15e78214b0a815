import JavaNaming.Command.Run
import JavaNaming.Proofs.Command.AskedOptions
import JavaNaming.Proofs.Files.PathsGiven
import JavaNaming.Proofs.Naming.FileOutcome

/-!
# The exit status of a check

A check has stages that can fail: the conventions are loaded, their formats are made ready, the paths are
looked up, and the files are checked. Here each stage gets a description of its own, and the outcome is
read off the descriptions.

* `conventionsFor_eq_ok_iff`, `Naming.exists_checker_iff`, `exists_javaFiles_iff`: when the stages before
  the files succeed.
* `checkFile_eq_none_iff`, `checkFile_violation_iff`, `checkFile_no_violation_iff`: a file passes, has a
  violation, or is unusable.
* `run_outcome`: the status goes by the first stage that fails, and among the files by the first that does
  not pass.
-/

namespace JavaNaming.Command

open Files (FileSystem Node)
open Naming (Category Checker Conventions FileFailure NamePattern checkingSequence exists_checker_iff)

/-! ## Conventions in force -/

/-- The conventions in force: those in the file that is asked for, otherwise those in the settings document
of the working directory if it is a file, otherwise the standard ones. -/
inductive InForce (fs : FileSystem) (o : Options) : Conventions → Prop
  | asked {path : String} {conv : Conventions} (asked : o.config? = some path)
    (loads : Config.load fs path = .ok conv) : InForce fs o conv
  | found {conv : Conventions} (unasked : o.config? = none)
    (found : fs.isFile "stylecheck.toml" = true)
    (loads : Config.load fs "stylecheck.toml" = .ok conv) : InForce fs o conv
  | standard (unasked : o.config? = none) (absent : fs.isFile "stylecheck.toml" = false) :
    InForce fs o Conventions.standard

section

variable {fs : FileSystem} {o : Options}

theorem conventionsFor_of_configPath? {path : String} (h : configPath? fs o = some path)
    {conv : Conventions} : conventionsFor fs o = .ok conv ↔ Config.load fs path = .ok conv := by
  unfold conventionsFor
  rw [h]
  dsimp only
  cases Config.load fs path <;> simp

theorem conventionsFor_eq_ok_iff {conv : Conventions} :
    conventionsFor fs o = .ok conv ↔ InForce fs o conv := by
  cases hasked : o.config? with
  | some path =>
    have hpath : configPath? fs o = some path := by simp [configPath?, hasked]
    rw [conventionsFor_of_configPath? hpath]
    constructor
    · exact .asked hasked
    · rintro (⟨h, hload⟩ | ⟨h, -, -⟩ | ⟨h, -⟩)
      · cases hasked.symm.trans h
        exact hload
      · cases hasked.symm.trans h
      · cases hasked.symm.trans h
  | none =>
    cases hfile : fs.isFile standardConfig with
    | true =>
      have hpath : configPath? fs o = some standardConfig := by simp [configPath?, hasked, hfile]
      rw [conventionsFor_of_configPath? hpath]
      constructor
      · exact .found hasked hfile
      · rintro (⟨h, -⟩ | ⟨-, -, hload⟩ | ⟨-, h⟩)
        · cases hasked.symm.trans h
        · exact hload
        · cases hfile.symm.trans h
    | false =>
      have hconv : conventionsFor fs o = .ok Conventions.standard := by
        simp [conventionsFor, configPath?, hasked, hfile]
      rw [hconv]
      constructor
      · rintro ⟨⟩
        exact .standard hasked hfile
      · rintro (⟨h, -⟩ | ⟨-, h, -⟩ | ⟨-, -⟩)
        · cases hasked.symm.trans h
        · cases hfile.symm.trans h
        · rfl

end

/-! ## Paths -/

/-- The files are found exactly if all paths lead somewhere and all directories there can be listed. -/
theorem exists_javaFiles_iff {fs : FileSystem} {paths : List String} :
    (∃ files, fs.javaFiles paths = .ok files) ↔
      ∀ path ∈ paths, ∃ node, fs.find path = .ok node ∧ ¬ node.HasClosed := by
  simp only [← Files.exists_javaFilesFor_iff, ← exists_mapM_iff]
  unfold FileSystem.javaFiles
  constructor
  · rintro ⟨files, h⟩
    obtain ⟨found, hfound, -⟩ := bind_eq_ok h
    exact ⟨found, hfound⟩
  · rintro ⟨found, hfound⟩
    refine ⟨found.flatten, ?_⟩
    rw [hfound]
    rfl

/-! ## Files -/

/-- A file that can be read and parsed, and whose names all have their formats. -/
def Passes (c : Checker) (fs : FileSystem) (path : String) : Prop :=
  ∃ source t, fs.readText path = .ok source ∧ Java.parse source = .ok t ∧
    ∀ i ∈ checkingSequence source t, (c.pattern i.category).accepts i.name = true

/-- A file that can be read and parsed, with a name that has not its format. -/
def Violates (c : Checker) (fs : FileSystem) (path : String) : Prop :=
  ∃ source t, fs.readText path = .ok source ∧ Java.parse source = .ok t ∧
    ∃ i ∈ checkingSequence source t, (c.pattern i.category).accepts i.name = false

/-- A file that cannot be read or parsed. -/
def Unusable (fs : FileSystem) (path : String) : Prop :=
  (∃ e, fs.readText path = .error e) ∨
    ∃ source e, fs.readText path = .ok source ∧ Java.parse source = .error e

section

variable {c : Checker} {fs : FileSystem} {path : String}

theorem checkFile_eq_none_iff : c.checkFile fs path = none ↔ Passes c fs path := by
  unfold Checker.checkFile Passes
  cases fs.readText path with
  | error e => simp
  | ok source =>
    rw [Naming.checkText_eq_none_iff]
    constructor
    · rintro ⟨t, ht, hall⟩
      exact ⟨source, t, rfl, ht, hall⟩
    · rintro ⟨_, t, ⟨⟩, ht, hall⟩
      exact ⟨t, ht, hall⟩

theorem checkFile_violation_iff :
    (∃ f, c.checkFile fs path = some f ∧ f.isViolation = true) ↔ Violates c fs path := by
  unfold Checker.checkFile Violates
  cases fs.readText path with
  | error e => simp [FileFailure.isViolation]
  | ok source =>
    dsimp only
    constructor
    · rintro ⟨f, hf, hviolation⟩
      match f, hviolation with
      | .violated p l v, _ =>
        obtain ⟨t, ht, hi⟩ := Naming.checkText_violated_iff.1 ⟨p, l, v, hf⟩
        exact ⟨source, t, rfl, ht, hi⟩
    · rintro ⟨_, t, ⟨⟩, ht, hi⟩
      obtain ⟨p, l, v, hf⟩ : ∃ p l v, c.checkText path source = some (.violated p l v) :=
        Naming.checkText_violated_iff.2 ⟨t, ht, hi⟩
      exact ⟨_, hf, rfl⟩

theorem checkFile_no_violation_iff :
    (∃ f, c.checkFile fs path = some f ∧ f.isViolation = false) ↔ Unusable fs path := by
  unfold Checker.checkFile Unusable
  cases fs.readText path with
  | error e => simp [FileFailure.isViolation]
  | ok source =>
    dsimp only
    constructor
    · rintro ⟨f, hf, hviolation⟩
      match f, hviolation with
      | .unreadable p e, _ => exact absurd hf Naming.checkText_ne_unreadable
      | .unparsed p e, _ =>
        exact .inr ⟨source, e, rfl, (Naming.checkText_eq_unparsed_iff.1 hf).2⟩
    · rintro (⟨e, ⟨⟩⟩ | ⟨_, e, ⟨⟩, he⟩)
      exact ⟨_, Naming.checkText_of_error he, rfl⟩

end

/-! ## The first file that does not pass -/

/-- A file of a list, before which all files pass. -/
def FirstSuch (c : Checker) (fs : FileSystem) (files : List String) (P : String → Prop) : Prop :=
  ∃ before path after, files = before ++ path :: after ∧ (∀ p ∈ before, Passes c fs p) ∧ P path

section

variable {c : Checker} {fs : FileSystem} {files : List String}

theorem firstFailure?_eq_none_iff :
    c.firstFailure? fs files = none ↔ ∀ path ∈ files, Passes c fs path := by
  simp only [Checker.firstFailure?, List.findSome?_eq_none_iff, checkFile_eq_none_iff]

theorem firstFailure?_eq_some_iff {f : FileFailure} :
    c.firstFailure? fs files = some f ↔
      FirstSuch c fs files fun path => c.checkFile fs path = some f := by
  unfold Checker.firstFailure? FirstSuch
  rw [List.findSome?_eq_some_iff]
  simp only [checkFile_eq_none_iff, and_comm]

theorem exists_firstFailure?_iff {P : FileFailure → Prop} {Q : String → Prop}
    (hPQ : ∀ path, (∃ f, c.checkFile fs path = some f ∧ P f) ↔ Q path) :
    (∃ f, c.firstFailure? fs files = some f ∧ P f) ↔ FirstSuch c fs files Q := by
  simp only [firstFailure?_eq_some_iff, FirstSuch]
  constructor
  · rintro ⟨f, ⟨before, path, after, hsplit, hbefore, hf⟩, hP⟩
    exact ⟨before, path, after, hsplit, hbefore, (hPQ path).1 ⟨f, hf, hP⟩⟩
  · rintro ⟨before, path, after, hsplit, hbefore, hQ⟩
    obtain ⟨f, hf, hP⟩ := (hPQ path).2 hQ
    exact ⟨f, ⟨before, path, after, hsplit, hbefore, hf⟩, hP⟩

/-- The status says whether there is a failure, and whether it is a violation. -/
theorem statusOf_eq_iff {failure? : Option FileFailure} {status : Nat} :
    statusOf failure? = status ↔ (failure? = none ∧ status = 0) ∨
      ∃ f, failure? = some f ∧ status = if f.isViolation then 1 else 2 := by
  constructor
  · rintro rfl
    cases failure? with
    | none => exact .inl ⟨rfl, rfl⟩
    | some f => exact .inr ⟨f, rfl, rfl⟩
  · rintro (⟨rfl, rfl⟩ | ⟨f, rfl, rfl⟩) <;> rfl

end

/-! ## The outcome -/

/-- Something is in the way of a check: the conventions do not load, one of their formats is no pattern, a
path leads nowhere, or a directory at or below a path cannot be listed. -/
inductive Obstructed (fs : FileSystem) (o : Options) : Prop
  | conventions (h : ∀ conv, ¬ InForce fs o conv)
  | format {conv : Conventions} (h : InForce fs o conv) (k : Category)
    (invalid : ∀ p, NamePattern.ofFormat (conv.format k) ≠ .ok p)
  | path (path : String) (h : path ∈ o.paths) (missing : ∀ node, fs.find path ≠ .ok node)
  | directory (path : String) (h : path ∈ o.paths) {node : Node} (found : fs.find path = .ok node)
    (closed : node.HasClosed)

section

variable {fs : FileSystem} {o : Options}

theorem InForce.unique {conv conv' : Conventions} (h : InForce fs o conv) (h' : InForce fs o conv') :
    conv = conv' := by
  rw [← conventionsFor_eq_ok_iff] at h h'
  exact Except.ok.inj (h.symm.trans h')

/-- Nothing is in the way exactly if all stages before the files succeed. -/
theorem not_obstructed_iff :
    ¬ Obstructed fs o ↔ ∃ conv c files, InForce fs o conv ∧ Checker.ofConventions conv = .ok c ∧
      fs.javaFiles o.paths = .ok files := by
  constructor
  · intro h
    obtain ⟨conv, hconv⟩ : ∃ conv, InForce fs o conv := by
      by_contra hno
      exact h (.conventions fun conv hconv => hno ⟨conv, hconv⟩)
    obtain ⟨c, hc⟩ : ∃ c, Checker.ofConventions conv = .ok c := by
      refine exists_checker_iff.2 fun k => ?_
      by_contra hno
      exact h (.format hconv k fun p hp => hno ⟨p, hp⟩)
    obtain ⟨files, hfiles⟩ : ∃ files, fs.javaFiles o.paths = .ok files := by
      refine exists_javaFiles_iff.2 fun path hpath => ?_
      by_contra hno
      refine h (.path path hpath fun node hnode => hno ⟨node, hnode, fun hclosed => ?_⟩)
      exact h (.directory path hpath hnode hclosed)
    exact ⟨conv, c, files, hconv, hc, hfiles⟩
  · rintro ⟨conv, c, files, hconv, hc, hfiles⟩
      (h | ⟨hconv', k, h⟩ | ⟨path, hpath, h⟩ | ⟨path, hpath, hfound, hclosed⟩)
    · exact h conv hconv
    · cases hconv.unique hconv'
      obtain ⟨p, hp⟩ := exists_checker_iff.1 ⟨c, hc⟩ k
      exact h p hp
    · obtain ⟨node, hnode, -⟩ := exists_javaFiles_iff.1 ⟨files, hfiles⟩ path hpath
      exact h node hnode
    · obtain ⟨node, hnode, hopen⟩ := exists_javaFiles_iff.1 ⟨files, hfiles⟩ path hpath
      cases hnode.symm.trans hfound
      exact hopen hclosed

theorem checkerFor_eq_ok_iff {conv : Conventions} {c : Checker} :
    checkerFor conv = .ok c ↔ Checker.ofConventions conv = .ok c := by
  unfold checkerFor
  cases Checker.ofConventions conv <;> simp

theorem filesFor_eq_ok_iff {files : List String} :
    filesFor fs o = .ok files ↔ fs.javaFiles o.paths = .ok files := by
  unfold filesFor
  cases fs.javaFiles o.paths <;> simp

theorem checkFiles_of_obstructed (h : Obstructed fs o) :
    (checkFiles fs o).status = 2 ∧ (checkFiles fs o).output = "" := by
  unfold checkFiles
  dsimp only
  cases hconv : conventionsFor fs o with
  | error e => exact ⟨rfl, rfl⟩
  | ok conv =>
    dsimp only
    cases hc : checkerFor conv with
    | error e => exact ⟨rfl, rfl⟩
    | ok c =>
      dsimp only
      cases hfiles : filesFor fs o with
      | error e => exact ⟨rfl, rfl⟩
      | ok files =>
        -- All stages have succeeded, so nothing was in the way.
        exact absurd h (not_obstructed_iff.2 ⟨conv, c, files, conventionsFor_eq_ok_iff.1 hconv,
          checkerFor_eq_ok_iff.1 hc, filesFor_eq_ok_iff.1 hfiles⟩)

variable {conv : Conventions} {c : Checker} {files : List String}

/-- The outcome of a check goes by the first file that does not pass, if nothing is in the way. -/
theorem checkFiles_of_files (hconv : InForce fs o conv) (hc : Checker.ofConventions conv = .ok c)
    (hfiles : fs.javaFiles o.paths = .ok files) :
    (checkFiles fs o).status = statusOf (c.firstFailure? fs files) ∧
      (checkFiles fs o).output =
        (if (c.firstFailure? fs files).isNone && !o.quiet then summary files else "") ∧
      (checkFiles fs o).errors = ((c.firstFailure? fs files).map report).getD "" := by
  unfold checkFiles
  rw [conventionsFor_eq_ok_iff.2 hconv]
  dsimp only
  rw [checkerFor_eq_ok_iff.2 hc]
  dsimp only
  rw [filesFor_eq_ok_iff.2 hfiles]
  exact ⟨rfl, rfl, rfl⟩

end

theorem run_check {fs : FileSystem} {args : List String} {o : Options}
    (h : Request.ofArguments args = .ok (.check o)) : run fs args = checkFiles fs o := by
  unfold run
  rw [h]

/-- **The outcome of a check.** The options are those that the command line spells. The status is 2 if the
conventions do not load, one of their formats is no pattern, a path leads nowhere, or a directory cannot be
listed. Otherwise it goes by the files that the paths stand for: 0 if all pass, and 1 or 2 if the first that
does not pass has a violation or is unusable. The summary is printed exactly if the status is 0 and it was
not asked to be quiet, and the failure of that first file is reported. -/
theorem run_outcome (fs : FileSystem) (args : List String) (o : Options)
    (h : Request.ofArguments args = .ok (.check o)) :
    (∃ uses, Spells args uses ∧ Asks uses o) ∧
    (Obstructed fs o → (run fs args).status = 2 ∧ (run fs args).output = "") ∧
    (¬ Obstructed fs o → ∃ conv c files, InForce fs o conv ∧ Checker.ofConventions conv = .ok c ∧
      fs.javaFiles o.paths = .ok files ∧
      ((run fs args).status = 0 ↔ ∀ path ∈ files, Passes c fs path) ∧
      ((run fs args).status = 1 ↔ FirstSuch c fs files (Violates c fs)) ∧
      ((run fs args).status = 2 ↔ FirstSuch c fs files (Unusable fs)) ∧
      (run fs args).output = (if (run fs args).status = 0 ∧ o.quiet = false then
        s!"Checked {files.length} file(s), no naming violations\n" else "") ∧
      ∀ f, FirstSuch c fs files (fun path => c.checkFile fs path = some f) →
        (run fs args).errors =
          (if f.isViolation then "error: " else "fatal: ") ++ f.message ++ "\n") := by
  rw [run_check h]
  refine ⟨?_, checkFiles_of_obstructed, fun hclear => ?_⟩
  · obtain ⟨uses, hspells, -, -, hasks⟩ := ofArguments_eq_check_iff.1 h
    exact ⟨uses, hspells, hasks⟩
  obtain ⟨conv, c, files, hconv, hc, hfiles⟩ := not_obstructed_iff.1 hclear
  obtain ⟨hstatus, houtput, herrors⟩ := checkFiles_of_files hconv hc hfiles
  refine ⟨conv, c, files, hconv, hc, hfiles, ?_, ?_, ?_, ?_, fun f hf => ?_⟩
  · rw [hstatus, ← firstFailure?_eq_none_iff, statusOf_eq_iff]
    grind
  · rw [hstatus, ← exists_firstFailure?_iff fun _ => checkFile_violation_iff, statusOf_eq_iff]
    grind
  · rw [hstatus, ← exists_firstFailure?_iff fun _ => checkFile_no_violation_iff, statusOf_eq_iff]
    grind
  · have hnone : statusOf (c.firstFailure? fs files) = 0 ↔ c.firstFailure? fs files = none := by
      rw [statusOf_eq_iff]
      grind
    rw [houtput, hstatus]
    simp only [hnone, Bool.and_eq_true, Option.isNone_iff_eq_none, Bool.not_eq_true']
    rfl
  · rw [herrors, firstFailure?_eq_some_iff.2 hf]
    rfl

/-- A directory with the class `a` in a file, settings that allow its name, and a directory that cannot be
listed. -/
def guardedFiles : FileSystem :=
  ⟨.directory [("A.java", .file (String.ofList Naming.lowerClassText).toUTF8),
    ("legacy.toml", .file "[naming]\ntype-style = \"legacy-snake-case\"\n".toUTF8),
    ("shut", .directory [] false)], []⟩

/-- The conventions of these settings. -/
def legacyConventions : Conventions := { Conventions.standard with typeStyle := .legacySnakeCase }

/-- The name is a violation by the standard conventions but not by the settings that are asked for, and the
summary is left out if that is asked for too. A path that leads nowhere and a directory that cannot be
listed are in the way, also behind a file with a violation. -/
theorem run_outcome_guardedFiles :
    (run guardedFiles ["A.java"]).status = 1 ∧
      (run guardedFiles ["--config=legacy.toml", "A.java"]).output =
        "Checked 1 file(s), no naming violations\n" ∧
      (run guardedFiles ["-qc", "legacy.toml", "A.java"]).status = 0 ∧
      (run guardedFiles ["-qc", "legacy.toml", "A.java"]).output = "" ∧
      (run guardedFiles ["A.java", "Gone"]).status = 2 ∧
      (run guardedFiles ["A.java", "shut"]).status = 2 := by
  have hfiles : guardedFiles.javaFiles ["A.java"] = .ok ["A.java"] := by decide +kernel
  have hload : Config.load guardedFiles "legacy.toml" = .ok legacyConventions := by
    obtain ⟨conv, hload, rfl⟩ : ∃ conv, Config.load guardedFiles "legacy.toml" = .ok conv ∧
        conv = legacyConventions := by decide +kernel
    exact hload
  have hlegacy : ∃ c, Checker.ofConventions legacyConventions = .ok c ∧
      c.checkFile guardedFiles "A.java" = none := by decide +kernel
  have hviolated : ∃ c, Checker.ofConventions .standard = .ok c ∧
      c.checkFile guardedFiles "A.java" =
        some (.violated "A.java" ⟨3, 11⟩ Naming.lowerClassViolation) := by decide +kernel
  obtain ⟨standard, hstandard, hviolated⟩ := hviolated
  obtain ⟨legacy, hlegacy, hpasses⟩ := hlegacy
  have houtcome : ∀ args o conv c, Request.ofArguments args = .ok (.check o) → o.paths = ["A.java"] →
      InForce guardedFiles o conv → Checker.ofConventions conv = .ok c →
        (Passes c guardedFiles "A.java" → (run guardedFiles args).status = 0) ∧
        (Violates c guardedFiles "A.java" → (run guardedFiles args).status = 1) ∧
        (run guardedFiles args).output = (if (run guardedFiles args).status = 0 ∧ o.quiet = false then
          "Checked 1 file(s), no naming violations\n" else "") := by
    intro args o conv c hargs hpaths hconv hc
    obtain ⟨-, -, hclear⟩ := run_outcome guardedFiles args o hargs
    have hfound : guardedFiles.javaFiles o.paths = .ok ["A.java"] := by
      rw [hpaths]
      exact hfiles
    obtain ⟨conv', c', files', hconv', hc', hfiles', hzero, hone, -, houtput, -⟩ :=
      hclear (not_obstructed_iff.2 ⟨conv, c, _, hconv, hc, hfound⟩)
    cases hconv.unique hconv'
    cases hc.symm.trans hc'
    cases hfound.symm.trans hfiles'
    refine ⟨fun hpass => hzero.2 ?_, fun hviolates => hone.2 ⟨[], "A.java", [], rfl, by simp, hviolates⟩,
      houtput⟩
    simpa using hpass
  have hasked : ∀ o : Options, o.config? = some "legacy.toml" →
      InForce guardedFiles o legacyConventions := fun o ho => .asked ho hload
  obtain ⟨hloud, -, hsummary⟩ := houtcome ["--config=legacy.toml", "A.java"]
    ⟨["A.java"], some "legacy.toml", none, false, false⟩ legacyConventions legacy (by decide +kernel) rfl
    (hasked _ rfl) hlegacy
  obtain ⟨hquiet, -, hsilent⟩ := houtcome ["-qc", "legacy.toml", "A.java"]
    ⟨["A.java"], some "legacy.toml", none, true, false⟩ legacyConventions legacy (by decide +kernel) rfl
    (hasked _ rfl) hlegacy
  have hpasses : Passes legacy guardedFiles "A.java" := checkFile_eq_none_iff.1 hpasses
  refine ⟨?_, ?_, hquiet hpasses, ?_, ?_, ?_⟩
  · exact (houtcome ["A.java"] ⟨["A.java"], none, none, false, false⟩ .standard standard
      (by decide +kernel) rfl (.standard rfl (by decide +kernel)) hstandard).2.1
      (checkFile_violation_iff.1 ⟨_, hviolated, rfl⟩)
  · rw [hsummary, hloud hpasses]
    rfl
  · rw [hsilent, hquiet hpasses]
    rfl
  · obtain ⟨-, hobstructed, -⟩ := run_outcome guardedFiles ["A.java", "Gone"]
      ⟨["A.java", "Gone"], none, none, false, false⟩ (by decide +kernel)
    have hgone : (guardedFiles.find "Gone").isOk = false := by decide +kernel
    refine (hobstructed (.path "Gone" (by simp) fun node hnode => ?_)).1
    rw [hnode] at hgone
    cases hgone
  · obtain ⟨-, hobstructed, -⟩ := run_outcome guardedFiles ["A.java", "shut"]
      ⟨["A.java", "shut"], none, none, false, false⟩ (by decide +kernel)
    have hshut : guardedFiles.find "shut" = .ok (.directory [] false) := by rfl
    exact (hobstructed (.directory "shut" (by simp) hshut (.self []))).1

end JavaNaming.Command
