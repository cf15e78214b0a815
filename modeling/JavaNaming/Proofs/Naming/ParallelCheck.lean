import JavaNaming.Naming.FileCheck
import JavaNaming.Proofs.Naming.FileOutcome
import JavaNaming.Proofs.Naming.ReusedParser
import Mathlib.Data.Fintype.Card
import Mathlib.Logic.Relation

/-!
# Files checked in parallel

Several workers share a list of files. A worker takes any file that waits, checks it with a parser of its
own, which it uses for one file after the other, and records the failure if no earlier file is recorded.
A file that waits may be left out once an earlier file is recorded. `Step` is one such step.

* `Settled`, `Sound`: the invariant. A file that neither waits nor is being checked passes, or is not
  before the file that is recorded; and what is recorded is the failure of its file.
* `sound_of_step`, `sound_of_steps`: every step keeps it, so it holds in every run.
* `weight_lt_of_step`, `exists_step`: a run comes to an end, and can go on as long as files are left.
* `parallel_check_eq_firstFailure`: when no file is left, the failure of the first file that does not pass
  is recorded, as if the files were checked in turn.
-/

namespace JavaNaming.Naming

open Files (FileSystem)
open Relation (ReflTransGen)

/-! ## Workers and their parsers -/

namespace Checker

/-- What is said of a file whose text was parsed with the given result. -/
def answer (c : Checker) (path : String) (source : List Char) :
    Except Java.ParseError Syntax.Tree → Option FileFailure
  | .error e => some (.unparsed path e)
  | .ok t => (c.checkTree source t).map fun v =>
      .violated path ((Text.locate? source v.range.start).getD textStart) v

/-- Read and check a file with a parser that has a memory. -/
def checkFileWith (c : Checker) (parser : ReusedParser) (fs : FileSystem) (m : parser.Memory)
    (path : String) : Option FileFailure × parser.Memory :=
  match fs.readText path with
  | .error e => (some (.unreadable path e), m)
  | .ok source =>
    let (parsed, m) := parser.parse m source
    (c.answer path source parsed, m)

theorem checkText_eq_answer (c : Checker) (path : String) (source : List Char) :
    c.checkText path source = c.answer path source (Java.parse source) := by
  cases h : Java.parse source with
  | error e => exact checkText_of_error h
  | ok t => exact checkText_of_ok h

/-- The memory of the parser does not show in the answer. -/
theorem checkFileWith_fst (c : Checker) (parser : ReusedParser) (fs : FileSystem)
    (m : parser.Memory) (path : String) :
    (c.checkFileWith parser fs m path).1 = c.checkFile fs path := by
  unfold checkFileWith checkFile
  cases fs.readText path with
  | error e => rfl
  | ok source =>
    show c.answer path source (parser.parse m source).1 = c.checkText path source
    rw [parser.parse_eq, checkText_eq_answer]

end Checker

namespace Parallel

/-! ## Steps -/

/-- How far a parallel check of some files has come. -/
structure Progress (parser : ReusedParser) (Worker : Type) (files : List String) where
  /-- The files that no worker has taken. -/
  waiting : Finset (Fin files.length)
  /-- The file that each worker is at. -/
  current : Worker → Option (Fin files.length)
  /-- The memory of the parser of each worker. -/
  memory : Worker → parser.Memory
  /-- The earliest failure that was found, with its file. -/
  recorded : Option (Fin files.length × FileFailure)

/-- What is recorded after a file was checked: a failure takes the place of one of a later file. -/
def record {n : Nat} (recorded : Option (Fin n × FileFailure)) (i : Fin n) :
    Option FileFailure → Option (Fin n × FileFailure)
  | none => recorded
  | some f =>
    match recorded with
    | none => some (i, f)
    | some (j, g) => if i < j then some (i, f) else some (j, g)

section

variable (c : Checker) (fs : FileSystem) {parser : ReusedParser} {Worker : Type}
  {files : List String}

/-- All files wait, and all parsers are new. -/
def Progress.start (parser : ReusedParser) (Worker : Type) (files : List String) :
    Progress parser Worker files :=
  ⟨Finset.univ, fun _ => none, fun _ => parser.fresh, none⟩

/-- No file waits, and no worker is at a file. -/
def Progress.Done (p : Progress parser Worker files) : Prop :=
  p.waiting = ∅ ∧ ∀ w, p.current w = none

variable [DecidableEq Worker]

/-- A worker has taken a file. -/
def Progress.take (p : Progress parser Worker files) (w : Worker) (i : Fin files.length) :
    Progress parser Worker files :=
  { p with waiting := p.waiting.erase i, current := Function.update p.current w (some i) }

/-- A worker has checked the file it is at. -/
def Progress.finish (p : Progress parser Worker files) (w : Worker) (i : Fin files.length) :
    Progress parser Worker files :=
  let (failure?, m) := c.checkFileWith parser fs (p.memory w) (files.get i)
  { p with
    current := Function.update p.current w none
    memory := Function.update p.memory w m
    recorded := record p.recorded i failure? }

/-- A file was left out. -/
def Progress.skip (p : Progress parser Worker files) (i : Fin files.length) :
    Progress parser Worker files :=
  { p with waiting := p.waiting.erase i }

/-- One step of one worker. -/
inductive Step : Progress parser Worker files → Progress parser Worker files → Prop
  | take {p : Progress parser Worker files} (w : Worker) (i : Fin files.length)
    (waits : i ∈ p.waiting) (idle : p.current w = none) : Step p (p.take w i)
  | finish {p : Progress parser Worker files} (w : Worker) (i : Fin files.length)
    (busy : p.current w = some i) : Step p (p.finish c fs w i)
  | skip {p : Progress parser Worker files} (i : Fin files.length) (waits : i ∈ p.waiting)
    (late : ∃ j f, p.recorded = some (j, f) ∧ j < i) : Step p (p.skip i)

end

/-! ## What is recorded -/

section

variable {n : Nat} {recorded : Option (Fin n × FileFailure)} {i j : Fin n} {f : FileFailure}
  {failure? : Option FileFailure}

theorem record_eq_some (h : record recorded i failure? = some (j, f)) :
    recorded = some (j, f) ∨ j = i ∧ failure? = some f := by
  unfold record at h
  split at h
  · exact .inl h
  · split at h
    · cases h
      exact .inr ⟨rfl, rfl⟩
    · split at h
      · cases h
        exact .inr ⟨rfl, rfl⟩
      · exact .inl h

/-- No failure is given up for a later one. -/
theorem record_le (h : recorded = some (j, f)) :
    ∃ j' f', record recorded i failure? = some (j', f') ∧ j' ≤ j := by
  subst h
  cases failure? with
  | none => exact ⟨j, f, rfl, le_refl _⟩
  | some g =>
    by_cases hij : i < j
    · exact ⟨i, g, if_pos hij, hij.le⟩
    · exact ⟨j, f, if_neg hij, le_refl _⟩

/-- After a failure, no later file is recorded. -/
theorem record_some_le : ∃ j' f', record recorded i (some f) = some (j', f') ∧ j' ≤ i := by
  cases recorded with
  | none => exact ⟨i, f, rfl, le_refl _⟩
  | some found =>
    obtain ⟨j, g⟩ := found
    by_cases hij : i < j
    · exact ⟨i, f, if_pos hij, le_refl _⟩
    · exact ⟨j, g, if_neg hij, not_lt.mp hij⟩

end

/-! ## The invariant -/

section

variable {c : Checker} {fs : FileSystem} {parser : ReusedParser} {Worker : Type}
  {files : List String} {p q : Progress parser Worker files}

/-- There is nothing more to find out about a file: it passes, or it is not before the one that is
recorded. -/
def Settled (c : Checker) (fs : FileSystem) (p : Progress parser Worker files)
    (i : Fin files.length) : Prop :=
  c.checkFile fs (files.get i) = none ∨ ∃ j f, p.recorded = some (j, f) ∧ j ≤ i

/-- No file was lost, and what is recorded was found. -/
structure Sound (c : Checker) (fs : FileSystem) (p : Progress parser Worker files) : Prop where
  settled : ∀ i, i ∈ p.waiting ∨ (∃ w, p.current w = some i) ∨ Settled c fs p i
  recorded : ∀ i f, p.recorded = some (i, f) → c.checkFile fs (files.get i) = some f

theorem sound_start : Sound c fs (Progress.start parser Worker files) where
  settled i := .inl (Finset.mem_univ i)
  recorded := nofun

theorem Sound.skip (h : Sound c fs p) {i : Fin files.length}
    (late : ∃ j f, p.recorded = some (j, f) ∧ j < i) : Sound c fs (p.skip i) where
  settled k := by
    rcases h.settled k with hk | hk | hk
    · by_cases hki : k = i
      · obtain ⟨j, f, hj, hlt⟩ := late
        exact .inr (.inr (.inr ⟨j, f, hj, hki ▸ hlt.le⟩))
      · exact .inl (Finset.mem_erase.2 ⟨hki, hk⟩)
    · exact .inr (.inl hk)
    · exact .inr (.inr hk)
  recorded := h.recorded

/-! ## No file left -/

theorem settled_of_done (h : Sound c fs p) (hdone : p.Done) (i : Fin files.length) :
    Settled c fs p i := by
  rcases h.settled i with hi | ⟨w, hw⟩ | hi
  · simp [hdone.1] at hi
  · simp [hdone.2 w] at hw
  · exact hi

/-- When no file is left, the earliest failure is recorded. -/
theorem recorded_eq_some_iff (h : Sound c fs p) (hdone : p.Done) (i : Fin files.length)
    (f : FileFailure) : p.recorded = some (i, f) ↔
      c.checkFile fs (files.get i) = some f ∧ ∀ j < i, c.checkFile fs (files.get j) = none := by
  constructor
  · intro hi
    refine ⟨h.recorded i f hi, fun j hji => ?_⟩
    rcases settled_of_done h hdone j with hj | ⟨k, g, hk, hkj⟩
    · exact hj
    · rw [hi] at hk
      cases hk
      exact absurd hji (not_lt.mpr hkj)
  · rintro ⟨hi, hbefore⟩
    rcases settled_of_done h hdone i with hnone | ⟨k, g, hk, hki⟩
    · rw [hi] at hnone
      cases hnone
    · have hg := h.recorded k g hk
      rcases hki.lt_or_eq with hlt | rfl
      · rw [hbefore k hlt] at hg
        cases hg
      · rw [hi] at hg
        cases hg
        exact hk

theorem recorded_eq_none_iff (h : Sound c fs p) (hdone : p.Done) :
    p.recorded = none ↔ ∀ i, c.checkFile fs (files.get i) = none := by
  constructor
  · intro hnone i
    rcases settled_of_done h hdone i with hi | ⟨k, g, hk, -⟩
    · exact hi
    · rw [hnone] at hk
      cases hk
  · intro hall
    cases hrec : p.recorded with
    | none => rfl
    | some found =>
      have hf := h.recorded found.1 found.2 hrec
      rw [hall] at hf
      cases hf

/-- A search from left to right finds the failure of a file if no file before it fails. -/
theorem firstFailure?_eq_some {i : Fin files.length} {f : FileFailure}
    (hi : c.checkFile fs (files.get i) = some f)
    (hbefore : ∀ j < i, c.checkFile fs (files.get j) = none) :
    c.firstFailure? fs files = some f := by
  refine List.findSome?_eq_some_iff.2 ⟨files.take i, files.get i, files.drop (i + 1), ?_, hi, ?_⟩
  · simp
  · intro path hpath
    obtain ⟨k, hk, rfl⟩ := List.mem_take_iff_getElem.1 hpath
    exact hbefore ⟨k, by omega⟩ (Fin.lt_def.2 (show k < i by omega))

theorem recorded_eq_firstFailure? (h : Sound c fs p) (hdone : p.Done) :
    p.recorded.map (·.2) = c.firstFailure? fs files := by
  cases hrec : p.recorded with
  | none =>
    have hall := (recorded_eq_none_iff h hdone).1 hrec
    refine (List.findSome?_eq_none_iff.2 fun path hpath => ?_).symm
    obtain ⟨i, rfl⟩ := List.get_of_mem hpath
    exact hall i
  | some found =>
    obtain ⟨i, f⟩ := found
    obtain ⟨hi, hbefore⟩ := (recorded_eq_some_iff h hdone i f).1 hrec
    exact (firstFailure?_eq_some hi hbefore).symm

/-! ## Steps keep the invariant -/

variable [DecidableEq Worker]

theorem recorded_finish (p : Progress parser Worker files) (w : Worker) (i : Fin files.length) :
    (p.finish c fs w i).recorded = record p.recorded i (c.checkFile fs (files.get i)) := by
  rw [← c.checkFileWith_fst parser fs (p.memory w)]
  rfl

theorem settled_finish {w : Worker} {i k : Fin files.length} (h : Settled c fs p k) :
    Settled c fs (p.finish c fs w i) k := by
  refine h.imp_right ?_
  rintro ⟨j, f, hj, hjk⟩
  obtain ⟨j', f', hj', hle⟩ : ∃ j' f',
      record p.recorded i (c.checkFile fs (files.get i)) = some (j', f') ∧ j' ≤ j := record_le hj
  exact ⟨j', f', (recorded_finish p w i).trans hj', hle.trans hjk⟩

/-- A file that was checked is settled. -/
theorem settled_finish_self (w : Worker) (i : Fin files.length) :
    Settled c fs (p.finish c fs w i) i := by
  unfold Settled
  rw [recorded_finish]
  cases c.checkFile fs (files.get i) with
  | none => exact .inl rfl
  | some f => exact .inr record_some_le

theorem Sound.take (h : Sound c fs p) {w : Worker} {i : Fin files.length}
    (idle : p.current w = none) : Sound c fs (p.take w i) where
  settled k := by
    rcases h.settled k with hk | ⟨w', hw'⟩ | hk
    · by_cases hki : k = i
      · exact .inr (.inl ⟨w, by simp [Progress.take, hki]⟩)
      · exact .inl (Finset.mem_erase.2 ⟨hki, hk⟩)
    · -- The worker was idle, so it is not the one that has file `k`.
      have hne : w' ≠ w := by
        rintro rfl
        simp [idle] at hw'
      exact .inr (.inl ⟨w', by simp [Progress.take, hne, hw']⟩)
    · exact .inr (.inr hk)
  recorded := h.recorded

theorem Sound.finish (h : Sound c fs p) {w : Worker} {i : Fin files.length}
    (busy : p.current w = some i) : Sound c fs (p.finish c fs w i) where
  settled k := by
    rcases h.settled k with hk | ⟨w', hw'⟩ | hk
    · exact .inl hk
    · by_cases hww : w' = w
      · rw [hww, busy] at hw'
        cases hw'
        exact .inr (.inr (settled_finish_self w i))
      · exact .inr (.inl ⟨w', by simp [Progress.finish, hww, hw']⟩)
    · exact .inr (.inr (settled_finish hk))
  recorded k f hk := by
    rw [recorded_finish] at hk
    rcases record_eq_some hk with hk | ⟨rfl, hk⟩
    · exact h.recorded k f hk
    · exact hk

/-- **Every step** of every worker keeps the invariant. -/
theorem sound_of_step (h : Step c fs p q) (hp : Sound c fs p) : Sound c fs q := by
  cases h with
  | take w i _ idle => exact hp.take idle
  | finish w i busy => exact hp.finish busy
  | skip i _ late => exact hp.skip late

theorem sound_of_steps (h : ReflTransGen (Step c fs) (.start parser Worker files) p) :
    Sound c fs p := by
  induction h with
  | refl => exact sound_start
  | tail _ hstep ih => exact sound_of_step hstep ih

/-! ## Runs come to an end -/

variable [Fintype Worker]

/-- The workers that are at a file. -/
def Progress.busy (p : Progress parser Worker files) : Finset Worker :=
  Finset.univ.filter fun w => (p.current w).isSome

omit [DecidableEq Worker] in
theorem Progress.mem_busy {w : Worker} : w ∈ p.busy ↔ (p.current w).isSome = true := by
  simp [busy]

theorem busy_take_subset (p : Progress parser Worker files) (w : Worker) (i : Fin files.length) :
    (p.take w i).busy ⊆ insert w p.busy := by
  intro w' hw'
  by_cases hww : w' = w
  · exact Finset.mem_insert.2 (.inl hww)
  · refine Finset.mem_insert.2 (.inr (Progress.mem_busy.2 ?_))
    simpa [Progress.take, hww] using Progress.mem_busy.1 hw'

theorem busy_finish_subset (p : Progress parser Worker files) (w : Worker) (i : Fin files.length) :
    (p.finish c fs w i).busy ⊆ p.busy.erase w := by
  intro w' hw'
  have hsome := Progress.mem_busy.1 hw'
  by_cases hww : w' = w
  · simp [Progress.finish, hww] at hsome
  · refine Finset.mem_erase.2 ⟨hww, Progress.mem_busy.2 ?_⟩
    simpa [Progress.finish, hww] using hsome

/-- How much is left to do. A file that waits has to be taken and then checked. -/
def Progress.weight (p : Progress parser Worker files) : Nat := 2 * p.waiting.card + p.busy.card

/-- **Every step** leaves less to do. -/
theorem weight_lt_of_step (h : Step c fs p q) : q.weight < p.weight := by
  unfold Progress.weight
  cases h with
  | take w i waits _ =>
    have hwaiting : (p.take w i).waiting.card < p.waiting.card := Finset.card_erase_lt_of_mem waits
    have hbusy : (p.take w i).busy.card ≤ p.busy.card + 1 :=
      (Finset.card_le_card (busy_take_subset p w i)).trans (Finset.card_insert_le w p.busy)
    omega
  | finish w i busy =>
    have hmem : w ∈ p.busy := Progress.mem_busy.2 (by simp [busy])
    have hbusy : (p.finish c fs w i).busy.card < p.busy.card :=
      (Finset.card_le_card (busy_finish_subset p w i)).trans_lt (Finset.card_erase_lt_of_mem hmem)
    have hwaiting : (p.finish c fs w i).waiting.card = p.waiting.card := rfl
    omega
  | skip i waits _ =>
    have hwaiting : (p.skip i).waiting.card < p.waiting.card := Finset.card_erase_lt_of_mem waits
    have hbusy : (p.skip i).busy.card = p.busy.card := rfl
    omega

variable [Nonempty Worker]

/-- As long as files are left, some worker can go on. -/
theorem exists_step (h : ¬ p.Done) : ∃ q, Step c fs p q := by
  by_cases hbusy : ∃ w i, p.current w = some i
  · obtain ⟨w, i, hw⟩ := hbusy
    exact ⟨_, .finish w i hw⟩
  · have hidle : ∀ w, p.current w = none := by
      intro w
      by_contra hw
      obtain ⟨i, hi⟩ := Option.ne_none_iff_exists'.1 hw
      exact hbusy ⟨w, i, hi⟩
    have hwaiting : p.waiting.Nonempty :=
      Finset.nonempty_iff_ne_empty.2 fun hempty => h ⟨hempty, hidle⟩
    obtain ⟨i, hi⟩ := hwaiting
    obtain ⟨w⟩ := ‹Nonempty Worker›
    exact ⟨_, .take w i hi (hidle w)⟩

theorem exists_done (c : Checker) (fs : FileSystem) (p : Progress parser Worker files) :
    ∃ q, ReflTransGen (Step c fs) p q ∧ q.Done := by
  by_cases hdone : p.Done
  · exact ⟨p, .refl, hdone⟩
  · obtain ⟨q, hstep⟩ : ∃ q, Step c fs p q := exists_step hdone
    have hlt := weight_lt_of_step hstep
    obtain ⟨t, hsteps, ht⟩ := exists_done c fs q
    exact ⟨t, .head hstep hsteps, ht⟩
termination_by p.weight

end

/-- **A parallel check** by any number of workers, in any order: whenever no file is left, what is recorded
is the failure of the first file that does not pass, or nothing if all pass, and so what a check of the
files in turn finds. Every run can be brought to that point. -/
theorem parallel_check_eq_firstFailure (c : Checker) (fs : FileSystem) (parser : ReusedParser)
    (Worker : Type) [DecidableEq Worker] [Fintype Worker] [Nonempty Worker] (files : List String)
    (p : Progress parser Worker files)
    (hrun : ReflTransGen (Step c fs) (.start parser Worker files) p) :
    (p.Done →
      (∀ i f, p.recorded = some (i, f) ↔ c.checkFile fs (files.get i) = some f ∧
        ∀ j < i, c.checkFile fs (files.get j) = none) ∧
      (p.recorded = none ↔ ∀ i, c.checkFile fs (files.get i) = none) ∧
      p.recorded.map (·.2) = c.firstFailure? fs files) ∧
    ∃ q, ReflTransGen (Step c fs) p q ∧ q.Done := by
  have hsound := sound_of_steps hrun
  refine ⟨fun hdone => ⟨?_, ?_, ?_⟩, exists_done c fs p⟩
  · exact recorded_eq_some_iff hsound hdone
  · exact recorded_eq_none_iff hsound hdone
  · exact recorded_eq_firstFailure? hsound hdone

/-- A directory with one file, which is empty. -/
def emptyFile : FileSystem := ⟨.directory [("A.java", .file "".toUTF8)], []⟩

/-- The file and three that are not there. -/
def fourFiles : List String := ["A.java", "B.java", "C.java", "D.java"]

/-- One of the four files. -/
def fileAt (i : Nat) (h : i < fourFiles.length := by decide) : Fin fourFiles.length := ⟨i, h⟩

/-- Two workers check the third file before the second one and the first file last, and leave the fourth
out. The failure of the second file is recorded. -/
theorem parallel_check_eq_firstFailure_twoWorkers :
    ∃ c, Checker.ofConventions .standard = .ok c ∧
      ∃ p : Progress countingParser Bool fourFiles,
        ReflTransGen (Step c emptyFile) (.start countingParser Bool fourFiles) p ∧ p.Done ∧
        p.recorded = some (fileAt 1, .unreadable "B.java" .notFound) ∧
        c.firstFailure? emptyFile fourFiles = some (.unreadable "B.java" .notFound) := by
  obtain ⟨c, hc, h₀⟩ : ∃ c, Checker.ofConventions .standard = .ok c ∧
      c.checkFile emptyFile (fourFiles.get (fileAt 0)) = none := by decide +kernel
  have hmissing (path : String) (h : emptyFile.readText path = .error .notFound) :
      c.checkFile emptyFile path = some (.unreadable path .notFound) := by
    rw [Checker.checkFile, h]
  have h₁ : c.checkFile emptyFile (fourFiles.get (fileAt 1)) =
      some (.unreadable "B.java" .notFound) := hmissing "B.java" (by decide +kernel)
  have h₂ : c.checkFile emptyFile (fourFiles.get (fileAt 2)) =
      some (.unreadable "C.java" .notFound) := hmissing "C.java" (by decide +kernel)
  let start : Progress countingParser Bool fourFiles := .start countingParser Bool fourFiles
  let late := ((start.take false (fileAt 2)).take true (fileAt 1)).finish c emptyFile false (fileAt 2)
  let early := (late.take false (fileAt 0)).finish c emptyFile true (fileAt 1)
  let stop := (early.skip (fileAt 3)).finish c emptyFile false (fileAt 0)
  have hlate : late.recorded = some (fileAt 2, .unreadable "C.java" .notFound) := by
    rw [recorded_finish, h₂]
    rfl
  have hearly : early.recorded = some (fileAt 1, .unreadable "B.java" .notFound) := by
    rw [recorded_finish, h₁, show (late.take false (fileAt 0)).recorded = _ from hlate]
    rfl
  have hfirst : fileAt 0 ∈ ((Finset.univ.erase (fileAt 2)).erase (fileAt 1)) := by decide
  have hlast : fileAt 3 ∈ ((Finset.univ.erase (fileAt 2)).erase (fileAt 1)).erase (fileAt 0) := by
    decide
  have hnone : (((Finset.univ.erase (fileAt 2)).erase (fileAt 1)).erase (fileAt 0)).erase
      (fileAt 3) = ∅ := by decide
  have hrun : ReflTransGen (Step c emptyFile) start stop :=
    .head (.take false (fileAt 2) (Finset.mem_univ _) rfl) <|
    .head (.take true (fileAt 1) (by decide) rfl) <|
    .head (.finish false (fileAt 2) rfl) <|
    .head (.take false (fileAt 0) hfirst rfl) <|
    .head (.finish true (fileAt 1) rfl) <|
    .head (.skip (fileAt 3) hlast ⟨_, _, hearly, by decide⟩) <|
    .single (.finish false (fileAt 0) rfl)
  have hdone : stop.Done := ⟨hnone, fun w => by cases w <;> rfl⟩
  obtain ⟨hresult, -⟩ :=
    parallel_check_eq_firstFailure c emptyFile countingParser Bool fourFiles stop hrun
  obtain ⟨hsome, -, hsearch⟩ := hresult hdone
  have hrecorded := (hsome (fileAt 1) _).2 ⟨h₁, fun j hj => by
    obtain rfl : j = fileAt 0 := Fin.ext (Nat.lt_one_iff.1 hj)
    exact h₀⟩
  refine ⟨c, hc, stop, hrun, hdone, hrecorded, ?_⟩
  rw [← hsearch, hrecorded]
  rfl

end Parallel

end JavaNaming.Naming
