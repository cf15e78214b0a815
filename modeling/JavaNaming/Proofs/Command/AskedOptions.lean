import JavaNaming.Proofs.Command.CommandLine
import Mathlib.Data.List.Induction
import Mathlib.Data.List.Nodup

/-!
# Options that are asked for

Which command lines ask for a check, and with which options. The options are described by the uses that the
command line spells.

* `State.Holds.step`, `State.addAll_start`: one more use that is read is held in the state, and so are all
  uses of a command line.
* `Asks.unique`: uses ask for one set of options.
* `ofArguments_eq_check_iff`: the command lines that ask for a check.
-/

namespace JavaNaming.Command

/-! ## Uses and options -/

/-- The flag that is used. -/
def Use.flag? : Use → Option Flag
  | .flag f | .value f _ => some f
  | .path _ => none

/-- The path that is given. -/
def Use.path? : Use → Option String
  | .path text => some text
  | .flag _ | .value .. => none

/-- Flags have values exactly if they need one. -/
def Use.Proper : Use → Prop
  | .flag f => f.IsSwitch
  | .value f _ => f.HasValue
  | .path _ => True

/-- Uses that can be read: no flag is used twice, no path and no file is empty, and the number of jobs is
a number. -/
structure Readable (uses : List Use) : Prop where
  once : (uses.filterMap Use.flag?).Nodup
  paths : .path "" ∉ uses
  config : .value .config "" ∉ uses
  jobs : ∀ v, .value .jobs v ∈ uses → ∃ n, count v.toList = .ok n

/-- The flags that uses ask for. -/
structure AsksFlags (uses : List Use) (o : Options) : Prop where
  config : ∀ v, o.config? = some v ↔ .value .config v ∈ uses
  jobs : ∀ n, o.jobs? = some n ↔ ∃ v, .value .jobs v ∈ uses ∧ count v.toList = .ok n
  quiet : o.quiet = true ↔ .flag .quiet ∈ uses
  verbose : o.verbose = true ↔ .flag .verbose ∈ uses

/-- The options that uses ask for. Where no path is given, all files of the working directory are meant. -/
structure Asks (uses : List Use) (o : Options) : Prop extends AsksFlags uses o where
  paths : o.paths =
    if uses.filterMap Use.path? = [] then ["."] else uses.filterMap Use.path?

theorem SpellsLetters.proper {cs : List Char} {uses : List Use} {next? : Option Flag}
    (h : SpellsLetters cs uses next?) : (∀ u ∈ uses, u.Proper) ∧ ∀ f ∈ next?, f.HasValue := by
  induction h with
  | nil => simp
  | switch h _ ih => exact ⟨List.forall_mem_cons.2 ⟨h, ih.1⟩, ih.2⟩
  | attached h _ _ => simpa [Use.Proper] using h
  | equals h v => simpa [Use.Proper] using h
  | waiting h => simpa using h

theorem SpellsFlags.proper {arg : String} {uses : List Use} {next? : Option Flag}
    (h : SpellsFlags arg uses next?) : (∀ u ∈ uses, u.Proper) ∧ ∀ f ∈ next?, f.HasValue := by
  cases h with
  | name _ h =>
    cases h with
    | switch h => simpa [Use.Proper] using h
    | equals h v => simpa [Use.Proper] using h
    | waiting h => simpa using h
  | letters _ h => exact h.proper

theorem Spells.proper {args : List String} {uses : List Use} (h : Spells args uses) :
    ∀ u ∈ uses, u.Proper := by
  induction h with
  | nil => simp
  | dashes paths => simp [Use.Proper]
  | path _ _ ih => exact List.forall_mem_cons.2 ⟨trivial, ih⟩
  | flags h _ ih => exact List.forall_mem_append.2 ⟨h.proper.1, ih⟩
  | value h _ _ ih =>
    exact List.forall_mem_append.2 ⟨h.proper.1, List.forall_mem_cons.2 ⟨h.proper.2 _ rfl, ih⟩⟩

/-- One more use can be read if it can be read on its own and is not a repetition. -/
theorem readable_append_iff {uses : List Use} {u : Use} : Readable (uses ++ [u]) ↔
    Readable uses ∧ Readable [u] ∧ ∀ f ∈ u.flag?, f ∉ uses.filterMap Use.flag? := by
  constructor
  · intro h
    have honce := h.once
    rw [List.filterMap_append, List.nodup_append] at honce
    have hpaths := h.paths
    have hconfig := h.config
    have hjobs := h.jobs
    simp only [List.mem_append, not_or] at hpaths hconfig hjobs
    refine ⟨⟨honce.1, hpaths.1, hconfig.1, fun v hv => hjobs v (.inl hv)⟩,
      ⟨honce.2.1, hpaths.2, hconfig.2, fun v hv => hjobs v (.inr hv)⟩, fun f hf hmem => ?_⟩
    exact honce.2.2 f hmem f (List.mem_filterMap.2 ⟨u, by simp, hf⟩) rfl
  · rintro ⟨h, hu, hnew⟩
    refine ⟨?_, ?_, ?_, fun v hv => ?_⟩
    · rw [List.filterMap_append, List.nodup_append]
      refine ⟨h.once, hu.once, ?_⟩
      rintro f hf _ hf' rfl
      obtain ⟨u', hu', hflag⟩ := List.mem_filterMap.1 hf'
      rw [List.mem_singleton] at hu'
      subst hu'
      exact hnew f hflag hf
    · simpa using ⟨h.paths, by simpa using hu.paths⟩
    · simpa using ⟨h.config, by simpa using hu.config⟩
    · rcases List.mem_append.1 hv with hv | hv
      · exact h.jobs v hv
      · exact hu.jobs v hv

namespace State

variable {s t : State} {uses : List Use} {u : Use}

/-- The state holds the options of the uses that were read. -/
structure Holds (s : State) (uses : List Use) : Prop where
  used : ∀ f, .flag f ∈ s.used ↔ f ∈ uses.filterMap Use.flag?
  paths : s.options.paths = uses.filterMap Use.path?
  flags : AsksFlags uses s.options

theorem mem_use {item item' : Item} : item ∈ (s.use item').used ↔ item ∈ s.used ∨ item = item' := by
  unfold use
  by_cases h : item' ∈ s.used
  · simp only [List.contains_eq_mem, h, decide_true, if_true]
    constructor
    · exact .inl
    · rintro (hmem | rfl)
      · exact hmem
      · exact h
  · simp [h]

theorem readable_flag (f : Flag) : Readable [.flag f] :=
  ⟨by simp [Use.flag?], by simp, by simp, by simp⟩

theorem readable_path_iff {p : String} : Readable [.path p] ↔ p ≠ "" := by
  constructor
  · rintro h rfl
    exact h.paths List.mem_cons_self
  · exact fun hp => ⟨List.nodup_nil, by simpa using hp.symm, by simp, by simp⟩

theorem readable_config_iff {v : String} : Readable [.value .config v] ↔ v ≠ "" := by
  constructor
  · rintro h rfl
    exact h.config List.mem_cons_self
  · exact fun hv => ⟨by simp [Use.flag?], by simp, by simpa using hv.symm, by simp⟩

theorem readable_jobs_iff {v : String} : Readable [.value .jobs v] ↔ ∃ n, count v.toList = .ok n := by
  constructor
  · exact fun h => h.jobs v List.mem_cons_self
  · exact fun hv => ⟨by simp [Use.flag?], by simp, by simp, by simpa using hv⟩

theorem add_config_eq_ok_iff {v : String} : s.add (.value .config v) = .ok t ↔
    .flag .config ∉ s.used ∧ v ≠ "" ∧ t = { s.use (.flag .config) with
      options := { s.options with config? := some v } } :=
  take_flag_eq_ok_iff.trans (and_congr_right fun _ => setValue_config_eq_ok_iff)

theorem add_jobs_eq_ok_iff {v : String} : s.add (.value .jobs v) = .ok t ↔
    .flag .jobs ∉ s.used ∧ ∃ n, count v.toList = .ok n ∧ t = { s.use (.flag .jobs) with
      options := { s.options with jobs? := some n } } :=
  take_flag_eq_ok_iff.trans (and_congr_right fun _ => setValue_eq_ok_iff (by decide))

theorem add_path_eq_ok_iff {p : String} : s.add (.path p) = .ok t ↔
    p ≠ "" ∧ t = { s.use .paths with options := { s.options with paths := s.options.paths ++ [p] } } := by
  have hmem : "" ∉ [p] ↔ p ≠ "" := by simp [eq_comm]
  exact take_paths_eq_ok_iff.trans (and_congr_left' hmem)

/-- A use is read exactly if it can be read on its own and is not a repetition. -/
theorem Holds.exists_add_iff (h : s.Holds uses) (hu : u.Proper) : (∃ t, s.add u = .ok t) ↔
    Readable [u] ∧ ∀ f ∈ u.flag?, f ∉ uses.filterMap Use.flag? := by
  cases u with
  | flag f => simp [add_flag_eq_ok_iff, h.used, readable_flag, Use.flag?]
  | value f v =>
    rcases hu with rfl | rfl
    · simp [add_config_eq_ok_iff, h.used, readable_config_iff, Use.flag?, and_comm]
    · simp [add_jobs_eq_ok_iff, h.used, readable_jobs_iff, Use.flag?, and_comm]
  | path p => simp [add_path_eq_ok_iff, readable_path_iff, Use.flag?]

theorem notMem_of_unused (h : s.Holds uses) {f : Flag} (hf : .flag f ∉ s.used) (v : String) :
    .value f v ∉ uses :=
  fun hv => hf ((h.used f).2 (List.mem_filterMap.2 ⟨_, hv, rfl⟩))

theorem Holds.mem_used (h : s.Holds uses) {f : Flag} (hu : u.flag? = some f) (g : Flag) :
    .flag g ∈ (s.use (.flag f)).used ↔ g ∈ (uses ++ [u]).filterMap Use.flag? := by
  rw [List.filterMap_append, List.mem_append, ← h.used, mem_use]
  simp [hu]

/-- **One more use** that is read is held as well. -/
theorem Holds.step (h : s.Holds uses) (hu : u.Proper) (ht : s.add u = .ok t) : t.Holds (uses ++ [u]) := by
  have hused := fun f => @Holds.mem_used s uses u h f
  obtain ⟨hconfig, hjobs, hquiet, hverbose⟩ := h.flags
  cases u with
  | flag f =>
    obtain ⟨-, rfl⟩ := add_flag_eq_ok_iff.1 ht
    rcases hu with rfl | rfl
    all_goals
      refine ⟨hused _ rfl, ?_, ⟨?_, ?_, ?_, ?_⟩⟩
      all_goals simp [setFlag, use, h.paths, hconfig, hjobs, hquiet, hverbose, Use.path?]
  | value f v =>
    rcases hu with rfl | rfl
    · obtain ⟨hnew, -, rfl⟩ := add_config_eq_ok_iff.1 ht
      refine ⟨hused _ rfl, by simp [h.paths, Use.path?], ⟨fun file => ?_, ?_, ?_, ?_⟩⟩
      · simp [notMem_of_unused h hnew, eq_comm]
      all_goals simp [hjobs, hquiet, hverbose]
    · obtain ⟨hnew, n, hn, rfl⟩ := add_jobs_eq_ok_iff.1 ht
      refine ⟨hused _ rfl, by simp [h.paths, Use.path?], ⟨by simp [hconfig], fun m => ?_, ?_, ?_⟩⟩
      · simp [notMem_of_unused h hnew, hn]
      all_goals simp [hquiet, hverbose]
  | path p =>
    obtain ⟨-, rfl⟩ := add_path_eq_ok_iff.1 ht
    refine ⟨fun f => ?_, ?_, ⟨?_, ?_, ?_, ?_⟩⟩
    · rw [mem_use]
      simp [h.used, Use.flag?]
    all_goals simp [h.paths, hconfig, hjobs, hquiet, hverbose, Use.path?]

theorem holds_start : start.Holds [] := by
  refine ⟨?_, rfl, ⟨?_, ?_, ?_, ?_⟩⟩ <;> simp [start]

/-- **All uses of a command line** are read exactly if they can be read, and then the state holds them. -/
theorem addAll_start (h : ∀ u ∈ uses, u.Proper) :
    (Readable uses → ∃ s, uses.foldlM add start = .ok s) ∧
      ∀ s, uses.foldlM add start = .ok s → Readable uses ∧ s.Holds uses := by
  induction uses using List.reverseRecOn with
  | nil =>
    refine ⟨fun _ => ⟨start, rfl⟩, ?_⟩
    rintro s ⟨⟩
    exact ⟨⟨by simp, by simp, by simp, by simp⟩, holds_start⟩
  | append_singleton uses u ih =>
    obtain ⟨hreads, hholds⟩ := ih fun v hv => h v (by simp [hv])
    have hproper : u.Proper := h u (by simp)
    constructor
    · intro hreadable
      obtain ⟨hbefore, hu⟩ := readable_append_iff.1 hreadable
      obtain ⟨s, hs⟩ := hreads hbefore
      obtain ⟨t, ht⟩ := ((hholds s hs).2.exists_add_iff hproper).2 hu
      refine ⟨t, ?_⟩
      rw [List.foldlM_append]
      exact bind_eq_ok_iff.2 ⟨s, hs, bind_eq_ok_iff.2 ⟨t, ht, rfl⟩⟩
    · intro t ht
      rw [List.foldlM_append] at ht
      obtain ⟨s, hs, ht⟩ := bind_eq_ok ht
      obtain ⟨t', ht, ⟨⟩⟩ := bind_eq_ok ht
      obtain ⟨hbefore, hs⟩ := hholds s hs
      exact ⟨readable_append_iff.2 ⟨hbefore, (hs.exists_add_iff hproper).1 ⟨t, ht⟩⟩, hs.step hproper ht⟩

end State

theorem ofState_eq_ok_iff {s : State} {request : Request} : Request.ofState s = .ok request ↔
    ¬ (s.options.quiet = true ∧ s.options.verbose = true) ∧ request = .check { s.options with
      paths := if s.options.paths = [] then ["."] else s.options.paths } := by
  unfold Request.ofState
  by_cases h : (s.options.quiet && s.options.verbose) = true
  · rw [if_pos h]
    rw [Bool.and_eq_true] at h
    simp [h]
  · rw [if_neg h]
    rw [Bool.and_eq_true] at h
    simp only [h, not_false_eq_true, true_and, List.isEmpty_iff, standardPath, Except.ok.injEq]
    exact eq_comm

theorem State.Holds.asks {s : State} {uses : List Use} (h : s.Holds uses) : Asks uses { s.options with
    paths := if s.options.paths = [] then ["."] else s.options.paths } := by
  refine ⟨⟨h.flags.config, h.flags.jobs, h.flags.quiet, h.flags.verbose⟩, ?_⟩
  rw [← h.paths]

/-- Uses ask for one set of options. -/
theorem Asks.unique {uses : List Use} {o o' : Options} (h : Asks uses o) (h' : Asks uses o') : o = o' := by
  obtain ⟨paths, config?, jobs?, quiet, verbose⟩ := o
  obtain ⟨paths', config?', jobs?', quiet', verbose'⟩ := o'
  obtain rfl : paths = paths' := h.paths.trans h'.paths.symm
  obtain rfl : config? = config?' := Option.ext fun v => (h.config v).trans (h'.config v).symm
  obtain rfl : jobs? = jobs?' := Option.ext fun n => (h.jobs n).trans (h'.jobs n).symm
  obtain rfl : quiet = quiet' := Bool.eq_iff_iff.2 (h.quiet.trans h'.quiet.symm)
  obtain rfl : verbose = verbose' := Bool.eq_iff_iff.2 (h.verbose.trans h'.verbose.symm)
  rfl

theorem settled_start : State.start.Settled := ⟨rfl, rfl⟩

theorem exists_read_of_ofArguments {args : List String} {o : Options} :
    Request.ofArguments args = .ok (.check o) ↔
      ∃ s, State.start.read args = .ok s ∧ Request.ofState s = .ok (.check o) := by
  unfold Request.ofArguments
  cases State.start.read args with
  | ok s => simp
  | error stop => cases stop <;> simp

/-- **The command lines that ask for a check** are those that spell uses that can be read, and not both of
the flags that exclude each other. The options are the ones that are asked for. -/
theorem ofArguments_eq_check_iff {args : List String} {o : Options} :
    Request.ofArguments args = .ok (.check o) ↔ ∃ uses, Spells args uses ∧ Readable uses ∧
      ¬ (.flag .quiet ∈ uses ∧ .flag .verbose ∈ uses) ∧ Asks uses o := by
  simp only [exists_read_of_ofArguments, State.read_eq_ok_iff settled_start, ofState_eq_ok_iff,
    Request.check.injEq]
  constructor
  · rintro ⟨s, ⟨uses, hspells, hs⟩, hexclusive, rfl⟩
    obtain ⟨hreadable, hholds⟩ := (State.addAll_start hspells.proper).2 s hs
    refine ⟨uses, hspells, hreadable, ?_, hholds.asks⟩
    rwa [← hholds.flags.quiet, ← hholds.flags.verbose]
  · rintro ⟨uses, hspells, hreadable, hexclusive, hasks⟩
    obtain ⟨s, hs⟩ := (State.addAll_start hspells.proper).1 hreadable
    obtain ⟨-, hholds⟩ := (State.addAll_start hspells.proper).2 s hs
    refine ⟨s, ⟨uses, hspells, hs⟩, ?_, hasks.unique hholds.asks⟩
    rwa [hholds.flags.quiet, hholds.flags.verbose]

end JavaNaming.Command
