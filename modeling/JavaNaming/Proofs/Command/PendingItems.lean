import JavaNaming.Command.Argument
import JavaNaming.Proofs.Result

/-!
# Items that are kept back

While arguments are read, an item whose values may still follow is kept back. Its values are looked at when
something else comes or the arguments end. Here reading is compared with reading one use after the other,
with nothing kept back.

* `take_paths_append`: paths that are taken together could as well be taken one by one.
* `readFlag_settle`, `readName_settle`, `readLetters_settle`: flags are read after what is kept back.
* `readPath_settle`: a path is read as one use, though it is kept back.
* `read_settle`: keeping an item back makes no difference to how the command line is read.
-/

namespace JavaNaming.Command

/-- What a part of a command line is for: a flag, a flag with its value, or a path. -/
inductive Use where
  | flag (f : Flag)
  | value (f : Flag) (text : String)
  | path (text : String)

/-- An argument that is no flag: it does not start with a dash, or it is a dash alone. -/
def IsPlain (arg : String) : Prop := arg.toList.head? ≠ some '-' ∨ arg.toList = ['-']

/-! ## Reading uses -/

namespace State

/-- Read one use. -/
def add (s : State) : Use → Except Stop State
  | .flag f =>
    if s.used.contains (.flag f) then throw (.error (.repeated f))
    else return (s.use (.flag f)).setFlag f
  | .value f text => s.take (.flag f) [text]
  | .path text => s.take .paths [text]

/-- Nothing is kept back. -/
structure Settled (s : State) : Prop where
  pending : s.pending? = none
  waiting : s.waiting = false

variable {s t r : State}

theorem Settled.settle_eq (h : s.Settled) : s.settle = .ok s := by
  unfold settle
  rw [h.pending]
  rfl

theorem Settled.use (h : s.Settled) (item : Item) : (s.use item).Settled := ⟨h.pending, h.waiting⟩

theorem add_flag_eq_ok_iff {f : Flag} : s.add (.flag f) = .ok t ↔
    .flag f ∉ s.used ∧ t = (s.use (.flag f)).setFlag f := by
  unfold add
  by_cases h : Item.flag f ∈ s.used
  · simp [h, throw, throwThe, MonadExceptOf.throw]
  · simp [h, pure, Except.pure, eq_comm]

theorem take_paths_eq_ok_iff {paths : List String} : s.take .paths paths = .ok t ↔ "" ∉ paths ∧
    t = { s.use .paths with options := { s.options with paths := s.options.paths ++ paths } } := by
  unfold take
  by_cases h : "" ∈ paths
  · simp [h, throw, throwThe, MonadExceptOf.throw]
  · simp [h, pure, Except.pure, eq_comm]

theorem take_flag_eq_ok_iff {f : Flag} {v : String} : s.take (.flag f) [v] = .ok t ↔
    .flag f ∉ s.used ∧ (s.use (.flag f)).setValue f v = .ok t := by
  unfold take
  by_cases h : Item.flag f ∈ s.used
  · simp [h, throw, throwThe, MonadExceptOf.throw]
  · simp [h]

theorem take_flag_nil_ne_ok {f : Flag} : s.take (.flag f) [] ≠ .ok t := by
  rintro ⟨⟩

theorem setValue_config_eq_ok_iff {v : String} : s.setValue .config v = .ok t ↔
    v ≠ "" ∧ t = { s with options := { s.options with config? := some v } } := by
  unfold setValue
  by_cases h : v = ""
  · simp [h, throw, throwThe, MonadExceptOf.throw]
  · simp [h, pure, Except.pure, eq_comm]

theorem setValue_eq_ok_iff {f : Flag} (hf : f ≠ .config) {v : String} : s.setValue f v = .ok t ↔
    ∃ n, count v.toList = .ok n ∧ t = { s with options := { s.options with jobs? := some n } } := by
  unfold setValue
  cases f with
  | config => exact absurd rfl hf
  | _ =>
    cases count v.toList with
    | ok n => simp [pure, Except.pure, eq_comm]
    | error e => simp [throw, throwThe, MonadExceptOf.throw]

theorem settled_setValue (h : s.Settled) {f : Flag} {v : String} (ht : s.setValue f v = .ok t) :
    t.Settled := by
  by_cases hf : f = .config
  · subst hf
    obtain ⟨-, rfl⟩ := setValue_config_eq_ok_iff.1 ht
    exact ⟨h.pending, h.waiting⟩
  · obtain ⟨n, -, rfl⟩ := (setValue_eq_ok_iff hf).1 ht
    exact ⟨h.pending, h.waiting⟩

theorem settled_take (h : s.Settled) {item : Item} {values : List String}
    (ht : s.take item values = .ok t) : t.Settled := by
  cases item with
  | paths =>
    obtain ⟨-, rfl⟩ := take_paths_eq_ok_iff.1 ht
    exact ⟨h.pending, h.waiting⟩
  | flag f =>
    cases values with
    | nil => cases ht
    | cons v values =>
      obtain ⟨-, ht⟩ := take_flag_eq_ok_iff.1 ht
      exact settled_setValue (h.use _) ht

theorem settled_of_settle (h : s.waiting = false) (ht : s.settle = .ok t) : t.Settled := by
  unfold settle at ht
  split at ht
  · cases ht
    exact ⟨‹_›, h⟩
  · exact settled_take ⟨rfl, rfl⟩ ht

theorem settled_setFlag (h : s.Settled) (f : Flag) : (s.setFlag f).Settled := by
  cases f <;> exact ⟨h.pending, h.waiting⟩

theorem settled_add (h : s.Settled) {u : Use} (ht : s.add u = .ok t) : t.Settled := by
  cases u with
  | value f v => exact @settled_take s t h (.flag f) [v] ht
  | path p => exact @settled_take s t h .paths [p] ht
  | flag f =>
    obtain ⟨-, rfl⟩ := add_flag_eq_ok_iff.1 ht
    exact settled_setFlag (h.use _) f

theorem use_use (s : State) (item : Item) : (s.use item).use item = s.use item := by
  by_cases h : item ∈ s.used <;> simp [use, h]

/-- Taking paths together is taking them in two parts. -/
theorem take_paths_append {a b : List String} : s.take .paths (a ++ b) = .ok r ↔
    ∃ t, s.take .paths a = .ok t ∧ t.take .paths b = .ok r := by
  have htwice : ∀ options, ({ s.use .paths with options := options } : State).use .paths =
      { s.use .paths with options := options } := by
    intro options
    exact congrArg (fun u : State => { u with options := options }) (use_use s .paths)
  simp only [take_paths_eq_ok_iff, List.mem_append, not_or]
  constructor
  · rintro ⟨⟨ha, hb⟩, rfl⟩
    refine ⟨_, ⟨ha, rfl⟩, hb, ?_⟩
    rw [htwice, List.append_assoc]
  · rintro ⟨t, ⟨ha, rfl⟩, hb, rfl⟩
    refine ⟨⟨ha, hb⟩, ?_⟩
    rw [htwice, List.append_assoc]

/-! ## Items that are kept back -/

/-- Whatever is kept back, nothing is after it has been settled. -/
def Settles (s : State) : Prop := ∀ t, s.settle = .ok t → t.Settled

theorem readFlag_settle (h : s.Settles) (f : Flag) (attached? : Option String) :
    s.readFlag f attached? = .ok r ↔ ∃ t, s.settle = .ok t ∧ t.readFlag f attached? = .ok r := by
  unfold readFlag
  rw [bind_eq_ok_iff]
  refine exists_congr fun t => and_congr_right fun ht => ?_
  rw [(h t ht).settle_eq]
  rfl

theorem readName_settle (h : s.Settles) (name : String) (value? : Option String) :
    s.readName name value? = .ok r ↔ ∃ t, s.settle = .ok t ∧ t.readName name value? = .ok r := by
  unfold readName
  cases Flag.ofName? name with
  | none => simp [throw, throwThe, MonadExceptOf.throw]
  | some f =>
    cases value? with
    | none => exact readFlag_settle h f none
    | some v =>
      dsimp only
      split
      · exact readFlag_settle h f (some v)
      · simp [throw, throwThe, MonadExceptOf.throw]

theorem readLetters_settle (h : s.Settles) (c : Char) (cs : List Char) :
    s.readLetters (c :: cs) = .ok r ↔ ∃ t, s.settle = .ok t ∧ t.readLetters (c :: cs) = .ok r := by
  simp only [readLetters]
  cases Flag.ofLetter? c with
  | none => simp [throw, throwThe, MonadExceptOf.throw]
  | some f =>
    dsimp only
    split
    · split
      · exact readFlag_settle h f none
      · exact readFlag_settle h f _
      · exact readFlag_settle h f _
    · exact bind_eq_ok_iff_of_first fun u => readFlag_settle h f none

theorem settle_paths {paths : List String} (h : s.pending? = some (.paths, paths)) :
    s.settle = { s with pending? := none, waiting := false }.take .paths paths := by
  unfold settle
  rw [h]

theorem readPath_more {paths : List String} (h : s.pending? = some (.paths, paths)) (path : String) :
    s.readPath path = .ok { s with pending? := some (.paths, paths ++ [path]) } := by
  unfold readPath
  rw [h]
  rfl

theorem readPath_first (h : ∀ paths, s.pending? ≠ some (.paths, paths)) (path : String) :
    s.readPath path = s.settle >>= fun t => .ok { t with pending? := some (.paths, [path]) } := by
  unfold readPath
  split
  · exact absurd ‹_› (h _)
  · rfl

theorem settle_readPath_first (h : t.Settled) (path : String) :
    settle { t with pending? := some (.paths, [path]) } = t.add (.path path) := by
  obtain ⟨options, used, pending?, waiting⟩ := t
  obtain rfl : pending? = none := h.pending
  obtain rfl : waiting = false := h.waiting
  rfl

/-- A path is read as one use, whatever is done next, if that does not depend on what is kept back. -/
theorem readPath_settle (h : s.waiting = false) {g : State → Except Stop State}
    (hg : ∀ s : State, s.waiting = false → (g s = .ok r ↔ ∃ t, s.settle = .ok t ∧ g t = .ok r))
    (path : String) : (s.readPath path >>= g) = .ok r ↔
      ∃ t, s.settle = .ok t ∧ ∃ u, t.add (.path path) = .ok u ∧ g u = .ok r := by
  by_cases hpaths : ∃ paths, s.pending? = some (.paths, paths)
  · obtain ⟨paths, hpaths⟩ := hpaths
    have hmore : ∀ u, settle { s with pending? := some (.paths, paths ++ [path]) } = .ok u ↔
        ∃ t, s.settle = .ok t ∧ t.add (.path path) = .ok u := by
      intro u
      rw [settle_paths hpaths]
      exact take_paths_append
    rw [readPath_more hpaths]
    show g { s with pending? := some (.paths, paths ++ [path]) } = .ok r ↔ _
    rw [hg { s with pending? := some (.paths, paths ++ [path]) } h]
    simpa only [bind_eq_ok_iff] using bind_eq_ok_iff_of_first hmore
  · rw [readPath_first fun paths hpending => hpaths ⟨paths, hpending⟩, bind_assoc, bind_eq_ok_iff]
    refine exists_congr fun t => and_congr_right fun ht => ?_
    have hsettled := settled_of_settle h ht
    show g { t with pending? := some (.paths, [path]) } = .ok r ↔ _
    rw [hg { t with pending? := some (.paths, [path]) } hsettled.waiting, settle_readPath_first hsettled]

theorem settle_eq_ok_iff (h : s.waiting = false) :
    s.settle = .ok r ↔ ∃ t, s.settle = .ok t ∧ t.settle = .ok r := by
  constructor
  · intro hr
    exact ⟨r, hr, (settled_of_settle h hr).settle_eq⟩
  · rintro ⟨t, ht, hr⟩
    rw [(settled_of_settle h ht).settle_eq] at hr
    rwa [← hr]

/-- After two dashes all arguments are read as paths. -/
theorem readPaths_settle (h : s.waiting = false) (paths : List String) :
    (paths.foldlM readPath s >>= settle) = .ok r ↔
      ∃ t, s.settle = .ok t ∧ (paths.foldlM readPath t >>= settle) = .ok r := by
  induction paths generalizing s with
  | nil => exact settle_eq_ok_iff h
  | cons path paths ih =>
    simp only [List.foldlM_cons, bind_assoc, readPath_settle h (fun _ h => ih h)]
    refine exists_congr fun t => and_congr_right fun ht => ?_
    have hsettled := settled_of_settle h ht
    rw [readPath_settle hsettled.waiting (fun _ h => ih h), hsettled.settle_eq]
    simp

theorem readPaths_eq_ok_iff (h : s.Settled) (paths : List String) :
    (paths.foldlM readPath s >>= settle) = .ok r ↔ (paths.map .path).foldlM add s = .ok r := by
  induction paths generalizing s with
  | nil =>
    show s.settle = .ok r ↔ Except.ok s = .ok r
    rw [h.settle_eq]
  | cons path paths ih =>
    rw [List.foldlM_cons, bind_assoc, readPath_settle h.waiting fun _ h => readPaths_settle h paths,
      h.settle_eq, List.map_cons, List.foldlM_cons, bind_eq_ok_iff]
    simp only [Except.ok.injEq, exists_eq_left']
    exact exists_congr fun t => and_congr_right fun ht => ih (settled_add h ht)

/-! ## Arguments -/

/-- The two ways to start with a dash, and all else. -/
theorem readArgument_cases (arg : String) : (∃ cs, arg.toList = '-' :: '-' :: cs) ∨
    (∃ c cs, arg.toList = '-' :: c :: cs ∧ c ≠ '-') ∨ IsPlain arg := by
  unfold IsPlain
  rcases arg.toList with _ | ⟨a, _ | ⟨b, cs⟩⟩
  · simp
  · by_cases ha : a = '-' <;> simp [ha]
  · by_cases ha : a = '-' <;> by_cases hb : b = '-' <;> simp [ha, hb]

theorem readArgument_name {arg : String} {cs : List Char} (h : arg.toList = '-' :: '-' :: cs)
    (s : State) : s.readArgument arg = s.readName (splitEquals cs).1 (splitEquals cs).2 := by
  unfold readArgument
  rw [h]
  rfl

theorem readArgument_letters {arg : String} {c : Char} {cs : List Char}
    (h : arg.toList = '-' :: c :: cs) (hc : c ≠ '-') (s : State) :
    s.readArgument arg = s.readLetters (c :: cs) := by
  unfold readArgument
  rw [h]
  split
  · rename_i heq
    cases heq
    exact absurd rfl hc
  · rename_i heq
    cases heq
    rfl
  · rename_i heq
    exact absurd rfl (heq c cs)

theorem readArgument_plain {arg : String} (h : IsPlain arg) (s : State) :
    s.readArgument arg = s.readPlain arg := by
  unfold readArgument
  split
  · simp_all [IsPlain]
  · simp_all [IsPlain]
  · rfl

theorem ne_dashes_of_isPlain {arg : String} (h : IsPlain arg) : arg ≠ "--" := by
  rintro rfl
  revert h
  unfold IsPlain
  decide

theorem ne_dashes_of_letter {arg : String} {c : Char} {cs : List Char}
    (h : arg.toList = '-' :: c :: cs) (hc : c ≠ '-') : arg ≠ "--" := by
  rintro rfl
  cases h
  exact hc rfl

theorem read_dashes (s : State) (args : List String) :
    s.read ("--" :: args) = args.foldlM readPath s >>= settle :=
  rfl

theorem read_cons {arg : String} (h : arg ≠ "--") (s : State) (args : List String) :
    s.read (arg :: args) = s.readArgument arg >>= fun t => t.read args := by
  rw [read, if_neg h]

/-- An argument with flags is read after what is kept back. -/
theorem readArgument_settle (h : s.Settles) {arg : String} (harg : ¬ IsPlain arg) :
    s.readArgument arg = .ok r ↔ ∃ t, s.settle = .ok t ∧ t.readArgument arg = .ok r := by
  rcases readArgument_cases arg with ⟨cs, hcs⟩ | ⟨c, cs, hcs, hc⟩ | hplain
  · simp only [readArgument_name hcs]
    exact readName_settle h _ _
  · simp only [readArgument_letters hcs hc]
    exact readLetters_settle h c cs
  · exact absurd hplain harg

theorem readPlain_of_not_waiting (h : s.waiting = false) (arg : String) :
    s.readPlain arg = s.readPath arg := by
  unfold readPlain
  rw [h]

/-- **Keeping an item back makes no difference** to how the command line is read. -/
theorem read_settle (h : s.waiting = false) (args : List String) :
    s.read args = .ok r ↔ ∃ t, s.settle = .ok t ∧ t.read args = .ok r := by
  induction args generalizing s with
  | nil => exact settle_eq_ok_iff h
  | cons arg args ih =>
    by_cases hdashes : arg = "--"
    · subst hdashes
      exact readPaths_settle h args
    simp only [read_cons hdashes]
    by_cases hplain : IsPlain arg
    · simp only [readArgument_plain hplain, readPlain_of_not_waiting h]
      rw [readPath_settle h fun _ h => ih h]
      refine exists_congr fun t => and_congr_right fun ht => ?_
      have hsettled := settled_of_settle h ht
      rw [readPlain_of_not_waiting hsettled.waiting,
        readPath_settle hsettled.waiting (fun _ h => ih h), hsettled.settle_eq]
      simp
    · exact bind_eq_ok_iff_of_first fun u =>
        readArgument_settle (fun t => settled_of_settle h) hplain

/-- A path is read as one use. -/
theorem read_path (h : s.Settled) {arg : String} (hplain : IsPlain arg) (args : List String) :
    s.read (arg :: args) = .ok r ↔ ∃ t, s.add (.path arg) = .ok t ∧ t.read args = .ok r := by
  rw [read_cons (ne_dashes_of_isPlain hplain), readArgument_plain hplain,
    readPlain_of_not_waiting h.waiting, readPath_settle h.waiting fun _ h => read_settle h args,
    h.settle_eq]
  simp

end State

end JavaNaming.Command
