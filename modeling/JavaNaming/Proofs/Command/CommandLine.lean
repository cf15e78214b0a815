import JavaNaming.Proofs.Command.PendingItems
import JavaNaming.Proofs.Text.Runs

/-!
# Command lines as they are written

A command line spells the uses of flags and the paths, in order. Flags have long names or letters, and their
values are attached to them or follow as arguments of their own.

* `Spells`: how uses are written.
* `readLetters_eq_ok_iff`, `readName_eq_ok_iff`, `readArgument_eq_ok_iff`: an argument is read as the uses
  that it spells.
* `read_leave`: a flag that waits for its value takes the next argument, if that is no flag.
* `read_eq_ok_iff`: reading a command line is reading the uses that it spells, one after the other.
-/

namespace JavaNaming.Command

/-! ## Written command lines -/

/-- A flag without a value that does not end the reading. -/
def Flag.IsSwitch (f : Flag) : Prop := f = .quiet ∨ f = .verbose

/-- A flag with a value. -/
def Flag.HasValue (f : Flag) : Prop := f = .config ∨ f = .jobs

/-- What is written after two dashes. The flag, if any, is the one whose value is the next argument. -/
inductive SpellsName : List Char → List Use → Option Flag → Prop
  | switch {f : Flag} (h : f.IsSwitch) : SpellsName f.name.toList [.flag f] none
  | equals {f : Flag} (h : f.HasValue) (v : List Char) :
    SpellsName (f.name.toList ++ '=' :: v) [.value f (String.ofList v)] none
  | waiting {f : Flag} (h : f.HasValue) : SpellsName f.name.toList [] (some f)

/-- What is written after one dash: letters, the last of which may have a value. -/
inductive SpellsLetters : List Char → List Use → Option Flag → Prop
  | nil : SpellsLetters [] [] none
  | switch {f : Flag} (h : f.IsSwitch) {cs : List Char} {uses : List Use} {next? : Option Flag}
    (rest : SpellsLetters cs uses next?) : SpellsLetters (f.letter :: cs) (.flag f :: uses) next?
  | attached {f : Flag} (h : f.HasValue) {v : List Char} (given : v ≠ []) (bare : v.head? ≠ some '=') :
    SpellsLetters (f.letter :: v) [.value f (String.ofList v)] none
  | equals {f : Flag} (h : f.HasValue) (v : List Char) :
    SpellsLetters (f.letter :: '=' :: v) [.value f (String.ofList v)] none
  | waiting {f : Flag} (h : f.HasValue) : SpellsLetters [f.letter] [] (some f)

/-- What is written in one argument that starts with a dash. -/
inductive SpellsFlags (arg : String) (uses : List Use) (next? : Option Flag) : Prop
  | name {cs : List Char} (h : arg.toList = '-' :: '-' :: cs) (spells : SpellsName cs uses next?)
  | letters {c : Char} {cs : List Char} (h : arg.toList = '-' :: c :: cs)
    (spells : SpellsLetters (c :: cs) uses next?)

/-- What is written in a command line. After two dashes alone there are only paths. -/
inductive Spells : List String → List Use → Prop
  | nil : Spells [] []
  | dashes (paths : List String) : Spells ("--" :: paths) (paths.map .path)
  | path {arg : String} {args : List String} {uses : List Use} (plain : IsPlain arg)
    (rest : Spells args uses) : Spells (arg :: args) (.path arg :: uses)
  | flags {arg : String} {args : List String} {own uses : List Use} (h : SpellsFlags arg own none)
    (rest : Spells args uses) : Spells (arg :: args) (own ++ uses)
  | value {arg v : String} {args : List String} {own uses : List Use} {f : Flag}
    (h : SpellsFlags arg own (some f)) (plain : IsPlain v) (rest : Spells args uses) :
    Spells (arg :: v :: args) (own ++ .value f v :: uses)

namespace State

variable {s t r : State}

/-! ## Flags -/

/-- The state after uses of which the last may still wait for its value. -/
def leave (s : State) : Option Flag → State
  | none => s
  | some f => { s with pending? := some (.flag f, []), waiting := true }

theorem readFlag_switch (h : s.Settled) {f : Flag} (hf : f.IsSwitch) :
    s.readFlag f none = s.add (.flag f) := by
  unfold readFlag
  rw [h.settle_eq]
  rcases hf with rfl | rfl <;> rfl

theorem readFlag_attached (h : s.Settled) {f : Flag} (hf : f.HasValue) (v : String) :
    s.readFlag f (some v) = s.add (.value f v) := by
  unfold readFlag
  rw [h.settle_eq]
  rcases hf with rfl | rfl <;> rfl

theorem readFlag_waiting (h : s.Settled) {f : Flag} (hf : f.HasValue) :
    s.readFlag f none = .ok (s.leave (some f)) := by
  unfold readFlag
  rw [h.settle_eq]
  rcases hf with rfl | rfl <;> rfl

/-- A flag that does not end the reading is a switch or has a value. -/
theorem isSwitch_of_readFlag {f : Flag} (hf : ¬ f.HasValue) {attached? : Option String}
    (h : s.readFlag f attached? = .ok r) : f.IsSwitch := by
  obtain ⟨t, -, h⟩ := bind_eq_ok h
  cases f with
  | config => exact absurd (.inl rfl) hf
  | jobs => exact absurd (.inr rfl) hf
  | quiet => exact .inl rfl
  | verbose => exact .inr rfl
  | help => cases h
  | version => cases h

theorem hasValue_iff {f : Flag} : f.placeholder?.isSome = true ↔ f.HasValue := by
  cases f <;> simp [Flag.placeholder?, Flag.HasValue]

theorem not_hasValue_of_isSwitch {f : Flag} (h : f.IsSwitch) : ¬ f.HasValue := by
  rcases h with rfl | rfl <;> simp [Flag.HasValue]

theorem ofLetter?_letter (f : Flag) : Flag.ofLetter? f.letter = some f := by
  cases f <;> decide

theorem letter_of_ofLetter? {c : Char} {f : Flag} (h : Flag.ofLetter? c = some f) : c = f.letter := by
  have hfound := List.find?_some h
  exact (of_decide_eq_true hfound).symm

theorem ofName?_name (f : Flag) : Flag.ofName? f.name = some f := by
  cases f <;> decide

theorem name_of_ofName? {name : String} {f : Flag} (h : Flag.ofName? name = some f) : name = f.name := by
  have hfound := List.find?_some h
  exact (of_decide_eq_true hfound).symm

/-- The flag of a letter does not end the reading if anything is read. -/
theorem exists_flag_of_readLetters {c : Char} {cs : List Char} (h : s.readLetters (c :: cs) = .ok r) :
    ∃ f : Flag, c = f.letter ∧ (f.HasValue ∨ f.IsSwitch) := by
  rw [readLetters] at h
  cases hf : Flag.ofLetter? c with
  | none =>
    rw [hf] at h
    cases h
  | some f =>
    simp only [hf] at h
    refine ⟨f, letter_of_ofLetter? hf, ?_⟩
    by_cases hvalue : f.HasValue
    · exact .inl hvalue
    · rw [if_neg (mt hasValue_iff.1 hvalue)] at h
      obtain ⟨t, ht, -⟩ := bind_eq_ok h
      exact .inr (isSwitch_of_readFlag hvalue ht)

section
variable (h : s.Settled) {f : Flag}
include h

theorem readLetters_switch (hf : f.IsSwitch) (cs : List Char) :
    s.readLetters (f.letter :: cs) = s.add (.flag f) >>= fun t => t.readLetters cs := by
  rw [readLetters, ofLetter?_letter]
  dsimp only
  rw [if_neg (mt hasValue_iff.1 (not_hasValue_of_isSwitch hf)), readFlag_switch h hf]

variable (hf : f.HasValue)
include hf

theorem readLetters_waiting : s.readLetters [f.letter] = .ok (s.leave (some f)) := by
  rw [readLetters, ofLetter?_letter]
  dsimp only
  rw [if_pos (hasValue_iff.2 hf), readFlag_waiting h hf]

theorem readLetters_equals (v : List Char) :
    s.readLetters (f.letter :: '=' :: v) = s.add (.value f (String.ofList v)) := by
  rw [readLetters, ofLetter?_letter]
  dsimp only
  rw [if_pos (hasValue_iff.2 hf)]
  exact readFlag_attached h hf _

theorem readLetters_attached {v : List Char} (hne : v ≠ []) (hhead : v.head? ≠ some '=') :
    s.readLetters (f.letter :: v) = s.add (.value f (String.ofList v)) := by
  rw [readLetters, ofLetter?_letter]
  dsimp only
  rw [if_pos (hasValue_iff.2 hf)]
  split
  · exact absurd rfl hne
  · exact absurd rfl hhead
  · exact readFlag_attached h hf _

end

/-- How a value can stand after its letter. -/
theorem attached_cases (v : List Char) :
    v = [] ∨ (∃ w, v = '=' :: w) ∨ (v ≠ [] ∧ v.head? ≠ some '=') := by
  rcases v with _ | ⟨c, w⟩
  · exact .inl rfl
  · by_cases hc : c = '='
    · exact .inr (.inl ⟨w, by rw [hc]⟩)
    · exact .inr (.inr ⟨by simp, by simpa using hc⟩)

/-- **Letters** are read as the uses that they spell. -/
theorem readLetters_eq_ok_iff (h : s.Settled) {cs : List Char} : s.readLetters cs = .ok r ↔
    ∃ uses next? t, SpellsLetters cs uses next? ∧ uses.foldlM add s = .ok t ∧ r = t.leave next? := by
  constructor
  · intro hr
    induction cs generalizing s with
    | nil =>
      cases hr
      exact ⟨[], none, _, .nil, rfl, rfl⟩
    | cons c cs ih =>
      obtain ⟨f, rfl, hvalue | hswitch⟩ := exists_flag_of_readLetters hr
      · rcases attached_cases cs with rfl | ⟨v, rfl⟩ | ⟨hne, hhead⟩
        · rw [readLetters_waiting h hvalue] at hr
          cases hr
          exact ⟨[], some f, s, .waiting hvalue, rfl, rfl⟩
        · rw [readLetters_equals h hvalue] at hr
          exact ⟨[_], none, r, .equals hvalue v, by simpa using hr, rfl⟩
        · rw [readLetters_attached h hvalue hne hhead] at hr
          exact ⟨[_], none, r, .attached hvalue hne hhead, by simpa using hr, rfl⟩
      · rw [readLetters_switch h hswitch] at hr
        obtain ⟨u, hu, hr⟩ := bind_eq_ok hr
        obtain ⟨uses, next?, t, hspells, ht, rfl⟩ := ih (settled_add h hu) hr
        exact ⟨.flag f :: uses, next?, t, .switch hswitch hspells, bind_eq_ok_iff.2 ⟨u, hu, ht⟩, rfl⟩
  · rintro ⟨uses, next?, t, hspells, ht, rfl⟩
    induction hspells generalizing s with
    | nil =>
      cases ht
      rfl
    | switch hf _ ih =>
      obtain ⟨u, hu, ht⟩ := bind_eq_ok ht
      rw [readLetters_switch h hf]
      exact bind_eq_ok_iff.2 ⟨u, hu, ih (settled_add h hu) ht⟩
    | attached hf hne hhead =>
      rw [readLetters_attached h hf hne hhead, leave]
      simpa using ht
    | equals hf v =>
      rw [readLetters_equals h hf, leave]
      simpa using ht
    | waiting hf =>
      cases ht
      exact readLetters_waiting h hf

theorem ne_equals_of_notMem {name : List Char} (h : '=' ∉ name) :
    ∀ c ∈ name, decide (c ≠ '=') = true := by
  intro c hc
  simpa using ne_of_mem_of_not_mem hc h

theorem splitEquals_of_notMem {name : List Char} (h : '=' ∉ name) :
    splitEquals name = (String.ofList name, none) := by
  have hrun := ne_equals_of_notMem h
  have htake : (name ++ []).takeWhile (fun c => decide (c ≠ '=')) = name :=
    Text.takeWhile_run hrun (by simp)
  have hdrop : (name ++ []).dropWhile (fun c => decide (c ≠ '=')) = [] :=
    Text.dropWhile_run hrun (by simp)
  rw [List.append_nil] at htake hdrop
  rw [splitEquals, htake, hdrop]

theorem splitEquals_append {name : List Char} (h : '=' ∉ name) (v : List Char) :
    splitEquals (name ++ '=' :: v) = (String.ofList name, some (String.ofList v)) := by
  have hrun := ne_equals_of_notMem h
  rw [splitEquals, Text.takeWhile_run hrun (by simp), Text.dropWhile_run hrun (by simp)]

theorem equals_notMem_name (f : Flag) : '=' ∉ f.name.toList := by
  cases f <;> decide

/-- A long name alone is read as its flag. -/
theorem readName_name (s : State) (f : Flag) :
    s.readName (splitEquals f.name.toList).1 (splitEquals f.name.toList).2 = s.readFlag f none := by
  rw [splitEquals_of_notMem (equals_notMem_name f), String.ofList_toList, readName, ofName?_name]

/-- A long name with a value is read as its flag, if that has one. -/
theorem readName_equals_iff (h : s.Settled) {f : Flag} {v : List Char} :
    s.readName (splitEquals (f.name.toList ++ '=' :: v)).1 (splitEquals (f.name.toList ++ '=' :: v)).2 =
      .ok r ↔ f.HasValue ∧ s.add (.value f (String.ofList v)) = .ok r := by
  rw [splitEquals_append (equals_notMem_name f), String.ofList_toList, readName, ofName?_name]
  dsimp only
  by_cases hf : f.HasValue
  · rw [if_pos (hasValue_iff.2 hf), readFlag_attached h hf]
    simp [hf]
  · rw [if_neg (mt hasValue_iff.1 hf)]
    simp [hf, throw, throwThe, MonadExceptOf.throw]

/-- What is read as a long name is that of a flag, alone or with a value. -/
theorem exists_flag_of_readName {cs : List Char}
    (h : s.readName (splitEquals cs).1 (splitEquals cs).2 = .ok r) :
    ∃ f : Flag, cs = f.name.toList ∨ ∃ v, cs = f.name.toList ++ '=' :: v := by
  unfold readName at h
  cases hf : Flag.ofName? (splitEquals cs).1 with
  | none =>
    rw [hf] at h
    cases h
  | some f =>
    have hname := name_of_ofName? hf
    refine ⟨f, ?_⟩
    by_cases hequals : '=' ∈ cs
    · obtain ⟨name, v, rfl, hnot⟩ := List.eq_append_cons_of_mem hequals
      rw [splitEquals_append hnot] at hname
      exact .inr ⟨v, by simp [← hname]⟩
    · rw [splitEquals_of_notMem hequals] at hname
      exact .inl (by simp [← hname])

/-- **A long name** is read as the uses that it spells. -/
theorem readName_eq_ok_iff (h : s.Settled) {cs : List Char} :
    s.readName (splitEquals cs).1 (splitEquals cs).2 = .ok r ↔
      ∃ uses next? t, SpellsName cs uses next? ∧ uses.foldlM add s = .ok t ∧ r = t.leave next? := by
  constructor
  · intro hr
    obtain ⟨f, rfl | ⟨v, rfl⟩⟩ := exists_flag_of_readName hr
    · rw [readName_name] at hr
      by_cases hvalue : f.HasValue
      · rw [readFlag_waiting h hvalue] at hr
        cases hr
        exact ⟨[], some f, s, .waiting hvalue, rfl, rfl⟩
      · have hswitch := isSwitch_of_readFlag hvalue hr
        rw [readFlag_switch h hswitch] at hr
        exact ⟨[_], none, r, .switch hswitch, by simpa using hr, rfl⟩
    · obtain ⟨hvalue, hr⟩ := (readName_equals_iff h).1 hr
      exact ⟨[_], none, r, .equals hvalue v, by simpa using hr, rfl⟩
  · rintro ⟨uses, next?, t, hspells, ht, rfl⟩
    cases hspells with
    | switch hf =>
      rw [readName_name, readFlag_switch h hf, leave]
      simpa using ht
    | equals hf v => exact (readName_equals_iff h).2 ⟨hf, by simpa [leave] using ht⟩
    | waiting hf =>
      cases ht
      rw [readName_name, readFlag_waiting h hf]

end State

theorem Flag.letter_ne_dash (f : Flag) : f.letter ≠ '-' := by
  cases f <;> decide

theorem SpellsLetters.head_ne_dash {c : Char} {cs : List Char} {uses : List Use} {next? : Option Flag}
    (h : SpellsLetters (c :: cs) uses next?) : c ≠ '-' := by
  cases h <;> exact Flag.letter_ne_dash _

theorem SpellsName.ne_nil {cs : List Char} {uses : List Use} {next? : Option Flag}
    (h : SpellsName cs uses next?) : cs ≠ [] := by
  have hname : ∀ f : Flag, f.name.toList ≠ [] := by
    intro f
    cases f <;> decide
  cases h with
  | switch _ => exact hname _
  | equals _ v => simp
  | waiting _ => exact hname _

theorem SpellsFlags.not_isPlain {arg : String} {uses : List Use} {next? : Option Flag}
    (h : SpellsFlags arg uses next?) : ¬ IsPlain arg := by
  cases h with
  | name h _ => simp [IsPlain, h]
  | letters h _ => simp [IsPlain, h]

theorem SpellsFlags.ne_dashes {arg : String} {uses : List Use} {next? : Option Flag}
    (h : SpellsFlags arg uses next?) : arg ≠ "--" := by
  have hdashes : "--".toList = ['-', '-'] := by decide
  rintro rfl
  cases h with
  | name h spells =>
    rw [hdashes] at h
    cases h
    exact spells.ne_nil rfl
  | letters h spells =>
    rw [hdashes] at h
    cases h
    exact spells.head_ne_dash rfl

namespace State

variable {s t r : State}

/-- **An argument with flags** is read as the uses that it spells. -/
theorem readArgument_eq_ok_iff (h : s.Settled) {arg : String} (harg : ¬ IsPlain arg) :
    s.readArgument arg = .ok r ↔ ∃ uses next? t, SpellsFlags arg uses next? ∧
      uses.foldlM add s = .ok t ∧ r = t.leave next? := by
  rcases readArgument_cases arg with ⟨cs, hcs⟩ | ⟨c, cs, hcs, hc⟩ | hplain
  · rw [readArgument_name hcs, readName_eq_ok_iff h]
    constructor
    · rintro ⟨uses, next?, t, hspells, ht⟩
      exact ⟨uses, next?, t, .name hcs hspells, ht⟩
    · rintro ⟨uses, next?, t, ⟨hcs', hspells⟩ | ⟨hcs', hspells⟩, ht⟩
      · cases hcs.symm.trans hcs'
        exact ⟨uses, next?, t, hspells, ht⟩
      · cases hcs.symm.trans hcs'
        exact absurd rfl hspells.head_ne_dash
  · rw [readArgument_letters hcs hc, readLetters_eq_ok_iff h]
    constructor
    · rintro ⟨uses, next?, t, hspells, ht⟩
      exact ⟨uses, next?, t, .letters hcs hspells, ht⟩
    · rintro ⟨uses, next?, t, ⟨hcs', hspells⟩ | ⟨hcs', hspells⟩, ht⟩
      · cases hcs.symm.trans hcs'
        exact absurd rfl hc
      · cases hcs.symm.trans hcs'
        exact ⟨uses, next?, t, hspells, ht⟩
  · exact absurd hplain harg

/-! ## Command lines -/

theorem settle_leave_ne_ok (s : State) (f : Flag) : (s.leave (some f)).settle ≠ .ok t := by
  rintro ⟨⟩

theorem readPlain_leave (s : State) (f : Flag) (v : String) : (s.leave (some f)).readPlain v =
    .ok { s with pending? := some (.flag f, [v]), waiting := false } :=
  rfl

theorem settle_readPlain_leave (h : s.Settled) (f : Flag) (v : String) :
    settle { s with pending? := some (.flag f, [v]), waiting := false } = s.add (.value f v) := by
  obtain ⟨options, used, pending?, waiting⟩ := s
  obtain rfl : pending? = none := h.pending
  obtain rfl : waiting = false := h.waiting
  rfl

/-- A flag that waits for its value takes the next argument, which is no flag. -/
theorem read_leave (h : s.Settled) (f : Flag) (args : List String) :
    (s.leave (some f)).read args = .ok r ↔ ∃ v rest t, args = v :: rest ∧ IsPlain v ∧
      s.add (.value f v) = .ok t ∧ t.read rest = .ok r := by
  have hsettles : (s.leave (some f)).Settles := fun t ht => absurd ht (settle_leave_ne_ok s f)
  cases args with
  | nil =>
    constructor
    · exact fun hr => absurd hr (settle_leave_ne_ok s f)
    · rintro ⟨v, rest, t, ⟨⟩, -⟩
  | cons arg args =>
    by_cases hplain : IsPlain arg
    · rw [read_cons (ne_dashes_of_isPlain hplain), readArgument_plain hplain, readPlain_leave]
      show read { s with pending? := some (.flag f, [arg]), waiting := false } args = .ok r ↔ _
      rw [read_settle rfl, settle_readPlain_leave h]
      constructor
      · rintro ⟨t, ht, hr⟩
        exact ⟨arg, args, t, rfl, hplain, ht, hr⟩
      · rintro ⟨_, _, t, ⟨⟩, -, ht, hr⟩
        exact ⟨t, ht, hr⟩
    · refine iff_of_false (fun hr => ?_) ?_
      · -- Whatever else is read settles the flag first, and there is no value.
        by_cases hdashes : arg = "--"
        · subst hdashes
          cases args with
          | nil => exact settle_leave_ne_ok s f hr
          | cons path args =>
            rw [read_dashes, List.foldlM_cons, readPath_first (by rintro paths ⟨⟩)] at hr
            cases hr
        · rw [read_cons hdashes] at hr
          obtain ⟨t, ht, -⟩ := bind_eq_ok hr
          obtain ⟨u, hu, -⟩ := (readArgument_settle hsettles hplain).1 ht
          exact settle_leave_ne_ok s f hu
      · rintro ⟨_, _, t, ⟨⟩, hv, -⟩
        exact hplain hv

theorem settled_addAll (h : s.Settled) {uses : List Use} (ht : uses.foldlM add s = .ok t) : t.Settled :=
  foldlM_keeps (fun _ _ _ h ht => settled_add h ht) h ht

/-- What is read spells uses. A flag and the value after it are read together, so the induction is on the
length. -/
theorem spells_of_read (n : Nat) (h : s.Settled) {args : List String} (hn : args.length ≤ n)
    (hr : s.read args = .ok r) : ∃ uses, Spells args uses ∧ uses.foldlM add s = .ok r := by
  induction n generalizing s args with
  | zero =>
    obtain rfl := List.eq_nil_of_length_eq_zero (Nat.le_zero.1 hn)
    rw [read, h.settle_eq] at hr
    exact ⟨[], .nil, hr⟩
  | succ n ih =>
    cases args with
    | nil =>
      rw [read, h.settle_eq] at hr
      exact ⟨[], .nil, hr⟩
    | cons arg args =>
      have hn' : args.length ≤ n := Nat.le_of_succ_le_succ hn
      by_cases hdashes : arg = "--"
      · subst hdashes
        exact ⟨_, .dashes args, (readPaths_eq_ok_iff h args).1 hr⟩
      by_cases hplain : IsPlain arg
      · obtain ⟨t, ht, hr⟩ := (read_path h hplain args).1 hr
        obtain ⟨uses, hspells, hr⟩ := ih (settled_add h ht) hn' hr
        exact ⟨_, .path hplain hspells, bind_eq_ok_iff.2 ⟨t, ht, hr⟩⟩
      rw [read_cons hdashes] at hr
      obtain ⟨u, hu, hr⟩ := bind_eq_ok hr
      obtain ⟨own, next?, t, hown, ht, rfl⟩ := (readArgument_eq_ok_iff h hplain).1 hu
      have hsettled := settled_addAll h ht
      cases next? with
      | none =>
        obtain ⟨uses, hspells, hr⟩ := ih hsettled hn' hr
        refine ⟨_, .flags hown hspells, ?_⟩
        rw [List.foldlM_append]
        exact bind_eq_ok_iff.2 ⟨t, ht, hr⟩
      | some f =>
        obtain ⟨v, rest, w, rfl, hv, hw, hr⟩ := (read_leave hsettled f args).1 hr
        obtain ⟨uses, hspells, hr⟩ := ih (settled_add hsettled hw) (Nat.le_of_succ_le hn') hr
        refine ⟨_, .value hown hv hspells, ?_⟩
        rw [List.foldlM_append]
        exact bind_eq_ok_iff.2 ⟨t, ht, bind_eq_ok_iff.2 ⟨w, hw, hr⟩⟩

/-- Uses are read as they are spelled. -/
theorem read_of_spells (h : s.Settled) {args : List String} {uses : List Use} (hspells : Spells args uses)
    (hr : uses.foldlM add s = .ok r) : s.read args = .ok r := by
  induction hspells generalizing s with
  | nil =>
    cases hr
    exact h.settle_eq
  | dashes paths => exact (readPaths_eq_ok_iff h paths).2 hr
  | path hplain _ ih =>
    obtain ⟨t, ht, hr⟩ := bind_eq_ok hr
    exact (read_path h hplain _).2 ⟨t, ht, ih (settled_add h ht) hr⟩
  | flags hown _ ih =>
    rw [List.foldlM_append] at hr
    obtain ⟨t, ht, hr⟩ := bind_eq_ok hr
    have hread := (readArgument_eq_ok_iff h hown.not_isPlain).2 ⟨_, _, t, hown, ht, rfl⟩
    rw [read_cons hown.ne_dashes]
    exact bind_eq_ok_iff.2 ⟨t, hread, ih (settled_addAll h ht) hr⟩
  | @value arg v args own uses f hown hv _ ih =>
    rw [List.foldlM_append] at hr
    obtain ⟨t, ht, hr⟩ := bind_eq_ok hr
    obtain ⟨w, hw, hr⟩ := bind_eq_ok hr
    have hsettled := settled_addAll h ht
    have hread := (readArgument_eq_ok_iff h hown.not_isPlain).2 ⟨_, _, t, hown, ht, rfl⟩
    have hrest := (read_leave hsettled f _).2 ⟨v, args, w, rfl, hv, hw, ih (settled_add hsettled hw) hr⟩
    rw [read_cons hown.ne_dashes]
    exact bind_eq_ok_iff.2 ⟨_, hread, hrest⟩

/-- **Reading a command line** is reading the uses that it spells, one after the other. -/
theorem read_eq_ok_iff (h : s.Settled) {args : List String} :
    s.read args = .ok r ↔ ∃ uses, Spells args uses ∧ uses.foldlM add s = .ok r := by
  constructor
  · exact spells_of_read args.length h Nat.le.refl
  · rintro ⟨uses, hspells, hr⟩
    exact read_of_spells h hspells hr

end State

end JavaNaming.Command
