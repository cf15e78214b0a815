import JavaNaming.Proofs.Naming.FileOutcome
import JavaNaming.Proofs.Naming.ReusedParser

/-!
# Sessions and single checks

A session keeps a checker and a tree from one step to the next. Its answers are compared with checks that
keep nothing (`checkOnce`): they build a checker from conventions, read the source and check it.

* `inForce`, `lastRead?`: the conventions in force after some steps, and the source that was read last, by
  the steps alone.
* `adopt_cases`: conventions are taken exactly if all their formats can be used.
* `UpToDate`: the invariant. The conventions are those in force, the checker is the one for them, and the
  tree is that of the source that was read last. `UpToDate.step` keeps it, and so does every run
  (`upToDate_run`).
* `step_eq_self_of_isFailure`, `step_eq_self_of_idle`: a step that fails, or only asks, leaves the session
  as it was.
* `run_of_kept`: a run without some of these steps gives the same answers to the others.
* `session_answers_like_single_checks`: what all of this says about the answers, also of a session with a
  parser that is used again (`ParserSession`).
-/

namespace JavaNaming.Naming

/-! ## Single checks -/

/-- The answer to a check by some conventions without a session. -/
def checkOnce (c : Conventions) (source : List Char) : Answer :=
  match Checker.ofConventions c with
  | .error e => .invalidFormat e
  | .ok checker => .ofCheck (checker.checkSource source)

/-! ## What the steps amount to -/

/-- Whether the formats of all categories can be made ready for use. -/
def Conventions.usable (c : Conventions) : Bool :=
  Category.all.all fun k => (NamePattern.ofFormat (c.format k)).isOk

/-- The conventions after a step. The step changes them only if it succeeds: if the new ones can be loaded
and all their formats can be used. -/
def Step.conventionsAfter (c : Conventions) : Step → Conventions
  | .configure origin =>
    match origin.conventions with
    | .ok d => if d.usable then d else c
    | .error _ => c
  | .change d => if (c.change d).usable then c.change d else c
  | _ => c

/-- The source that a step reads, if it can be read. -/
def Step.readSource? : Step → Option (List Char)
  | .parse source => if (Java.parse source).isOk then some source else none
  | _ => none

/-- The conventions in force after some steps: the standard ones with the changes by the steps that
succeed, in order. -/
def inForce (steps : List Step) : Conventions := steps.foldl Step.conventionsAfter .standard

/-- The source of the last step that read one. -/
def lastRead? (steps : List Step) : Option (List Char) := (steps.filterMap Step.readSource?).getLast?

/-- Whether an answer says that a step failed. -/
def Answer.isFailure : Answer → Bool
  | .invalidConfig _ | .invalidFormat _ | .failed _ | .noTree => true
  | .conventions _ | .parsed _ | .passed => false

/-- Whether a step only asks for a check. -/
def Step.asks : Step → Bool
  | .checkTree | .check _ => true
  | .configure _ | .change _ | .parse _ => false

/-- Whether a step, with its answer, was a change to the session that succeeded. -/
def effective (p : Step × Answer) : Bool := !p.1.asks && !p.2.isFailure

namespace Session

/-! ## Taking conventions -/

theorem usable_iff {c : Conventions} :
    c.usable = true ↔ ∃ checker, Checker.ofConventions c = .ok checker := by
  have hok : ∀ k, (NamePattern.ofFormat (c.format k)).isOk = true ↔
      ∃ p, NamePattern.ofFormat (c.format k) = .ok p := by
    intro k
    cases NamePattern.ofFormat (c.format k) <;> simp [Except.isOk, Except.toBool]
  simp only [exists_checker_iff, Conventions.usable, List.all_eq_true, hok]
  exact ⟨fun h k => h k (by cases k <;> decide), fun h k _ => h k⟩

/-- Conventions are taken together with their checker, or not at all. -/
theorem adopt_cases (s : Session) (c : Conventions) :
    (c.usable = true ∧ ∃ checker, Checker.ofConventions c = .ok checker ∧
      s.adopt c = (.conventions c, { s with conventions := c, checker })) ∨
    (c.usable = false ∧ ∃ e, s.adopt c = (.invalidFormat e, s)) := by
  unfold adopt
  cases h : Checker.ofConventions c with
  | ok checker => exact .inl ⟨usable_iff.2 ⟨checker, h⟩, checker, rfl, rfl⟩
  | error e =>
    refine .inr ⟨?_, e, rfl⟩
    rw [← Bool.not_eq_true, usable_iff, h]
    simp

section
variable {s : Session} {origin : Config.Origin} {source : List Char}

theorem step_configure_of_ok {c : Conventions} (h : origin.conventions = .ok c) :
    s.step (.configure origin) = s.adopt c := by
  unfold Session.step
  dsimp only
  rw [h]

theorem step_configure_of_error {e : Config.ConfigError} (h : origin.conventions = .error e) :
    s.step (.configure origin) = (.invalidConfig e, s) := by
  unfold Session.step
  dsimp only
  rw [h]

theorem step_parse_of_ok {tree : Syntax.Tree} (h : Java.parse source = .ok tree) :
    s.step (.parse source) =
      (.parsed (Syntax.walk tree).length, { s with reading? := some ⟨source, tree⟩ }) := by
  unfold Session.step
  dsimp only
  rw [h]
  rfl

theorem step_parse_of_error {e : Java.ParseError} (h : Java.parse source = .error e) :
    s.step (.parse source) = (.failed (.parse e), s) := by
  unfold Session.step
  dsimp only
  rw [h]
  rfl

theorem step_checkTree : s.step .checkTree = (s.checkReading, s) := rfl

theorem step_check : s.step (.check source) = (.ofCheck (s.checker.checkSource source), s) := rfl

theorem conventionsAfter_of_ok {c d : Conventions} (h : origin.conventions = .ok d) :
    (Step.configure origin).conventionsAfter c = if d.usable then d else c := by
  unfold Step.conventionsAfter
  dsimp only
  rw [h]

theorem conventionsAfter_of_error {c : Conventions} {e : Config.ConfigError}
    (h : origin.conventions = .error e) : (Step.configure origin).conventionsAfter c = c := by
  unfold Step.conventionsAfter
  dsimp only
  rw [h]

theorem readSource?_of_ok {tree : Syntax.Tree} (h : Java.parse source = .ok tree) :
    (Step.parse source).readSource? = some source := by
  unfold Step.readSource?
  dsimp only
  rw [h]
  rfl

theorem readSource?_of_error {e : Java.ParseError} (h : Java.parse source = .error e) :
    (Step.parse source).readSource? = none := by
  unfold Step.readSource?
  dsimp only
  rw [h]
  rfl

end

/-! ## Steps that change nothing -/

theorem adopt_eq_self_of_isFailure {s : Session} {c : Conventions}
    (h : (s.adopt c).1.isFailure = true) : (s.adopt c).2 = s := by
  rcases s.adopt_cases c with ⟨-, checker, -, heq⟩ | ⟨-, e, heq⟩
  · rw [heq] at h
    cases h
  · rw [heq]

/-- **A step that fails** leaves the session as it was. -/
theorem step_eq_self_of_isFailure (s : Session) (step : Step)
    (h : (s.step step).1.isFailure = true) : (s.step step).2 = s := by
  cases step with
  | configure origin =>
    cases ho : origin.conventions with
    | error e => rw [step_configure_of_error ho]
    | ok c =>
      rw [step_configure_of_ok ho] at h ⊢
      exact adopt_eq_self_of_isFailure h
  | change d => exact adopt_eq_self_of_isFailure h
  | parse source =>
    cases hp : Java.parse source with
    | error e => rw [step_parse_of_error hp]
    | ok tree =>
      rw [step_parse_of_ok hp] at h
      cases h
  | checkTree => rfl
  | check source => rfl

theorem step_eq_self_of_idle {s : Session} {step : Step}
    (h : effective (step, (s.step step).1) = false) : (s.step step).2 = s := by
  cases step with
  | checkTree => rfl
  | check source => rfl
  | configure origin => exact s.step_eq_self_of_isFailure _ (by simpa [effective, Step.asks] using h)
  | change d => exact s.step_eq_self_of_isFailure _ (by simpa [effective, Step.asks] using h)
  | parse source => exact s.step_eq_self_of_isFailure _ (by simpa [effective, Step.asks] using h)

/-! ## Runs -/

theorem run_cons (s : Session) (step : Step) (steps : List Step) :
    s.run (step :: steps) =
      ((s.step step).1 :: ((s.step step).2.run steps).1, ((s.step step).2.run steps).2) :=
  rfl

/-- Each answer of a run is the answer to its step in the session after the steps before it. -/
theorem getElem?_run (s : Session) (steps : List Step) (i : Nat) :
    (s.run steps).1[i]? = steps[i]?.map fun step => ((s.run (steps.take i)).2.step step).1 := by
  induction steps generalizing s i with
  | nil => simp [Session.run]
  | cons step steps ih =>
    cases i with
    | zero => simp [Session.run]
    | succ i => simpa [run_cons] using ih (s.step step).2 i

/-- The steps of a run with their answers. -/
def trace (s : Session) (steps : List Step) : List (Step × Answer) := steps.zip (s.run steps).1

theorem trace_cons (s : Session) (step : Step) (steps : List Step) :
    s.trace (step :: steps) = (step, (s.step step).1) :: (s.step step).2.trace steps :=
  rfl

/-- **Leaving steps out.** If some steps of a run are left out, none of which was a change that succeeded,
the others are answered as before. -/
theorem run_of_kept {steps : List Step} : ∀ {s : Session} {kept : List (Step × Answer)},
    kept.Sublist (s.trace steps) →
    kept.filter effective = (s.trace steps).filter effective →
    (s.run (kept.map (·.1))).1 = kept.map (·.2) := by
  induction steps with
  | nil =>
    intro s kept hsub _
    rw [List.sublist_nil.1 hsub]
    rfl
  | cons step steps ih =>
    intro s kept hsub hfilter
    rw [trace_cons] at hsub hfilter
    cases hsub with
    | cons _ hsub =>
      cases heff : effective (step, (s.step step).1) with
      | true =>
        -- The step that was left out is missing among the changes that succeeded.
        have hlen := (hsub.filter effective).length_le
        rw [hfilter, List.filter_cons_of_pos heff, List.length_cons] at hlen
        omega
      | false =>
        have hself := step_eq_self_of_idle heff
        rw [hself] at hsub hfilter
        rw [List.filter_cons_of_neg (by simp [heff])] at hfilter
        exact ih hsub hfilter
    | cons_cons _ hsub =>
      rename_i kept
      have hrest : kept.filter effective = ((s.step step).2.trace steps).filter effective := by
        cases heff : effective (step, (s.step step).1) <;> simpa [heff] using hfilter
      rw [List.map_cons, run_cons, List.map_cons, ih hsub hrest]

/-! ## The invariant -/

/-- **The session after some steps.** The conventions are those in force, the checker is the one for them,
and the tree is that of the source that was read last. -/
structure UpToDate (steps : List Step) (s : Session) : Prop where
  conventions : s.conventions = inForce steps
  checker : Checker.ofConventions s.conventions = .ok s.checker
  source : s.reading?.map (·.source) = lastRead? steps
  tree : ∀ r, s.reading? = some r → Java.parse r.source = .ok r.tree

theorem inForce_concat (steps : List Step) (step : Step) :
    inForce (steps ++ [step]) = step.conventionsAfter (inForce steps) := by
  simp [inForce]

theorem lastRead?_concat (steps : List Step) (step : Step) :
    lastRead? (steps ++ [step]) = step.readSource?.or (lastRead? steps) := by
  cases h : step.readSource? <;> simp [lastRead?, h]

theorem upToDate_start : UpToDate [] start where
  conventions := rfl
  checker := by
    have hsome : (Checker.ofConventions .standard).toOption = some Checker.standard :=
      (Option.some_get _).symm
    simpa only [start] using eq_ok_of_toOption_eq hsome
  source := rfl
  tree := nofun

namespace UpToDate

variable {steps : List Step} {s : Session}

/-- Nothing is out of date after a step that changes neither the session nor what it should be. -/
theorem unchanged (h : UpToDate steps s) {step : Step}
    (hconventions : step.conventionsAfter (inForce steps) = inForce steps)
    (hsource : step.readSource? = none) : UpToDate (steps ++ [step]) s where
  conventions := by rw [inForce_concat, hconventions, h.conventions]
  checker := h.checker
  source := by rw [lastRead?_concat, hsource, h.source, Option.none_or]
  tree := h.tree

/-- A step that asks for conventions takes them exactly if they come into force. -/
theorem adopt (h : UpToDate steps s) {step : Step} {c : Conventions}
    (hconventions : step.conventionsAfter (inForce steps) = if c.usable then c else inForce steps)
    (hsource : step.readSource? = none) : UpToDate (steps ++ [step]) (s.adopt c).2 := by
  rcases s.adopt_cases c with ⟨husable, checker, hchecker, heq⟩ | ⟨husable, e, heq⟩
  · rw [heq]
    refine ⟨?_, hchecker, ?_, h.tree⟩
    · rw [inForce_concat, hconventions, if_pos husable]
    · rw [lastRead?_concat, hsource, Option.none_or]
      exact h.source
  · rw [heq]
    exact h.unchanged (by rw [hconventions, husable]; rfl) hsource

/-- **One step** keeps the session up to date. -/
theorem step (h : UpToDate steps s) (step : Step) :
    UpToDate (steps ++ [step]) (s.step step).2 := by
  cases step with
  | configure origin =>
    cases ho : origin.conventions with
    | error e =>
      rw [step_configure_of_error ho]
      exact h.unchanged (conventionsAfter_of_error ho) rfl
    | ok c =>
      rw [step_configure_of_ok ho]
      exact h.adopt (conventionsAfter_of_ok ho) rfl
  | change d => exact h.adopt (by rw [h.conventions]; rfl) rfl
  | parse source =>
    cases hp : Java.parse source with
    | error e =>
      rw [step_parse_of_error hp]
      exact h.unchanged rfl (readSource?_of_error hp)
    | ok tree =>
      rw [step_parse_of_ok hp]
      refine ⟨?_, h.checker, ?_, ?_⟩
      · rw [inForce_concat]
        exact h.conventions
      · rw [lastRead?_concat, readSource?_of_ok hp]
        rfl
      · rintro r ⟨⟩
        exact hp
  | checkTree => exact h.unchanged rfl rfl
  | check source => exact h.unchanged rfl rfl

/-- **A run** keeps the session up to date. -/
theorem run (h : UpToDate steps s) (more : List Step) :
    UpToDate (steps ++ more) (s.run more).2 := by
  induction more generalizing steps s with
  | nil => simpa [Session.run] using h
  | cons next more ih => simpa [run_cons] using ih (h.step next)

/-- The answer about a source is that of a single check. -/
theorem ofCheck_eq (h : UpToDate steps s) (source : List Char) :
    .ofCheck (s.checker.checkSource source) = checkOnce (inForce steps) source := by
  unfold checkOnce
  rw [← h.conventions, h.checker]

/-- The answer about the tree that was kept is that of a single check of its source. -/
theorem checkReading_eq (h : UpToDate steps s) :
    s.checkReading = ((lastRead? steps).map (checkOnce (inForce steps))).getD .noTree := by
  rw [← h.source]
  unfold checkReading
  cases hr : s.reading? with
  | none => rfl
  | some r =>
    rw [Option.map_some, Option.map_some, Option.getD_some, ← h.ofCheck_eq]
    unfold Checker.checkSource
    rw [h.tree r hr]
    unfold Checker.checkParsed
    dsimp only
    cases s.checker.checkTree r.source r.tree <;> rfl

end UpToDate

theorem upToDate_run (steps : List Step) : UpToDate steps (start.run steps).2 :=
  upToDate_start.run steps

/-- **The answers of a session.** A check is answered as a single check by the conventions in force, and a
check of the tree as a single check of the source that was read last, if there is one. A step that fails
leaves the session as it was. If any steps are left out that failed or only asked for a check, or all of
them, the other steps are answered as before. A session with one parser for all of its sources gives the same
answers and is left with the same conventions, checker and tree, whatever the parser remembers. -/
theorem session_answers_like_single_checks (steps : List Step) :
    (∀ i source, steps[i]? = some (.check source) →
      (start.run steps).1[i]? = some (checkOnce (inForce (steps.take i)) source)) ∧
    (∀ i, steps[i]? = some .checkTree →
      (start.run steps).1[i]? =
        some (((lastRead? (steps.take i)).map (checkOnce (inForce (steps.take i)))).getD .noTree)) ∧
    (∀ s step, (Session.step s step).1.isFailure = true → (s.step step).2 = s) ∧
    (∀ kept : List (Step × Answer), kept.Sublist (start.trace steps) →
      kept.filter effective = (start.trace steps).filter effective →
      (start.run (kept.map (·.1))).1 = kept.map (·.2)) ∧
    ∀ (parser : ReusedParser) (memory : parser.Memory),
      ((ParserSession.mk start memory).run steps).1 = (start.run steps).1 ∧
        ((ParserSession.mk start memory).run steps).2.session = (start.run steps).2 := by
  refine ⟨fun i source hi => ?_, fun i hi => ?_, step_eq_self_of_isFailure, fun kept => run_of_kept,
    fun parser memory => (ParserSession.mk start memory).run_eq steps⟩
  · rw [getElem?_run, hi, Option.map_some, step_check, (upToDate_run (steps.take i)).ofCheck_eq]
  · rw [getElem?_run, hi, Option.map_some, step_checkTree, (upToDate_run (steps.take i)).checkReading_eq]

/-- A class whose name starts with a small letter. -/
def smallClass : List Char := "class a{}".toList

/-- The change of the style of types to the old one. -/
def oldTypeStyle : Changes := ⟨none, none, none, some .legacySnakeCase, none⟩

/-- Settings with the old style of types. -/
def oldTypeSettings : List Char := "[naming]\ntype-style = \"legacy-snake-case\"".toList

/-- The change of the format of types to capital letters. -/
def capitalTypes : Changes := ⟨none, none, none, none, some "[A-Z]*"⟩

/-- The tree is asked for before there is one, and a format that is no pattern is refused. Then the class is
read and checked, settings are taken, and the tree is checked by them. Settings that cannot be read change
nothing, nor does a text that cannot be parsed. A change to the settings in force applies to the last check. -/
def smallClassSteps : List Step :=
  [.checkTree, .change ⟨none, none, some "[", none, none⟩, .parse smallClass, .check smallClass,
    .configure (.settings oldTypeSettings), .checkTree, .configure (.settings "[".toList),
    .parse "class".toList, .change capitalTypes, .checkTree]

/-- A session with a parser that was used twice before. -/
def usedTwice : ParserSession countingParser := ⟨start, 2⟩

/-- The three checks are single checks of the class, by the standard conventions, by the settings and by the
changed settings. Only three steps change the session, and without the others they are answered as before. A
parser is used three times, and what it was used for before does not show. -/
theorem session_answers_like_single_checks_smallClass :
    (start.trace smallClassSteps).map effective =
        [false, false, true, false, true, false, false, false, true, false] ∧
      (start.run smallClassSteps).1[0]? = some .noTree ∧
      (start.run smallClassSteps).1[3]? = some (checkOnce .standard smallClass) ∧
      (start.run smallClassSteps).1[5]? =
        some (checkOnce (Conventions.standard.change oldTypeStyle) smallClass) ∧
      (start.run smallClassSteps).1[9]? =
        some (checkOnce ((Conventions.standard.change oldTypeStyle).change capitalTypes) smallClass) ∧
      (start.step (.change ⟨none, none, some "[", none, none⟩)).2 = start ∧
      (start.run (((start.trace smallClassSteps).filter effective).map (·.1))).1 =
        ((start.trace smallClassSteps).filter effective).map (·.2) ∧
      (usedTwice.run smallClassSteps).1 = (start.run smallClassSteps).1 ∧
      (usedTwice.run smallClassSteps).2.memory = 5 := by
  obtain ⟨hcheck, htree, hfail, hkept, hparser⟩ := session_answers_like_single_checks smallClassSteps
  have hfirst : inForce (smallClassSteps.take 3) = .standard := by decide +kernel
  have hsecond : inForce (smallClassSteps.take 5) = Conventions.standard.change oldTypeStyle := by
    decide +kernel
  have hthird : inForce (smallClassSteps.take 9) =
      (Conventions.standard.change oldTypeStyle).change capitalTypes := by decide +kernel
  have hread : lastRead? (smallClassSteps.take 5) = some smallClass := by decide +kernel
  have hread' : lastRead? (smallClassSteps.take 9) = some smallClass := by decide +kernel
  refine ⟨by decide +kernel, htree 0 rfl, ?_, ?_, ?_, hfail _ _ (by decide +kernel), ?_,
    (hparser countingParser _).1, by decide +kernel⟩
  · rw [hcheck 3 smallClass rfl, hfirst]
  · rw [htree 5 rfl, hread, hsecond, Option.map_some, Option.getD_some]
  · rw [htree 9 rfl, hread', hthird, Option.map_some, Option.getD_some]
  · exact hkept _ List.filter_sublist (by rw [List.filter_filter]; simp)

end Session

end JavaNaming.Naming
