import JavaNaming.Naming.Session

/-!
# Parsers that are used again

A parser is made once and used for one text after the other. `ReusedParser` is such a parser: it has a
memory, and what it gives for a text does not depend on it. `ParserSession` is a session that takes its
trees from one.

* `ParserSession.step_eq`: one step gives the answer and leaves the conventions, the checker and the tree
  of a session without such a parser.
* `ParserSession.run_eq`: so does every run, whatever the parser was used for before.
-/

namespace JavaNaming.Naming

/-- A parser that keeps a memory from one text to the next. What it gives does not depend on it. -/
structure ReusedParser where
  Memory : Type
  fresh : Memory
  parse : Memory → List Char → Except Java.ParseError Syntax.Tree × Memory
  parse_eq : ∀ m source, (parse m source).1 = Java.parse source

/-- A parser that counts the texts it was given. -/
abbrev countingParser : ReusedParser where
  Memory := Nat
  fresh := 0
  parse n source := (Java.parse source, n + 1)
  parse_eq _ _ := by dsimp only

/-- A session together with what its parser remembers. -/
structure ParserSession (parser : ReusedParser) where
  session : Session
  memory : parser.Memory

namespace ParserSession

variable {parser : ReusedParser}

/-- Take a step. Only the steps that read a source use the parser. -/
def step (s : ParserSession parser) : Step → Answer × ParserSession parser
  | .parse source =>
    let (parsed, memory) := parser.parse s.memory source
    let (answer, session) := s.session.keep source parsed
    (answer, ⟨session, memory⟩)
  | .check source =>
    let (parsed, memory) := parser.parse s.memory source
    (.ofCheck (s.session.checker.checkParsed source parsed), ⟨s.session, memory⟩)
  | other =>
    let (answer, session) := s.session.step other
    (answer, ⟨session, s.memory⟩)

/-- The answers to some steps, and the session after them. -/
def run (s : ParserSession parser) : List Step → List Answer × ParserSession parser
  | [] => ([], s)
  | step :: steps =>
    let (answer, s) := s.step step
    let (answers, s) := s.run steps
    (answer :: answers, s)

/-- **One step** does not show what the parser remembers. -/
theorem step_eq (s : ParserSession parser) (step : Step) :
    (s.step step).1 = (s.session.step step).1 ∧
      (s.step step).2.session = (s.session.step step).2 := by
  cases step with
  | parse source =>
    simp only [step, Session.step, parser.parse_eq, and_self]
  | check source =>
    simp only [step, Session.step, Checker.checkSource, parser.parse_eq, and_self]
  | configure origin | change d | checkTree =>
    simp only [step, and_self]

/-- **A run** does not show what the parser remembers. -/
theorem run_eq (s : ParserSession parser) (steps : List Step) :
    (s.run steps).1 = (s.session.run steps).1 ∧
      (s.run steps).2.session = (s.session.run steps).2 := by
  induction steps generalizing s with
  | nil => exact ⟨rfl, rfl⟩
  | cons step steps ih =>
    obtain ⟨hanswer, hsession⟩ := s.step_eq step
    obtain ⟨hanswers, hrest⟩ := ih (s.step step).2
    rw [hsession] at hanswers hrest
    simp only [run, Session.run, hanswer, hanswers, hrest, and_self]

end ParserSession

end JavaNaming.Naming
