import JavaNaming.Config.Load
import JavaNaming.Naming.Checker

/-!
# Sessions

A session keeps conventions with their checker, and the tree that was read last. `Session.step` takes one
step and gives its answer. A step that fails leaves the session as it was.
-/

namespace JavaNaming.Naming

open Config (ConfigError)
open Syntax (Tree)

/-- A source and its tree. -/
structure Reading where
  source : List Char
  tree : Tree

/-- The state of a session. -/
structure Session where
  conventions : Conventions
  /-- The checker that was made when the conventions were taken. -/
  checker : Checker
  /-- The last source that was read. -/
  reading? : Option Reading

/-- What can be asked of a session. -/
inductive Step where
  /-- Take other conventions. -/
  | configure (origin : Config.Origin)
  /-- Change some of the conventions. -/
  | change (d : Changes)
  /-- Read a source and keep its tree. -/
  | parse (source : List Char)
  /-- Check the tree that was kept. -/
  | checkTree
  /-- Read and check a source. -/
  | check (source : List Char)

/-- The answer to a step. -/
inductive Answer where
  | conventions (c : Conventions)
  | invalidConfig (e : ConfigError)
  | invalidFormat (e : InvalidFormat)
  | parsed (nodes : Nat)
  | passed
  | failed (e : CheckError)
  | noTree

/-- The answer to a check. -/
def Answer.ofCheck : Except CheckError Unit → Answer
  | .error e => .failed e
  | .ok () => .passed

namespace Session

/-- The session before its first step. -/
def start : Session := ⟨Conventions.standard, Checker.standard, none⟩

/-- Take conventions, with a new checker, if their formats can be used. -/
def adopt (s : Session) (c : Conventions) : Answer × Session :=
  match Checker.ofConventions c with
  | .error e => (.invalidFormat e, s)
  | .ok checker => (.conventions c, { s with conventions := c, checker })

/-- The answer about the tree that was kept. -/
def checkReading (s : Session) : Answer :=
  match s.reading? with
  | none => .noTree
  | some r =>
    match s.checker.checkTree r.source r.tree with
    | some v => .failed (.style v)
    | none => .passed

/-- Keep the tree of a source that was parsed with the given result. -/
def keep (s : Session) (source : List Char) : Except Java.ParseError Tree → Answer × Session
  | .error e => (.failed (.parse e), s)
  | .ok tree => (.parsed (Syntax.walk tree).length, { s with reading? := some ⟨source, tree⟩ })

/-- Take a step. -/
def step (s : Session) : Step → Answer × Session
  | .configure origin =>
    match origin.conventions with
    | .error e => (.invalidConfig e, s)
    | .ok c => s.adopt c
  | .change d => s.adopt (s.conventions.change d)
  | .parse source => s.keep source (Java.parse source)
  | .checkTree => (s.checkReading, s)
  | .check source => (.ofCheck (s.checker.checkSource source), s)

/-- The answers to some steps, and the session after them. -/
def run (s : Session) : List Step → List Answer × Session
  | [] => ([], s)
  | step :: steps =>
    let (answer, s) := s.step step
    let (answers, s) := s.run steps
    (answer :: answers, s)

end Session

end JavaNaming.Naming
