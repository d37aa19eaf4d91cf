import SqlDialects.Dialect.Settings
import SqlDialects.Registry

/-!
Sessions with a registry: requests that register, look up, hold and use dialects, each with its
answer. A dialect that is held does not change when its name is registered again.
-/

namespace SqlDialects

structure Session where
  registry : Registry
  held : Table String Dialect

inductive Session.Request where
  | register (name : String) (base : BundledDialect) (document : Option Document)
  | registerBundled (bundled : BundledDialect)
  | registerAllBundled
  | names
  | lookup (name : String)
  | hold (name handle : String)
  | compile (statement : Statement) (name : String) (mode : Mode)
  | compileHeld (statement : Statement) (handle name : String) (mode : Mode)

inductive Session.Answer where
  | done
  | refused
  | unknownHandle
  | names (names : List String)
  | differences (fields : List (String × Document))
  | compiled (compiled : Compiled)
  | failed (failure : Failure)

namespace BundledDialect

/-- A bundled dialect as a document revises it; without a document it stays as it is. -/
def reviseIfGiven? (bundled : BundledDialect) : Option Document → Option Dialect
  | some document => bundled.revise? document
  | none => some bundled.dialect

end BundledDialect

namespace Session

def initial : Session :=
  ⟨.initial, .empty⟩

def Answer.ofCompiled : Except Failure Compiled → Answer
  | .ok result => .compiled result
  | .error failure => .failed failure

def step (session : Session) : Request → Session × Answer
  | .register name base document =>
      match base.reviseIfGiven? document with
      | some dialect => ({ session with registry := session.registry.register name dialect }, .done)
      | none => (session, .refused)
  | .registerBundled bundled =>
      ({ session with registry := session.registry.registerBundled bundled }, .done)
  | .registerAllBundled =>
      ({ session with registry := session.registry.registerAllBundled }, .done)
  | .names => (session, .names session.registry.names)
  | .lookup name =>
      match session.registry.lookup name with
      | .ok dialect => (session, .differences dialect.differences)
      | .error failure => (session, .failed failure)
  | .hold name handle =>
      match session.registry.lookup name with
      | .ok dialect => ({ session with held := session.held.insert handle dialect }, .done)
      | .error failure => (session, .failed failure)
  | .compile statement name mode =>
      (session, .ofCompiled (session.registry.compile statement name mode))
  | .compileHeld statement handle name mode =>
      match session.held.find? handle with
      | some dialect => (session, .ofCompiled (SqlDialects.compile statement name dialect mode))
      | none => (session, .unknownHandle)

def run (session : Session) : List Request → Session × List Answer
  | [] => (session, [])
  | request :: rest =>
      let (next, answer) := session.step request
      let (last, answers) := next.run rest
      (last, answer :: answers)

end Session

end SqlDialects
