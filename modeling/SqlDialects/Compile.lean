import SqlDialects.Draft.Delete
import SqlDialects.Draft.Update

/-!
Compiling a statement: drafting it under a dialect, and writing the draft either with placeholders
and bound values or with every value in the text.
-/

namespace SqlDialects

inductive Mode where
  | inline
  | prepared
deriving DecidableEq, Repr

namespace Statement

def draft (statement : Statement) (dialect : NamedDialect) : Draft :=
  match statement with
  | .select query => query.draft dialect
  | .insert insertion => insertion.draft dialect
  | .update change => change.draft dialect
  | .delete deletion => deletion.draft dialect
  | .truncate truncation => truncation.draft dialect

end Statement

namespace Mode

def writeValue (mode : Mode) (dialect : NamedDialect) : Nat → Value → Except Failure Compiled :=
  match mode with
  | .inline => dialect.inlineValue
  | .prepared => dialect.bindValue

end Mode

def compile (statement : Statement) (name : String) (dialect : Dialect) (mode : Mode) :
    Except Failure Compiled :=
  (statement.draft ⟨dialect, name⟩).write (mode.writeValue ⟨dialect, name⟩) 0

def quoteText (name : String) (dialect : Dialect) (text : String) : Except Failure String :=
  NamedDialect.quoteText ⟨dialect, name⟩ text

end SqlDialects
