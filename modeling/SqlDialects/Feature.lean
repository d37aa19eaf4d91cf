import SqlDialects.Clause
import SqlDialects.Operator

/-!
The features that a dialect may lack, and the names under which it reports them.
-/

namespace SqlDialects

inductive Feature where
  | comparison (comparison : Comparison)
  | bitwise (operator : BitOperator)
  | join (kind : JoinKind)
  | compound (kind : CompoundKind)
  | lock (strength : LockStrength)
  | clause (clause : Clause)
  | recursiveTables
  | distinctOn
  | windowFunctions
  | conflictTarget
  | conflictCondition
  | orderOnUpdate
  | limitOnUpdate
  | orderOnDelete
  | limitOnDelete
  | restartIdentity
  | cascade
  | restrict
  | nullsFirst
  | nullsLast
  | noWait
  | skipLocked
deriving DecidableEq, Repr

namespace Feature

def name : Feature → String
  | .comparison operator => operator.name
  | .bitwise operator => operator.name
  | .join kind => kind.name
  | .compound kind => kind.name
  | .lock strength => strength.name
  | .clause part => part.name
  | .recursiveTables => "WITH RECURSIVE"
  | .distinctOn => "DISTINCT ON"
  | .windowFunctions => "window functions"
  | .conflictTarget => "ON CONFLICT target"
  | .conflictCondition => "DO UPDATE ... WHERE"
  | .orderOnUpdate => "ORDER BY on UPDATE"
  | .limitOnUpdate => "LIMIT on UPDATE"
  | .orderOnDelete => "ORDER BY on DELETE"
  | .limitOnDelete => "LIMIT on DELETE"
  | .restartIdentity => "RESTART IDENTITY"
  | .cascade => "CASCADE"
  | .restrict => "RESTRICT"
  | .nullsFirst => "NULLS FIRST"
  | .nullsLast => "NULLS LAST"
  | .noWait => "NOWAIT"
  | .skipLocked => "SKIP LOCKED"

end Feature

end SqlDialects
