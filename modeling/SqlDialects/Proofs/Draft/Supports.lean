import SqlDialects.Draft.Expr

/-!
What drafts depend on beside the text of a dialect: the values that can be bound, and the features
that the dialect has.
-/

namespace SqlDialects

/-- A value that is written as itself: null is a text, and a float must be finite. -/
def Value.isBindable : Value → Bool
  | .null => false
  | .float number => number.isFinite
  | _ => true

namespace Dialect

/-- Whether a dialect has a feature. Of the clauses, some need a capability and the others only a
fragment that writes them. -/
def supports (dialect : Dialect) : Feature → Bool
  | .comparison operator => (dialect.operators.comparison operator).isSome
  | .bitwise operator => (dialect.operators.bitwise operator).isSome
  | .join kind => (dialect.operators.join kind).isSome
  | .compound kind => (dialect.operators.compound kind).isSome
  | .lock strength => (dialect.operators.lock strength).isSome
  | .clause .commonTables => dialect.capabilities.commonTables
  | .clause .windows => dialect.capabilities.windows
  | .clause .conflict => dialect.capabilities.onConflict
  | .clause .returning => dialect.capabilities.returning
  | .clause .furtherTables => dialect.capabilities.furtherTables
  | .clause _ => true
  | .recursiveTables => dialect.capabilities.recursiveTables
  | .distinctOn => dialect.capabilities.distinctOn
  | .windowFunctions => dialect.capabilities.windows
  | .conflictTarget => dialect.capabilities.conflictTarget
  | .conflictCondition => dialect.capabilities.conflictCondition
  | .orderOnUpdate => dialect.capabilities.orderOnUpdate
  | .limitOnUpdate => dialect.capabilities.limitOnUpdate
  | .orderOnDelete => dialect.capabilities.orderOnDelete
  | .limitOnDelete => dialect.capabilities.limitOnDelete
  | .restartIdentity => dialect.keywords.restartIdentity.isSome
  | .cascade => dialect.keywords.cascade.isSome
  | .restrict => dialect.keywords.restrict.isSome
  | .nullsFirst => dialect.keywords.nullsFirst.isSome
  | .nullsLast => dialect.keywords.nullsLast.isSome
  | .noWait => dialect.keywords.noWait.isSome
  | .skipLocked => dialect.keywords.skipLocked.isSome

end Dialect

end SqlDialects
