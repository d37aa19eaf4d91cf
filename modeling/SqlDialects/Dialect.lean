import SqlDialects.Clause
import SqlDialects.Operator
import SqlDialects.Table

/-!
A dialect is data: what it supports, how it spells things, and in which order it writes the
fragments of a statement. An operator without a spelling and a keyword without a text are features
that the dialect lacks.
-/

namespace SqlDialects

/-- Clauses that a dialect may have or lack. -/
structure Capabilities where
  returning : Bool
  onConflict : Bool
  conflictTarget : Bool
  conflictCondition : Bool
  insertIgnore : Bool
  commonTables : Bool
  recursiveTables : Bool
  distinctOn : Bool
  windows : Bool
  limitOnUpdate : Bool
  orderOnUpdate : Bool
  limitOnDelete : Bool
  orderOnDelete : Bool
  furtherTables : Bool
deriving DecidableEq

/-- Choices between two ways of writing the same thing. -/
structure Conventions where
  conflictUpdateNeedsTarget : Bool
  furtherTablesInFrom : Bool
  compoundsInParentheses : Bool
  booleanType : Bool
  plainBooleanTests : Bool
  quotedIdentifiers : Bool
  numberedPlaceholders : Bool
deriving DecidableEq

/-- How names, placeholders and values are written. -/
structure Lexicon where
  identifierQuote : Char
  textQuote : Char
  placeholder : String
  escapes : Table Char String
  nullText : String
  trueText : String
  falseText : String
  timePattern : String
  blobOpening : String
  blobClosing : String
  emptyTuple : String
  excludedOpening : String
  excludedClosing : String
deriving DecidableEq

structure Keywords where
  commonTables : String
  recursive : String
  select : String
  distinct : String
  insert : String
  insertIgnore : String
  update : String
  delete : String
  truncate : String
  defaultValues : String
  onConflict : String
  doNothing : String
  doUpdate : String
  returning : String
  cascade : Option String
  restrict : Option String
  restartIdentity : Option String
  nullsFirst : Option String
  nullsLast : Option String
  noWait : Option String
  skipLocked : Option String
deriving DecidableEq

structure Operators where
  comparison : Comparison → Option String
  bitwise : BitOperator → Option String
  join : JoinKind → Option String
  compound : CompoundKind → Option String
  lock : LockStrength → Option String

/-- The fragments of each kind of statement, in the order in which they are written. -/
structure FragmentOrders where
  select : List Fragment
  insert : List Fragment
  update : List Fragment
  delete : List Fragment
  truncate : List Fragment
deriving DecidableEq

structure Dialect where
  capabilities : Capabilities
  conventions : Conventions
  lexicon : Lexicon
  keywords : Keywords
  operators : Operators
  orders : FragmentOrders

namespace Dialect

def order (dialect : Dialect) : StatementKind → List Fragment
  | .select => dialect.orders.select
  | .insert => dialect.orders.insert
  | .update => dialect.orders.update
  | .delete => dialect.orders.delete
  | .truncate => dialect.orders.truncate

/-- The order of a kind given by name; there are no fragments for other names. -/
def orderNamed (dialect : Dialect) (name : String) : List Fragment :=
  match StatementKind.ofName? name with
  | some kind => dialect.order kind
  | none => []

end Dialect

/-- A dialect with the name that it goes by. Failures tell the name; nothing else may depend on
it. -/
structure NamedDialect extends Dialect where
  name : String

instance : Coe NamedDialect Dialect where
  coe := NamedDialect.toDialect

end SqlDialects
