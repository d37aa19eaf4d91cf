import SqlDialects.Clause
import SqlDialects.Record

/-!
Statements. Like a query, a statement holds its clauses by kind and not by the order in which they
were given.
-/

namespace SqlDialects

/-- Where the rows of an insertion come from. Records name their own columns. -/
inductive InsertSource where
  | defaultValues
  | rows (rows : List (List Expr))
  | records (records : List Record)
  | query (query : Select)

/-- What an insertion does about a row that exists already. -/
inductive ConflictAction where
  | nothing
  | update (assignments : Record) (condition : Option Expr)

structure Conflict where
  target : List String
  action : ConflictAction

structure Insert where
  commonTables : CommonTables
  table : Option Expr
  columns : List Expr
  source : InsertSource
  conflict : Option Conflict
  returning : List Expr

structure Update where
  commonTables : CommonTables
  table : Option Expr
  assignments : Record
  furtherTables : List Expr
  conditions : List Expr
  orderBy : List Expr
  limit : Option Nat
  returning : List Expr

structure Delete where
  commonTables : CommonTables
  table : Option Expr
  conditions : List Expr
  orderBy : List Expr
  limit : Option Nat
  returning : List Expr

inductive TruncateScope where
  | cascade
  | restrict
deriving DecidableEq, Repr

structure Truncate where
  tables : List Expr
  restartIdentity : Bool
  scope : Option TruncateScope

inductive Statement where
  | select (select : Select)
  | insert (insert : Insert)
  | update (update : Update)
  | delete (delete : Delete)
  | truncate (truncate : Truncate)

namespace Insert

def empty : Insert :=
  ⟨.none, none, [], .defaultValues, none, []⟩

end Insert

namespace Update

def empty : Update :=
  ⟨.none, none, .empty, [], [], [], none, []⟩

end Update

namespace Delete

def empty : Delete :=
  ⟨.none, none, [], [], none, []⟩

end Delete

namespace Truncate

def empty : Truncate :=
  ⟨[], false, none⟩

end Truncate

namespace Statement

def kind : Statement → StatementKind
  | .select _ => .select
  | .insert _ => .insert
  | .update _ => .update
  | .delete _ => .delete
  | .truncate _ => .truncate

end Statement

end SqlDialects
