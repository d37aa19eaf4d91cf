import SqlDialects.Statement

/-!
The calls that build a statement, as data. A statement is what a list of calls leaves of the empty
statement; the clauses of different calls do not disturb each other.
-/

namespace SqlDialects

namespace CommonTables

def add (commonTables : CommonTables) (name : String) (query : Select) : CommonTables :=
  { commonTables with tables := commonTables.tables ++ [⟨name, query⟩] }

/-- One recursive table makes the whole clause recursive. -/
def addRecursive (commonTables : CommonTables) (name : String) (query : Select) : CommonTables :=
  ⟨true, commonTables.tables ++ [⟨name, query⟩]⟩

end CommonTables

inductive Select.Call where
  | columns (columns : List Expr)
  | column (column : Expr)
  | distinct
  | distinctOn (columns : List Expr)
  | source (source : Expr)
  | join (kind : JoinKind) (source condition : Expr)
  | joinUsing (kind : JoinKind) (source : Expr) (columns : List String)
  | joinPlain (kind : JoinKind) (source : Expr)
  | condition (condition : Expr)
  | groupBy (columns : List Expr)
  | groupCondition (condition : Expr)
  | window (window : Window)
  | compound (kind : CompoundKind) (query : Select)
  | orderBy (keys : List Expr)
  | limit (rows : Nat)
  | offset (rows : Nat)
  | lock (strength : LockStrength) (wait : LockWait)
  | lockWait (wait : LockWait)
  | commonTable (name : String) (query : Select)
  | recursiveTable (name : String) (query : Select)

namespace Select

namespace Call

def innerJoin : Expr → Expr → Call :=
  join .inner

def leftJoin : Expr → Expr → Call :=
  join .left

def rightJoin : Expr → Expr → Call :=
  join .right

def fullJoin : Expr → Expr → Call :=
  join .full

def crossJoin : Expr → Call :=
  joinPlain .cross

def naturalJoin : Expr → Call :=
  joinPlain .natural

def union : Select → Call :=
  compound .union

def unionAll : Select → Call :=
  compound .unionAll

def intersect : Select → Call :=
  compound .intersect

def intersectAll : Select → Call :=
  compound .intersectAll

def except : Select → Call :=
  compound .except

def exceptAll : Select → Call :=
  compound .exceptAll

def blockingLock (strength : LockStrength) : Call :=
  lock strength .block

def forUpdate : Call :=
  blockingLock .update

def forNoKeyUpdate : Call :=
  blockingLock .noKeyUpdate

def forShare : Call :=
  blockingLock .share

def forKeyShare : Call :=
  blockingLock .keyShare

def noWait : Call :=
  lockWait .noWait

def skipLocked : Call :=
  lockWait .skipLocked

end Call

/-- The effect of one call. The wait of a lock can be changed only when there is a lock. -/
def apply (select : Select) : Call → Select
  | .columns columns => { select with columns := columns }
  | .column column => { select with columns := select.columns ++ [column] }
  | .distinct => { select with distinct := .all }
  | .distinctOn columns => { select with distinct := .on columns }
  | .source source => { select with sources := select.sources ++ [source] }
  | .join kind source condition =>
      { select with joins := select.joins ++ [⟨kind, source, .on condition⟩] }
  | .joinUsing kind source columns =>
      { select with joins := select.joins ++ [⟨kind, source, .using columns⟩] }
  | .joinPlain kind source => { select with joins := select.joins ++ [⟨kind, source, .none⟩] }
  | .condition condition => { select with conditions := select.conditions ++ [condition] }
  | .groupBy columns => { select with groupBy := select.groupBy ++ columns }
  | .groupCondition condition =>
      { select with groupConditions := select.groupConditions ++ [condition] }
  | .window window => { select with windows := select.windows ++ [window] }
  | .compound kind query => { select with compounds := select.compounds ++ [⟨kind, query⟩] }
  | .orderBy keys => { select with orderBy := select.orderBy ++ keys }
  | .limit rows => { select with limit := some rows }
  | .offset rows => { select with offset := some rows }
  | .lock strength wait => { select with lock := some ⟨strength, wait⟩ }
  | .lockWait wait => { select with lock := select.lock.map fun lock => { lock with wait := wait } }
  | .commonTable name query => { select with commonTables := select.commonTables.add name query }
  | .recursiveTable name query =>
      { select with commonTables := select.commonTables.addRecursive name query }

def ofCalls (calls : List Call) : Select :=
  calls.foldl apply empty

end Select

inductive Insert.Call where
  | into (table : Expr)
  | columns (columns : List Expr)
  | values (row : List Expr)
  | record (record : Record)
  | records (records : List Record)
  | query (query : Select)
  | defaultValues
  | conflict (conflict : Conflict)
  | returning (columns : List Expr)
  | commonTable (name : String) (query : Select)
  | recursiveTable (name : String) (query : Select)

namespace InsertSource

def addRow (source : InsertSource) (row : List Expr) : InsertSource :=
  match source with
  | .rows earlier => .rows (earlier ++ [row])
  | _ => .rows [row]

def addRecord (source : InsertSource) (record : Record) : InsertSource :=
  match source with
  | .records earlier => .records (earlier ++ [record])
  | _ => .records [record]

end InsertSource

namespace Insert

/-- The effect of one call. Naming the table starts anew. -/
def apply (insert : Insert) : Call → Insert
  | .into table => { empty with table := some table }
  | .columns columns => { insert with columns := columns }
  | .values row => { insert with source := insert.source.addRow row }
  | .record record => { insert with source := insert.source.addRecord record }
  | .records records => { insert with source := records.foldl InsertSource.addRecord insert.source }
  | .query query => { insert with source := .query query }
  | .defaultValues => { insert with source := .defaultValues }
  | .conflict conflict => { insert with conflict := some conflict }
  | .returning columns => { insert with returning := insert.returning ++ columns }
  | .commonTable name query => { insert with commonTables := insert.commonTables.add name query }
  | .recursiveTable name query =>
      { insert with commonTables := insert.commonTables.addRecursive name query }

def ofCalls (calls : List Call) : Insert :=
  calls.foldl apply empty

end Insert

namespace Conflict

def doNothing : Conflict :=
  ⟨[], .nothing⟩

def doUpdate (target : List String) (assignments : Record) : Conflict :=
  ⟨target, .update assignments none⟩

def doUpdateWhere (target : List String) (assignments : Record) (condition : Expr) : Conflict :=
  ⟨target, .update assignments (some condition)⟩

def withTarget (conflict : Conflict) (target : List String) : Conflict :=
  { conflict with target := target }

end Conflict

inductive Update.Call where
  | table (table : Expr)
  | assignments (assignments : Record)
  | assign (column : String) (value : Expr)
  | furtherTables (tables : List Expr)
  | condition (condition : Expr)
  | orderBy (keys : List Expr)
  | limit (rows : Nat)
  | returning (columns : List Expr)
  | commonTable (name : String) (query : Select)
  | recursiveTable (name : String) (query : Select)

namespace Update

/-- The effect of one call. Naming the table starts anew. -/
def apply (update : Update) : Call → Update
  | .table table => { empty with table := some table }
  | .assignments assignments => { update with assignments := assignments }
  | .assign column value => { update with assignments := update.assignments.set column value }
  | .furtherTables tables => { update with furtherTables := update.furtherTables ++ tables }
  | .condition condition => { update with conditions := update.conditions ++ [condition] }
  | .orderBy keys => { update with orderBy := update.orderBy ++ keys }
  | .limit rows => { update with limit := some rows }
  | .returning columns => { update with returning := update.returning ++ columns }
  | .commonTable name query => { update with commonTables := update.commonTables.add name query }
  | .recursiveTable name query =>
      { update with commonTables := update.commonTables.addRecursive name query }

def ofCalls (calls : List Call) : Update :=
  calls.foldl apply empty

end Update

inductive Delete.Call where
  | table (table : Expr)
  | condition (condition : Expr)
  | orderBy (keys : List Expr)
  | limit (rows : Nat)
  | returning (columns : List Expr)
  | commonTable (name : String) (query : Select)
  | recursiveTable (name : String) (query : Select)

namespace Delete

/-- The effect of one call. Naming the table starts anew. -/
def apply (delete : Delete) : Call → Delete
  | .table table => { empty with table := some table }
  | .condition condition => { delete with conditions := delete.conditions ++ [condition] }
  | .orderBy keys => { delete with orderBy := delete.orderBy ++ keys }
  | .limit rows => { delete with limit := some rows }
  | .returning columns => { delete with returning := delete.returning ++ columns }
  | .commonTable name query => { delete with commonTables := delete.commonTables.add name query }
  | .recursiveTable name query =>
      { delete with commonTables := delete.commonTables.addRecursive name query }

def ofCalls (calls : List Call) : Delete :=
  calls.foldl apply empty

end Delete

inductive Truncate.Call where
  | tables (tables : List Expr)
  | restartIdentity
  | scope (scope : TruncateScope)

namespace Truncate

namespace Call

def table (table : Expr) : Call :=
  tables [table]

def cascade : Call :=
  scope .cascade

def restrict : Call :=
  scope .restrict

end Call

/-- The effect of one call. Naming the tables starts anew. -/
def apply (truncate : Truncate) : Call → Truncate
  | .tables tables => { empty with tables := tables }
  | .restartIdentity => { truncate with restartIdentity := true }
  | .scope scope => { truncate with scope := some scope }

def ofCalls (calls : List Call) : Truncate :=
  calls.foldl apply empty

end Truncate

inductive Statement.Script where
  | select (calls : List Select.Call)
  | insert (calls : List Insert.Call)
  | update (calls : List Update.Call)
  | delete (calls : List Delete.Call)
  | truncate (calls : List Truncate.Call)

namespace Statement

def ofScript : Script → Statement
  | .select calls => .select (.ofCalls calls)
  | .insert calls => .insert (.ofCalls calls)
  | .update calls => .update (.ofCalls calls)
  | .delete calls => .delete (.ofCalls calls)
  | .truncate calls => .truncate (.ofCalls calls)

end Statement

/-- A state and all states after it, one for every call. -/
def scan {α β : Type} (step : α → β → α) : α → List β → List α
  | state, [] => [state]
  | state, call :: rest => state :: scan step (step state call) rest

namespace Statement

/-- The empty statement and what each call makes of the one before it. -/
def stages : Script → List Statement
  | .select calls => (scan Select.apply .empty calls).map .select
  | .insert calls => (scan Insert.apply .empty calls).map .insert
  | .update calls => (scan Update.apply .empty calls).map .update
  | .delete calls => (scan Delete.apply .empty calls).map .delete
  | .truncate calls => (scan Truncate.apply .empty calls).map .truncate

end Statement

end SqlDialects
