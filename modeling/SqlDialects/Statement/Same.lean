import SqlDialects.Expr.Same
import SqlDialects.Statement

/-!
Equality of records and statements, part by part. The columns of a record are compared without
their order, its duplicates with it.
-/

namespace SqlDialects

def sameOption {α : Type} (same : α → α → Bool) : Option α → Option α → Bool
  | none, none => true
  | some left, some right => same left right
  | _, _ => false

def sameList {α : Type} (same : α → α → Bool) : List α → List α → Bool
  | [], [] => true
  | left :: lefts, right :: rights => same left right && sameList same lefts rights
  | _, _ => false

namespace Record

def same (left right : Record) : Bool :=
  left.size = right.size
    && left.entries.all (fun entry =>
      match right.find? entry.1 with
      | some value => entry.2.same value
      | none => false)
    && left.duplicates = right.duplicates

end Record

namespace InsertSource

def same : InsertSource → InsertSource → Bool
  | .defaultValues, .defaultValues => true
  | .rows left, .rows right => sameList sameExprs left right
  | .records left, .records right => sameList Record.same left right
  | .query left, .query right => left.same right
  | _, _ => false

end InsertSource

namespace ConflictAction

def same : ConflictAction → ConflictAction → Bool
  | .nothing, .nothing => true
  | .update left leftCondition, .update right rightCondition =>
      left.same right && sameOption Expr.same leftCondition rightCondition
  | _, _ => false

end ConflictAction

namespace Conflict

def same (left right : Conflict) : Bool :=
  left.target = right.target && left.action.same right.action

end Conflict

namespace Insert

def same (left right : Insert) : Bool :=
  left.commonTables.same right.commonTables && sameOption Expr.same left.table right.table
    && sameExprs left.columns right.columns && left.source.same right.source
    && sameOption Conflict.same left.conflict right.conflict
    && sameExprs left.returning right.returning

end Insert

namespace Update

def same (left right : Update) : Bool :=
  left.commonTables.same right.commonTables && sameOption Expr.same left.table right.table
    && left.assignments.same right.assignments
    && sameExprs left.furtherTables right.furtherTables
    && sameExprs left.conditions right.conditions && sameExprs left.orderBy right.orderBy
    && left.limit = right.limit && sameExprs left.returning right.returning

end Update

namespace Delete

def same (left right : Delete) : Bool :=
  left.commonTables.same right.commonTables && sameOption Expr.same left.table right.table
    && sameExprs left.conditions right.conditions && sameExprs left.orderBy right.orderBy
    && left.limit = right.limit && sameExprs left.returning right.returning

end Delete

namespace Truncate

def same (left right : Truncate) : Bool :=
  sameExprs left.tables right.tables && left.restartIdentity = right.restartIdentity
    && left.scope = right.scope

end Truncate

namespace Statement

def same : Statement → Statement → Bool
  | .select left, .select right => left.same right
  | .insert left, .insert right => left.same right
  | .update left, .update right => left.same right
  | .delete left, .delete right => left.same right
  | .truncate left, .truncate right => left.same right
  | _, _ => false

end Statement

end SqlDialects
