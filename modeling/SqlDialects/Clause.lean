import SqlDialects.Vocabulary

/-!
The kinds of statements, the clauses that a statement may carry, and the fragments out of which a
dialect orders a statement.
-/

namespace SqlDialects

inductive StatementKind where
  | select
  | insert
  | update
  | delete
  | truncate
deriving DecidableEq, Repr

def StatementKind.name : StatementKind → String
  | .select => "select"
  | .insert => "insert"
  | .update => "update"
  | .delete => "delete"
  | .truncate => "truncate"

def StatementKind.ofName? : String → Option StatementKind
  | "select" => some .select
  | "insert" => some .insert
  | "update" => some .update
  | "delete" => some .delete
  | "truncate" => some .truncate
  | _ => none

def StatementKind.keyword : StatementKind → String
  | .select => "SELECT"
  | .insert => "INSERT"
  | .update => "UPDATE"
  | .delete => "DELETE"
  | .truncate => "TRUNCATE"

inductive Clause where
  | opening
  | commonTables
  | columns
  | table
  | values
  | assignments
  | sources
  | joins
  | conditions
  | groups
  | groupConditions
  | windows
  | compounds
  | order
  | limit
  | offset
  | lock
  | furtherTables
  | conflict
  | returning
  | truncation
deriving DecidableEq, Repr

namespace Clause

def name : Clause → String
  | .opening => "statement keyword"
  | .commonTables => "WITH"
  | .columns => "SELECT"
  | .table => "target table"
  | .values => "VALUES"
  | .assignments => "SET"
  | .sources => "FROM"
  | .joins => "JOIN"
  | .conditions => "WHERE"
  | .groups => "GROUP BY"
  | .groupConditions => "HAVING"
  | .windows => "WINDOW"
  | .compounds => "compound query"
  | .order => "ORDER BY"
  | .limit => "LIMIT"
  | .offset => "OFFSET"
  | .lock => "row locking"
  | .furtherTables => "multiple update tables"
  | .conflict => "ON CONFLICT"
  | .returning => "RETURNING"
  | .truncation => "TRUNCATE"

def isRequired : Clause → Bool
  | .opening | .columns | .table | .values | .assignments | .truncation => true
  | _ => false

end Clause

/-- One part of a statement that a dialect may place where it likes. -/
inductive Fragment where
  | commonTables
  | select
  | selectWithLimit
  | sources
  | joins
  | conditions
  | groups
  | groupConditions
  | windows
  | compounds
  | order
  | orderWithOffsetFetch
  | limit
  | offset
  | lock
  | insertOpening
  | insertTable
  | insertValues
  | conflict
  | returning
  | updateOpening
  | updateTables
  | updateAssignments
  | updateSources
  | deleteOpening
  | truncation
deriving DecidableEq, Repr

namespace Fragment

def key : Fragment → String
  | .commonTables => "CommonTable"
  | .select => "Select"
  | .selectWithLimit => "SelectWithLimit"
  | .sources => "From"
  | .joins => "Join"
  | .conditions => "Where"
  | .groups => "GroupBy"
  | .groupConditions => "Having"
  | .windows => "Window"
  | .compounds => "Compounds"
  | .order => "Order"
  | .orderWithOffsetFetch => "OrderWithOffsetFetch"
  | .limit => "Limit"
  | .offset => "Offset"
  | .lock => "For"
  | .insertOpening => "InsertBegin"
  | .insertTable => "Into"
  | .insertValues => "Insert"
  | .conflict => "OnConflict"
  | .returning => "Returning"
  | .updateOpening => "UpdateBegin"
  | .updateTables => "Sources"
  | .updateAssignments => "UpdateSet"
  | .updateSources => "UpdateFrom"
  | .deleteOpening => "DeleteBegin"
  | .truncation => "Truncate"

instance : Vocabulary Fragment where
  members := [.commonTables, .select, .selectWithLimit, .sources, .joins, .conditions, .groups,
    .groupConditions, .windows, .compounds, .order, .orderWithOffsetFetch, .limit, .offset, .lock,
    .insertOpening, .insertTable, .insertValues, .conflict, .returning, .updateOpening,
    .updateTables, .updateAssignments, .updateSources, .deleteOpening, .truncation]
  key := key
  complete := by intro fragment; cases fragment <;> decide
  key_injective := by intro left right same; revert same; cases left <;> cases right <;> decide

end Fragment

end SqlDialects
