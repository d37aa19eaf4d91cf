import SqlDialects.Draft.Expr
import SqlDialects.Statement

/-!
Insertions. Rows and records are checked before anything of them is written, and a conflict clause
is either written whole or, where the dialect says so, replaced by another opening keyword.
-/

namespace SqlDialects

open Draft

namespace Record

def duplicateDraft (record : Record) : Draft :=
  match record.duplicate? with
  | some column => invalid (.duplicateColumn column)
  | none => []

def alignedDrafts (record : Record) (dialect : NamedDialect) (columns : List String) :
    List Draft :=
  columns.map fun column =>
    match record.find? column with
    | some value => value.draft dialect false
    | none => []

def sets (record : Record) (columns : List String) : Bool :=
  record.size = columns.length && columns.all fun column => (record.find? column).isSome

end Record

namespace Draft

def columnList (columns : List Draft) : Draft :=
  if columns.isEmpty then [] else enclosed " (" (commaSeparated columns) ")"

def tuples (rows : List (List Draft)) : Draft :=
  ofText " VALUES " ++ commaSeparated (rows.map fun row => parenthesized (commaSeparated row))

/-- The first fault of the rows: an empty one, or one that does not fit the listed columns. -/
def rowFaults (columns : Nat) : Nat → List (List Expr) → Draft
  | _, [] => []
  | index, row :: rest =>
      if row.isEmpty then invalid (.emptyRow index)
      else if columns ≠ 0 && row.length ≠ columns then
        invalid (.rowWidth index row.length columns)
      else rowFaults columns (index + 1) rest

/-- The first fault of the records: a column set twice, or other columns than the first record's. -/
def recordFaults (columns : List String) : Nat → List Record → Draft
  | _, [] => []
  | index, record :: rest =>
      match record.duplicate? with
      | some column => invalid (.duplicateColumn column)
      | none =>
          if record.sets columns then recordFaults columns (index + 1) rest
          else invalid (.unevenRecord index)

end Draft

/-- An insertion that skips existing rows may be a keyword instead of a clause. -/
def Dialect.ignoresConflict (dialect : Dialect) : Option Conflict → Bool
  | some ⟨[], .nothing⟩ => dialect.capabilities.onConflict && dialect.capabilities.insertIgnore
  | _ => false

namespace NamedDialect

/-- The assignments of a record. Unlike an insertion's columns, their names may be qualified. -/
def assignmentsDraft (dialect : NamedDialect) (assignments : Record) : Draft :=
  assignments.duplicateDraft
    ++ commaSeparated (assignments.entries.map fun entry =>
      dialect.identifierDraft (.parse entry.1) ++ ofText " = " ++ entry.2.draft dialect false)

def returningDraft (dialect : NamedDialect) (columns : List Expr) : Draft :=
  demand dialect.name dialect.capabilities.returning (.clause .returning)
    ++ ofText dialect.keywords.returning
    ++ commaSeparated (expressionDrafts dialect false columns)

def rowsSourceDraft (dialect : NamedDialect) (columns : List Expr) (rows : List (List Expr)) :
    Draft :=
  if rows.isEmpty then invalid .noRows
  else
    Draft.rowFaults columns.length 0 rows
      ++ Draft.columnList (expressionDrafts dialect false columns)
      ++ Draft.tuples (rows.map (expressionDrafts dialect false))

def recordsSourceDraft (dialect : NamedDialect) (columns : List Expr) (records : List Record) :
    Draft :=
  if !columns.isEmpty then invalid .columnsBesideRecords
  else
    match records with
    | [] => invalid .noRows
    | first :: rest =>
        if first.isEmpty then invalid .emptyFirstRecord
        else
          Draft.recordFaults first.columns 0 (first :: rest)
            ++ Draft.columnList (first.columns.map dialect.nameDraft)
            ++ Draft.tuples ((first :: rest).map fun record =>
              record.alignedDrafts dialect first.columns)

def insertSourceDraft (dialect : NamedDialect) (columns : List Expr) : InsertSource → Draft
  | .defaultValues =>
      if columns.isEmpty then ofText dialect.keywords.defaultValues
      else invalid .columnsWithoutValues
  | .rows rows => dialect.rowsSourceDraft columns rows
  | .records records => dialect.recordsSourceDraft columns records
  | .query query =>
      Draft.columnList (expressionDrafts dialect false columns) ++ ofText " " ++ query.draft dialect

/-- The faults of a conflict clause, from the first that counts to the last. -/
def conflictFaults (dialect : NamedDialect) (conflict : Conflict) : Draft :=
  demand dialect.name dialect.capabilities.onConflict (.clause .conflict)
    ++ (if conflict.target.isEmpty then []
        else demand dialect.name dialect.capabilities.conflictTarget .conflictTarget)
    ++ (match conflict.action with
        | .nothing => []
        | .update assignments condition =>
            (if Expr.asksSomething condition then
                demand dialect.name dialect.capabilities.conflictCondition .conflictCondition
              else [])
              ++ (if assignments.isEmpty then invalid .noConflictAssignments else [])
              ++ (if conflict.target.isEmpty && dialect.conventions.conflictUpdateNeedsTarget then
                    invalid .missingConflictTarget
                  else []))
    ++ (if conflict.target.any String.isEmpty then invalid .emptyConflictColumn else [])

def conflictActionDraft (dialect : NamedDialect) : ConflictAction → Draft
  | .nothing => ofText dialect.keywords.doNothing
  | .update assignments condition =>
      ofText dialect.keywords.doUpdate ++ dialect.assignmentsDraft assignments
        ++ (match condition with
            | some condition =>
                if condition.isEmptyCondition then []
                else ofText " WHERE " ++ condition.draft dialect false
            | none => [])

def conflictDraft (dialect : NamedDialect) (conflict : Conflict) : Draft :=
  dialect.conflictFaults conflict
    ++ (if dialect.ignoresConflict (some conflict) then []
        else
          ofText dialect.keywords.onConflict
            ++ Draft.columnList (conflict.target.map dialect.nameDraft)
            ++ dialect.conflictActionDraft conflict.action)

end NamedDialect

namespace Insert

def carried (insert : Insert) : List Clause :=
  carriedClauses
    [(.opening, true),
      (.commonTables, !insert.commonTables.isEmpty),
      (.table, true),
      (.values, true),
      (.conflict, insert.conflict.isSome),
      (.returning, !insert.returning.isEmpty)]

def openingDraft (insert : Insert) (dialect : Dialect) : Draft :=
  ofText (if dialect.ignoresConflict insert.conflict then dialect.keywords.insertIgnore
    else dialect.keywords.insert)

def portion? (insert : Insert) (dialect : NamedDialect) (table : Expr) (fragment : Fragment)
    (pending : List Clause) : Option Portion :=
  match fragment with
  | .commonTables => some (.take .commonTables (insert.commonTables.draft dialect) pending)
  | .insertOpening => some (.take .opening (insert.openingDraft dialect) pending)
  | .insertTable => some (.take .table (ofText " " ++ table.draft dialect false) pending)
  | .insertValues =>
      some (.take .values (dialect.insertSourceDraft insert.columns insert.source) pending)
  | .conflict =>
      some (.take .conflict ((insert.conflict.map dialect.conflictDraft).getD []) pending)
  | .returning => some (.take .returning (dialect.returningDraft insert.returning) pending)
  | _ => none

def draft (insert : Insert) (dialect : NamedDialect) : Draft :=
  match insert.table with
  | none => invalid (.missingTable .insert)
  | some table =>
      assemble dialect.name .insert (insert.portion? dialect table) dialect.orders.insert
        insert.carried

end Insert

end SqlDialects
