import SqlDialects.Draft.Insert

/-!
Updates. Further tables stand beside the updated one or in a clause of their own, as the dialect
has it.
-/

namespace SqlDialects

open Draft

namespace Update

def carried (update : Update) : List Clause :=
  carriedClauses
    [(.opening, true),
      (.commonTables, !update.commonTables.isEmpty),
      (.table, true),
      (.assignments, true),
      (.conditions, !allEmptyConditions update.conditions),
      (.order, !update.orderBy.isEmpty),
      (.limit, update.limit.isSome),
      (.furtherTables, !update.furtherTables.isEmpty),
      (.returning, !update.returning.isEmpty)]

def furtherTablesDraft (update : Update) (dialect : NamedDialect) (opening : String) : Draft :=
  demand dialect.name dialect.capabilities.furtherTables (.clause .furtherTables) ++ ofText opening
    ++ commaSeparated (expressionDrafts dialect false update.furtherTables)

def tableDraft (dialect : NamedDialect) (table : Expr) : Draft :=
  ofText " " ++ table.draft dialect false

/-- The updated table, with the further tables beside it unless they have their own clause. -/
def tables (update : Update) (dialect : NamedDialect) (table : Expr) (pending : List Clause) :
    Portion :=
  if .table ∈ pending then
    let later := pending.erase .table
    if !dialect.conventions.furtherTablesInFrom && .furtherTables ∈ later then
      ⟨tableDraft dialect table ++ update.furtherTablesDraft dialect ", ",
        later.erase .furtherTables⟩
    else ⟨tableDraft dialect table, later⟩
  else .nothing pending

def assignmentsDraft (update : Update) (dialect : NamedDialect) : Draft :=
  if update.assignments.isEmpty then invalid .noAssignments
  else ofText " SET " ++ dialect.assignmentsDraft update.assignments

def portion? (update : Update) (dialect : NamedDialect) (table : Expr) (fragment : Fragment)
    (pending : List Clause) : Option Portion :=
  match fragment with
  | .commonTables => some (.take .commonTables (update.commonTables.draft dialect) pending)
  | .updateOpening => some (.take .opening (ofText dialect.keywords.update) pending)
  | .updateTables => some (update.tables dialect table pending)
  | .updateAssignments => some (.take .assignments (update.assignmentsDraft dialect) pending)
  | .updateSources =>
      some (if dialect.conventions.furtherTablesInFrom then
          .take .furtherTables (update.furtherTablesDraft dialect " FROM ") pending
        else .nothing pending)
  | .conditions =>
      some (.take .conditions (whereClause (conditionItems dialect update.conditions)) pending)
  | .order =>
      some (.take .order
        (demand dialect.name dialect.capabilities.orderOnUpdate .orderOnUpdate
          ++ Draft.order (expressionDrafts dialect false update.orderBy)) pending)
  | .limit =>
      some (.take .limit
        (demand dialect.name dialect.capabilities.limitOnUpdate .limitOnUpdate ++ ofText " LIMIT "
          ++ Draft.rows update.limit) pending)
  | .returning => some (.take .returning (dialect.returningDraft update.returning) pending)
  | _ => none

def draft (update : Update) (dialect : NamedDialect) : Draft :=
  match update.table with
  | none => invalid (.missingTable .update)
  | some table =>
      assemble dialect.name .update (update.portion? dialect table) dialect.orders.update
        update.carried

end Update

end SqlDialects
