import SqlDialects.Draft.Insert

/-!
Deletions and truncations.
-/

namespace SqlDialects

open Draft

namespace Delete

def carried (delete : Delete) : List Clause :=
  carriedClauses
    [(.opening, true),
      (.commonTables, !delete.commonTables.isEmpty),
      (.table, true),
      (.conditions, !allEmptyConditions delete.conditions),
      (.order, !delete.orderBy.isEmpty),
      (.limit, delete.limit.isSome),
      (.returning, !delete.returning.isEmpty)]

def portion? (delete : Delete) (dialect : NamedDialect) (table : Expr) (fragment : Fragment)
    (pending : List Clause) : Option Portion :=
  match fragment with
  | .commonTables => some (.take .commonTables (delete.commonTables.draft dialect) pending)
  | .deleteOpening => some (.take .opening (ofText dialect.keywords.delete) pending)
  | .sources => some (.take .table (Draft.sources [table.draft dialect false]) pending)
  | .conditions =>
      some (.take .conditions (whereClause (conditionItems dialect delete.conditions)) pending)
  | .order =>
      some (.take .order
        (demand dialect.name dialect.capabilities.orderOnDelete .orderOnDelete
          ++ Draft.order (expressionDrafts dialect false delete.orderBy)) pending)
  | .limit =>
      some (.take .limit
        (demand dialect.name dialect.capabilities.limitOnDelete .limitOnDelete ++ ofText " LIMIT "
          ++ Draft.rows delete.limit) pending)
  | .returning => some (.take .returning (dialect.returningDraft delete.returning) pending)
  | _ => none

def draft (delete : Delete) (dialect : NamedDialect) : Draft :=
  match delete.table with
  | none => invalid (.missingTable .delete)
  | some table =>
      assemble dialect.name .delete (delete.portion? dialect table) dialect.orders.delete
        delete.carried

end Delete

namespace Truncate

def scopeDraft (dialect : NamedDialect) : Option TruncateScope → Draft
  | none => []
  | some .cascade => spelling dialect.name .cascade dialect.keywords.cascade
  | some .restrict => spelling dialect.name .restrict dialect.keywords.restrict

/-- A truncation is a single fragment. -/
def wholeDraft (truncate : Truncate) (dialect : NamedDialect) : Draft :=
  ofText dialect.keywords.truncate ++ ofText " "
    ++ commaSeparated (expressionDrafts dialect false truncate.tables)
    ++ (if truncate.restartIdentity then
          spelling dialect.name .restartIdentity dialect.keywords.restartIdentity
        else [])
    ++ scopeDraft dialect truncate.scope

def portion? (truncate : Truncate) (dialect : NamedDialect) (fragment : Fragment)
    (pending : List Clause) : Option Portion :=
  match fragment with
  | .truncation => some (.take .truncation (truncate.wholeDraft dialect) pending)
  | _ => none

def draft (truncate : Truncate) (dialect : NamedDialect) : Draft :=
  if truncate.tables.isEmpty then invalid (.missingTable .truncate)
  else
    assemble dialect.name .truncate (truncate.portion? dialect) dialect.orders.truncate
      [.truncation]

end Truncate

end SqlDialects
