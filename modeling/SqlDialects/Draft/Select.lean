import SqlDialects.Draft.Assembly
import SqlDialects.Expr
import SqlDialects.Literal

/-!
A query out of the drafts of its parts, by the dialect's order of fragments. A limit may be written
beside the columns, and an offset and a limit may be written together behind the order.
-/

namespace SqlDialects

open Draft

/-- The drafts of a query's clauses. `opening` ends before the columns. -/
structure SelectParts where
  carried : List Clause
  hasOffset : Bool
  commonTables : Draft
  opening : Draft
  columns : Draft
  sources : Draft
  joins : Draft
  conditions : Draft
  groups : Draft
  groupConditions : Draft
  windows : Draft
  compounds : Draft
  order : Draft
  limit : Draft
  offset : Draft
  lock : Draft

namespace SelectParts

/-- The columns, with the limit before them unless there is an offset. -/
def columnsWithLimit (parts : SelectParts) (pending : List Clause) : Portion :=
  if .columns ∈ pending then
    let later := pending.erase .columns
    if !parts.hasOffset && .limit ∈ later then
      ⟨parts.opening ++ enclosed " TOP (" parts.limit ")" ++ parts.columns, later.erase .limit⟩
    else ⟨parts.opening ++ parts.columns, later⟩
  else .nothing pending

def orderWithOffsetFetch (parts : SelectParts) (pending : List Clause) : Portion :=
  if .offset ∈ pending then
    if .order ∈ pending then
      let written := parts.order ++ enclosed " OFFSET " parts.offset " ROWS"
      let later := (pending.erase .order).erase .offset
      if .limit ∈ later then
        ⟨written ++ enclosed " FETCH NEXT " parts.limit " ROWS ONLY", later.erase .limit⟩
      else ⟨written, later⟩
    else ⟨invalid .offsetWithoutOrder, pending.erase .offset⟩
  else .take .order parts.order pending

def portion? (parts : SelectParts) (fragment : Fragment) (pending : List Clause) :
    Option Portion :=
  match fragment with
  | .commonTables => some (.take .commonTables parts.commonTables pending)
  | .select => some (.take .columns (parts.opening ++ parts.columns) pending)
  | .selectWithLimit => some (parts.columnsWithLimit pending)
  | .sources => some (.take .sources parts.sources pending)
  | .joins => some (.take .joins parts.joins pending)
  | .conditions => some (.take .conditions parts.conditions pending)
  | .groups => some (.take .groups parts.groups pending)
  | .groupConditions => some (.take .groupConditions parts.groupConditions pending)
  | .windows => some (.take .windows parts.windows pending)
  | .compounds => some (.take .compounds parts.compounds pending)
  | .order => some (.take .order parts.order pending)
  | .orderWithOffsetFetch => some (parts.orderWithOffsetFetch pending)
  | .limit => some (.take .limit (ofText " LIMIT " ++ parts.limit) pending)
  | .offset => some (.take .offset (ofText " OFFSET " ++ parts.offset) pending)
  | .lock => some (.take .lock parts.lock pending)
  | _ => none

def draft (parts : SelectParts) (dialect : String) (order : List Fragment) : Draft :=
  .assemble dialect .select parts.portion? order parts.carried

end SelectParts

namespace Select

/-- A query always carries its columns; conditions are carried when one of them asks something. -/
def carried (select : Select) : List Clause :=
  carriedClauses
    [(.commonTables, !select.commonTables.isEmpty),
      (.columns, true),
      (.sources, !select.sources.isEmpty),
      (.joins, !select.joins.isEmpty),
      (.conditions, !allEmptyConditions select.conditions),
      (.groups, !select.groupBy.isEmpty),
      (.groupConditions, !allEmptyConditions select.groupConditions),
      (.windows, !select.windows.isEmpty),
      (.compounds, !select.compounds.isEmpty),
      (.order, !select.orderBy.isEmpty),
      (.limit, select.limit.isSome),
      (.offset, select.offset.isSome),
      (.lock, select.lock.isSome)]

end Select

namespace Draft

def rows : Option Nat → Draft
  | some count => rowCount count
  | none => []

end Draft

namespace NamedDialect

def lockWaitDraft (dialect : NamedDialect) : LockWait → Draft
  | .block => []
  | .noWait => spelling dialect.name .noWait dialect.keywords.noWait
  | .skipLocked => spelling dialect.name .skipLocked dialect.keywords.skipLocked

def lockDraft (dialect : NamedDialect) : Option Lock → Draft
  | some lock =>
      spelling dialect.name (.lock lock.strength) (dialect.operators.lock lock.strength)
        ++ dialect.lockWaitDraft lock.wait
  | none => []

end NamedDialect

end SqlDialects
