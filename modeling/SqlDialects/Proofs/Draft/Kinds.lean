import SqlDialects.Compile
import SqlDialects.Proofs.Draft.Removal

/-!
Statements of every kind alike: what they carry, what each clause drafts, which fragments are able
to write it, and that a statement is assembled out of what its fragments write.
-/

namespace SqlDialects

open Draft Fragment

namespace Select

def parts (query : Select) (dialect : NamedDialect) : SelectParts where
  carried := query.carried
  hasOffset := query.offset.isSome
  commonTables := query.commonTables.draft dialect
  opening := ofText dialect.keywords.select ++ query.distinct.draft dialect
  columns := Draft.columns (expressionDrafts dialect false query.columns)
  sources := Draft.sources (expressionDrafts dialect false query.sources)
  joins := joinDrafts dialect query.joins
  conditions := whereClause (conditionItems dialect query.conditions)
  groups := Draft.groups (expressionDrafts dialect false query.groupBy)
  groupConditions := havingClause (conditionItems dialect query.groupConditions)
  windows := dialect.windowsDraft (namedWindowDrafts dialect query.windows)
  compounds := compoundDrafts dialect query.compounds
  order := Draft.order (expressionDrafts dialect false query.orderBy)
  limit := Draft.rows query.limit
  offset := Draft.rows query.offset
  lock := dialect.lockDraft query.lock

theorem draft_eq_parts (query : Select) (dialect : NamedDialect) :
    query.draft dialect = (query.parts dialect).draft dialect.name dialect.orders.select := by
  cases query
  rfl

theorem columns_mem_carried (query : Select) : .columns ∈ query.carried := by
  simp [carried, carriedClauses]

theorem offset_mem_carried (query : Select) : .offset ∈ query.carried ↔ query.offset.isSome := by
  simp [carried, carriedClauses]

end Select

theorem nodup_carriedClauses {entries : List (Clause × Bool)}
    (nodup : (entries.map Prod.fst).Nodup) : (carriedClauses entries).Nodup :=
  nodup.sublist (List.filter_sublist.map Prod.fst)

/-- The clauses without which there is no statement of a kind. -/
def StatementKind.required : StatementKind → List Clause
  | .select => [.columns]
  | .insert => [.opening, .table, .values]
  | .update => [.opening, .table, .assignments]
  | .delete => [.opening, .table]
  | .truncate => [.truncation]

/-- The clauses that a statement of a kind may carry. -/
def StatementKind.clauses : StatementKind → List Clause
  | .select => [.commonTables, .columns, .sources, .joins, .conditions, .groups, .groupConditions,
      .windows, .compounds, .order, .limit, .offset, .lock]
  | .insert => [.opening, .commonTables, .table, .values, .conflict, .returning]
  | .update => [.opening, .commonTables, .table, .assignments, .conditions, .order, .limit,
      .furtherTables, .returning]
  | .delete => [.opening, .commonTables, .table, .conditions, .order, .limit, .returning]
  | .truncate => [.truncation]

theorem carriedClauses_subset (entries : List (Clause × Bool)) :
    carriedClauses entries ⊆ entries.map Prod.fst :=
  (List.filter_sublist.map Prod.fst).subset

theorem Select.carried_subset_clauses (query : Select) :
    query.carried ⊆ StatementKind.select.clauses :=
  carriedClauses_subset _

namespace Statement

/-- The clauses that a statement carries, required or asked for. -/
def carried : Statement → List Clause
  | .select query => query.carried
  | .insert insertion => insertion.carried
  | .update change => change.carried
  | .delete deletion => deletion.carried
  | .truncate _ => [.truncation]

theorem nodup_carried (statement : Statement) : statement.carried.Nodup := by
  cases statement
  case truncate => simp [carried]
  all_goals
    apply nodup_carriedClauses
    simp

theorem carried_subset_clauses (statement : Statement) :
    statement.carried ⊆ statement.kind.clauses := by
  cases statement
  case truncate => exact List.Subset.refl _
  all_goals exact carriedClauses_subset _

theorem required_subset_carried (statement : Statement) :
    statement.kind.required ⊆ statement.carried := by
  cases statement <;>
    simp [kind, StatementKind.required, carried, Select.carried, Insert.carried, Update.carried,
      Delete.carried, carriedClauses]

/-- Whether a statement names the table that its kind needs; a query needs none. -/
def hasTable : Statement → Bool
  | .select _ => true
  | .insert insertion => insertion.table.isSome
  | .update change => change.table.isSome
  | .delete deletion => deletion.table.isSome
  | .truncate emptying => !emptying.tables.isEmpty

def portion? (statement : Statement) (dialect : NamedDialect) (fragment : Fragment)
    (pending : List Clause) : Option Portion :=
  match statement with
  | .select query => (query.parts dialect).portion? fragment pending
  | .insert insertion =>
      insertion.table.bind fun table => insertion.portion? dialect table fragment pending
  | .update change => change.table.bind fun table => change.portion? dialect table fragment pending
  | .delete deletion =>
      deletion.table.bind fun table => deletion.portion? dialect table fragment pending
  | .truncate emptying => emptying.portion? dialect fragment pending

def clauseDraft (statement : Statement) (dialect : NamedDialect) (clause : Clause) : Draft :=
  match statement with
  | .select query => (query.parts dialect).clauseDraft clause
  | .insert insertion =>
      (insertion.table.map fun table => insertion.clauseDraft dialect table clause).getD []
  | .update change =>
      (change.table.map fun table => change.clauseDraft dialect table clause).getD []
  | .delete deletion =>
      (deletion.table.map fun table => deletion.clauseDraft dialect table clause).getD []
  | .truncate emptying => emptying.clauseDraft dialect clause

section Table

variable {dialect : NamedDialect} {table : Expr}

theorem portion?_insert {insertion : Insert} (named : insertion.table = some table) :
    (insert insertion).portion? dialect = insertion.portion? dialect table := by
  funext fragment pending
  simp [portion?, named]

theorem clauseDraft_insert {insertion : Insert} (named : insertion.table = some table) :
    (insert insertion).clauseDraft dialect = insertion.clauseDraft dialect table := by
  funext clause
  simp [clauseDraft, named]

theorem portion?_update {change : Update} (named : change.table = some table) :
    (update change).portion? dialect = change.portion? dialect table := by
  funext fragment pending
  simp [portion?, named]

theorem clauseDraft_update {change : Update} (named : change.table = some table) :
    (update change).clauseDraft dialect = change.clauseDraft dialect table := by
  funext clause
  simp [clauseDraft, named]

theorem portion?_delete {deletion : Delete} (named : deletion.table = some table) :
    (delete deletion).portion? dialect = deletion.portion? dialect table := by
  funext fragment pending
  simp [portion?, named]

theorem clauseDraft_delete {deletion : Delete} (named : deletion.table = some table) :
    (delete deletion).clauseDraft dialect = deletion.clauseDraft dialect table := by
  funext clause
  simp [clauseDraft, named]

end Table

variable {statement : Statement} (dialect : NamedDialect)

theorem draft_of_no_table (missing : statement.hasTable = false) :
    statement.draft dialect = invalid (.missingTable statement.kind) := by
  cases statement <;> simp_all [hasTable, draft, Insert.draft, Update.draft, Delete.draft,
    Truncate.draft, kind]

/-- What is to be shown of the fragments and the clauses of a statement, kind by kind. -/
theorem portion?_cases
    {motive : Statement → (Fragment → List Clause → Option Portion) → (Clause → Draft) → Prop}
    (ofSelect : ∀ query, motive (select query) (query.parts dialect).portion?
      (query.parts dialect).clauseDraft)
    (ofInsert : ∀ insertion table, insertion.table = some table →
      motive (insert insertion) (insertion.portion? dialect table)
        (insertion.clauseDraft dialect table))
    (ofUpdate : ∀ change table, change.table = some table →
      motive (update change) (change.portion? dialect table) (change.clauseDraft dialect table))
    (ofDelete : ∀ deletion table, deletion.table = some table →
      motive (delete deletion) (deletion.portion? dialect table)
        (deletion.clauseDraft dialect table))
    (ofTruncate : ∀ emptying, emptying.tables.isEmpty = false →
      motive (truncate emptying) (emptying.portion? dialect) (emptying.clauseDraft dialect))
    (named : statement.hasTable) :
    motive statement (statement.portion? dialect) (statement.clauseDraft dialect) := by
  cases statement with
  | select query => exact ofSelect query
  | insert insertion =>
      obtain ⟨table, same⟩ := Option.isSome_iff_exists.mp named
      rw [portion?_insert same, clauseDraft_insert same]
      exact ofInsert insertion table same
  | update change =>
      obtain ⟨table, same⟩ := Option.isSome_iff_exists.mp named
      rw [portion?_update same, clauseDraft_update same]
      exact ofUpdate change table same
  | delete deletion =>
      obtain ⟨table, same⟩ := Option.isSome_iff_exists.mp named
      rw [portion?_delete same, clauseDraft_delete same]
      exact ofDelete deletion table same
  | truncate emptying => exact ofTruncate emptying (by simpa [hasTable] using named)

theorem draft_eq_assemble (named : statement.hasTable) :
    statement.draft dialect =
      assemble dialect.name statement.kind (statement.portion? dialect)
        (dialect.order statement.kind) statement.carried := by
  refine portion?_cases dialect (motive := fun statement portion? _ =>
    statement.draft dialect =
      assemble dialect.name statement.kind portion?
        (dialect.order statement.kind) statement.carried)
    ?_ ?_ ?_ ?_ ?_ named
  · intro query
    exact query.draft_eq_parts dialect
  · intro insertion table same
    simp [draft, Insert.draft, same, kind, carried, Dialect.order]
  · intro change table same
    simp [draft, Update.draft, same, kind, carried, Dialect.order]
  · intro deletion table same
    simp [draft, Delete.draft, same, kind, carried, Dialect.order]
  · intro emptying given
    simp [draft, Truncate.draft, given, kind, carried, Dialect.order]

theorem hasTable_of_clean (clean : (statement.draft dialect).Clean) : statement.hasTable := by
  by_contra missing
  rw [draft_of_no_table dialect (by simpa using missing)] at clean
  simp at clean

theorem orderly (named : statement.hasTable) :
    Orderly statement.kind (leads statement.kind dialect.conventions.furtherTablesInFrom)
      (statement.portion? dialect) := by
  refine portion?_cases dialect (motive := fun statement portion? _ =>
    Orderly statement.kind (leads statement.kind dialect.conventions.furtherTablesInFrom) portion?)
    ?_ ?_ ?_ ?_ ?_ named
  · intro query
    exact (query.parts dialect).orderly dialect.conventions.furtherTablesInFrom
  · intro insertion table _
    exact insertion.orderly dialect table
  · intro change table _
    exact change.orderly dialect table
  · intro deletion table _
    exact deletion.orderly dialect table
  · intro emptying _
    exact emptying.orderly dialect

theorem dealsClauses (named : statement.hasTable) :
    DealsClauses statement.kind statement.carried dialect.conventions.furtherTablesInFrom
      (statement.portion? dialect) := by
  refine portion?_cases dialect (motive := fun statement portion? _ =>
    DealsClauses statement.kind statement.carried dialect.conventions.furtherTablesInFrom portion?)
    ?_ ?_ ?_ ?_ ?_ named
  · intro query
    have offsetCarried : query.offset.isSome = decide (.offset ∈ query.carried) := by
      rw [Bool.eq_iff_iff, decide_eq_true_iff, query.offset_mem_carried]
    show DealsClauses .select (query.parts dialect).carried _ (query.parts dialect).portion?
    exact (query.parts dialect).dealsClauses query.columns_mem_carried offsetCarried _
  · intro insertion table _
    exact insertion.dealsClauses dialect table
  · intro change table _
    exact change.dealsClauses dialect table
  · intro deletion table _
    exact deletion.dealsClauses dialect table
  · intro emptying _
    exact emptying.dealsClauses dialect

theorem conserves_portion? (named : statement.hasTable) :
    ConservesClauses (statement.portion? dialect) (statement.clauseDraft dialect) := by
  refine portion?_cases dialect (motive := fun _ portion? clauseDraft =>
    ConservesClauses portion? clauseDraft) ?_ ?_ ?_ ?_ ?_ named
  · intro query
    exact (query.parts dialect).conserves_portion?
  · intro insertion table _
    exact insertion.conserves_portion? dialect table
  · intro change table _
    exact change.conserves_portion? dialect table
  · intro deletion table _
    exact deletion.conserves_portion? dialect table
  · intro emptying _
    exact emptying.conserves_portion? dialect

theorem faultsOfClauses (named : statement.hasTable) {fragment : Fragment}
    (lenient : fragment ≠ .orderWithOffsetFetch) :
    FaultsOfClauses (statement.portion? dialect) (statement.clauseDraft dialect) fragment := by
  refine portion?_cases dialect (motive := fun _ portion? clauseDraft =>
    FaultsOfClauses portion? clauseDraft fragment) ?_ ?_ ?_ ?_ ?_ named
  · intro query
    exact (query.parts dialect).faultsOfClauses lenient
  · intro insertion table _
    exact insertion.faultsOfClauses dialect table fragment
  · intro change table _
    exact change.faultsOfClauses dialect table fragment
  · intro deletion table _
    exact deletion.faultsOfClauses dialect table fragment
  · intro emptying _
    exact emptying.faultsOfClauses dialect fragment

theorem clean_clauseDraft (clean : (statement.draft dialect).Clean) {clause : Clause}
    (member : clause ∈ statement.carried) : (statement.clauseDraft dialect clause).Clean := by
  have named := hasTable_of_clean dialect clean
  rw [draft_eq_assemble dialect named] at clean
  exact clean_of_assemble (conserves_portion? dialect named) clean member

def isAble (statement : Statement) (dialect : Dialect) :
    List Fragment → Fragment → Clause → Bool :=
  Fragment.isAble statement.kind statement.carried dialect.conventions.furtherTablesInFrom

/-- The fragments of the order, each with the clauses that it is the first to be able to write. -/
def shares (statement : Statement) (dialect : Dialect) : List (Fragment × List Clause) :=
  deal (statement.isAble dialect) [] (dialect.order statement.kind) statement.carried

theorem draft_eq_flatten (clean : (statement.draft dialect).Clean) :
    ∃ drafts : List Draft,
      List.Forall₂ (fun share draft =>
        statement.portion? dialect share.1 share.2 = some ⟨draft, []⟩)
        (statement.shares dialect) drafts ∧
      statement.draft dialect = drafts.flatten ∧
      ((statement.shares dialect).flatMap Prod.snd).Perm statement.carried := by
  have named := hasTable_of_clean dialect clean
  rw [draft_eq_assemble dialect named] at clean ⊢
  exact assemble_eq_flatten_deal (dealsClauses dialect named)
    (remaining_carried statement.nodup_carried) clean

end Statement

end SqlDialects
