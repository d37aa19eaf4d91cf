import SqlDialects.Proofs.Draft.Related

/-!
The drafts of the clauses of a rewritten statement under one dialect are related to those of the
given one under another, and so are the statements that are assembled out of them by the same order.
-/

namespace SqlDialects

open Draft

variable {same : Prop} {first second : NamedDialect} {related : Draft → Draft → Prop}
  {rewriting : Rewriting}

section Checks

variable (rewriting : Rewriting)

@[simp] theorem rowFaults_rewrite (width index : Nat) (rows : List (List Expr)) :
    rowFaults width index (rows.map (rewriteExprs rewriting)) = rowFaults width index rows := by
  induction rows generalizing index with
  | nil => rfl
  | cons row rest ih => simp [rowFaults, ih]

@[simp] theorem recordFaults_rewrite (listed : List String) (index : Nat) (records : List Record) :
    recordFaults listed index (records.map (Record.rewrite rewriting)) =
      recordFaults listed index records := by
  induction records generalizing index with
  | nil => rfl
  | cons record rest ih => simp [recordFaults, ih]

@[simp] theorem Conflict.target_rewrite (conflict : Conflict) :
    (conflict.rewrite rewriting).target = conflict.target := rfl

theorem Conflict.rewrite_eq_skip_iff (conflict : Conflict) :
    conflict.rewrite rewriting = ⟨[], .nothing⟩ ↔ conflict = ⟨[], .nothing⟩ := by
  obtain ⟨target, _ | ⟨assignments, condition⟩⟩ := conflict <;>
    simp [rewrite, ConflictAction.rewrite]

theorem Dialect.ignoresConflict_rewrite (dialect : Dialect) (conflict : Option Conflict) :
    dialect.ignoresConflict (conflict.map (Conflict.rewrite rewriting)) =
      dialect.ignoresConflict conflict := by
  rcases conflict with _ | ⟨_ | ⟨_, _⟩, _ | ⟨_, _⟩⟩ <;> rfl

@[simp] theorem NamedDialect.conflictFaults_rewrite (dialect : NamedDialect) (conflict : Conflict) :
    dialect.conflictFaults (conflict.rewrite rewriting) = dialect.conflictFaults conflict := by
  obtain ⟨target, _ | ⟨assignments, condition⟩⟩ := conflict
  · rfl
  · simp [conflictFaults, Conflict.rewrite, ConflictAction.rewrite]

@[simp] theorem Insert.openingDraft_rewrite (insertion : Insert) (dialect : Dialect) :
    (insertion.rewrite rewriting).openingDraft dialect = insertion.openingDraft dialect := by
  rw [openingDraft, openingDraft, rewrite, dialect.ignoresConflict_rewrite]

theorem Insert.table_rewrite {insertion : Insert} {table : Expr}
    (named : insertion.table = some table) :
    (insertion.rewrite rewriting).table = some (table.rewrite rewriting) := by
  rw [rewrite, named, Option.map_some]

theorem Update.table_rewrite {change : Update} {table : Expr}
    (named : change.table = some table) :
    (change.rewrite rewriting).table = some (table.rewrite rewriting) := by
  rw [rewrite, named, Option.map_some]

theorem Delete.table_rewrite {deletion : Delete} {table : Expr}
    (named : deletion.table = some table) :
    (deletion.rewrite rewriting).table = some (table.rewrite rewriting) := by
  rw [rewrite, named, Option.map_some]

namespace Statement

@[simp] theorem kind_rewrite (statement : Statement) :
    (statement.rewrite rewriting).kind = statement.kind := by
  cases statement <;> rfl

@[simp] theorem hasTable_rewrite (statement : Statement) :
    (statement.rewrite rewriting).hasTable = statement.hasTable := by
  cases statement <;>
    simp [rewrite, hasTable, Insert.rewrite, Update.rewrite, Delete.rewrite, Truncate.rewrite]

@[simp] theorem carried_rewrite (statement : Statement) :
    (statement.rewrite rewriting).carried = statement.carried := by
  cases statement with
  | select query =>
      cases query
      simp [rewrite, carried, Select.rewrite, Select.carried]
  | insert insertion => simp [rewrite, carried, Insert.rewrite, Insert.carried]
  | update change => simp [rewrite, carried, Update.rewrite, Update.carried]
  | delete deletion => simp [rewrite, carried, Delete.rewrite, Delete.carried]
  | truncate emptying => rfl

end Statement

end Checks

section Clauses

variable (relates : rewriting.Relates same first second related)

include relates

theorem Record.alignedDrafts_rewrite (record : Record) (columns : List String) :
    List.Forall₂ related ((record.rewrite rewriting).alignedDrafts first columns)
      (record.alignedDrafts second columns) := by
  refine forall₂_map fun column _ => ?_
  rw [find?_rewrite]
  cases record.find? column with
  | none => exact relates.nil
  | some value => exact value.draft_rewrite relates false

namespace NamedDialect

theorem assignmentsDraft_rewrite (assignments : Record) :
    related (first.assignmentsDraft (assignments.rewrite rewriting))
      (second.assignmentsDraft assignments) := by
  refine relates.append (relates.related_duplicateDraft assignments)
    (relates.related_commaSeparated ?_)
  rw [Record.rewrite, List.map_map]
  exact forall₂_map fun entry _ => relates.append (relates.append
    (relates.related_identifierDraft _) (relates.related_ofText _))
    (entry.2.draft_rewrite relates false)

theorem returningDraft_rewrite (columns : List Expr) :
    related (first.returningDraft (rewriteExprs rewriting columns))
      (second.returningDraft columns) := by
  have keyword : related (ofText first.keywords.returning) (ofText second.keywords.returning) :=
    relates.word fun alike => by rw [(relates.widens alike).keywords]
  exact relates.append (relates.append (relates.related_demand rfl rfl) keyword)
    (relates.related_commaSeparated (expressionDrafts_rewrite relates columns false))

theorem columnListDraft_rewrite (columns : List Expr) :
    related (Draft.columnList (expressionDrafts first false (rewriteExprs rewriting columns)))
      (Draft.columnList (expressionDrafts second false columns)) :=
  relates.related_columnList (expressionDrafts_rewrite relates columns false)

theorem rowsSourceDraft_rewrite (columns : List Expr) (rows : List (List Expr)) :
    related
      (first.rowsSourceDraft (rewriteExprs rewriting columns) (rows.map (rewriteExprs rewriting)))
      (second.rowsSourceDraft columns rows) := by
  simp only [rowsSourceDraft, List.isEmpty_map, length_rewriteExprs, rowFaults_rewrite,
    List.map_map]
  split
  · exact relates.invalid _
  · refine relates.append (relates.append (relates.related_rowFaults _ _ rows)
      (columnListDraft_rewrite relates columns)) (relates.related_tuples ?_)
    exact forall₂_map fun row _ => expressionDrafts_rewrite relates row false

theorem recordsSourceDraft_rewrite (columns : List Expr) (records : List Record) :
    related
      (first.recordsSourceDraft (rewriteExprs rewriting columns)
        (records.map (Record.rewrite rewriting)))
      (second.recordsSourceDraft columns records) := by
  simp only [recordsSourceDraft, isEmpty_rewriteExprs]
  split
  · exact relates.invalid _
  · cases records with
    | nil => exact relates.invalid _
    | cons head rest =>
        simp only [List.map_cons, Record.isEmpty_rewrite, Record.columns_rewrite]
        split
        · exact relates.invalid _
        · have faults := recordFaults_rewrite rewriting head.columns 0 (head :: rest)
          have aligned : List.Forall₂ (List.Forall₂ related)
              (((head :: rest).map (Record.rewrite rewriting)).map fun record =>
                record.alignedDrafts first head.columns)
              ((head :: rest).map fun record => record.alignedDrafts second head.columns) := by
            rw [List.map_map]
            exact forall₂_map fun record _ => record.alignedDrafts_rewrite relates head.columns
          rw [List.map_cons] at faults
          rw [faults]
          exact relates.append (relates.append (relates.related_recordFaults _ _ _)
            (relates.related_columnList (relates.related_nameDrafts _)))
            (relates.related_tuples aligned)

theorem insertSourceDraft_rewrite (columns : List Expr) (source : InsertSource) :
    related
      (first.insertSourceDraft (rewriteExprs rewriting columns) (source.rewrite rewriting))
      (second.insertSourceDraft columns source) := by
  cases source with
  | defaultValues =>
      simp only [InsertSource.rewrite, insertSourceDraft, isEmpty_rewriteExprs]
      split
      · exact relates.word fun alike => by rw [(relates.widens alike).keywords]
      · exact relates.invalid _
  | rows rows => exact rowsSourceDraft_rewrite relates columns rows
  | records records => exact recordsSourceDraft_rewrite relates columns records
  | query query =>
      exact relates.append (relates.append (columnListDraft_rewrite relates columns)
        (relates.related_ofText " ")) (query.draft_rewrite relates)

theorem conflictActionDraft_rewrite (action : ConflictAction) :
    related (first.conflictActionDraft (action.rewrite rewriting))
      (second.conflictActionDraft action) := by
  cases action with
  | nothing => exact relates.word fun alike => by rw [(relates.widens alike).keywords]
  | update assignments condition =>
      refine relates.append (relates.append
        (relates.word fun alike => by rw [(relates.widens alike).keywords])
        (assignmentsDraft_rewrite relates assignments)) ?_
      cases condition with
      | none => exact relates.nil
      | some condition =>
          simp only [Option.map_some, Expr.isEmptyCondition_rewrite]
          split
          · exact relates.nil
          · exact relates.append (relates.related_ofText " WHERE ")
              (condition.draft_rewrite relates false)

/-- Skipping existing rows is a keyword under one dialect and a clause under another, which no
comparison of the parts can tell. -/
theorem conflictDraft_rewrite (conflict : Conflict) :
    related (first.conflictDraft (conflict.rewrite rewriting)) (second.conflictDraft conflict) := by
  by_cases skipped : conflict = ⟨[], .nothing⟩
  · rw [skipped]
    exact relates.skippedConflict
  · have rewritten : conflict.rewrite rewriting ≠ ⟨[], .nothing⟩ := fun skips =>
      skipped ((conflict.rewrite_eq_skip_iff rewriting).mp skips)
    simp only [conflictDraft, Dialect.ignoresConflict_eq_false skipped,
      Dialect.ignoresConflict_eq_false rewritten, Bool.false_eq_true, if_false,
      conflictFaults_rewrite, Conflict.target_rewrite]
    have keyword : related (ofText first.keywords.onConflict) (ofText second.keywords.onConflict) :=
      relates.word fun alike => by rw [(relates.widens alike).keywords]
    exact relates.append (relates.related_conflictFaults conflict)
      (relates.append (relates.append keyword
        (relates.related_columnList (relates.related_nameDrafts _)))
        (conflictActionDraft_rewrite relates conflict.action))

end NamedDialect

theorem asked_rewrite (opening : String) (conditions : List Expr) :
    related
      (ofText opening
        ++ Draft.conditions .and false (conditionItems first (rewriteExprs rewriting conditions)))
      (ofText opening ++ Draft.conditions .and false (conditionItems second conditions)) :=
  relates.related_asked opening (conditionItems_rewrite relates conditions)

theorem order_rewrite (keys : List Expr) :
    related (Draft.order (expressionDrafts first false (rewriteExprs rewriting keys)))
      (Draft.order (expressionDrafts second false keys)) :=
  relates.related_listed " ORDER BY " (expressionDrafts_rewrite relates keys false)

theorem Update.furtherTablesDraft_rewrite (update : Update) (opening : String) :
    related ((update.rewrite rewriting).furtherTablesDraft first opening)
      (update.furtherTablesDraft second opening) :=
  relates.append (relates.append (relates.related_demand rfl rfl) (relates.related_ofText opening))
    (relates.related_commaSeparated (expressionDrafts_rewrite relates update.furtherTables false))

theorem Truncate.wholeDraft_rewrite (truncate : Truncate) :
    related ((truncate.rewrite rewriting).wholeDraft first) (truncate.wholeDraft second) := by
  obtain ⟨tables, restart, scope⟩ := truncate
  have keyword : related (ofText first.keywords.truncate) (ofText second.keywords.truncate) :=
    relates.word fun alike => by rw [(relates.widens alike).keywords]
  refine relates.append (relates.append (relates.append (relates.append keyword
    (relates.related_ofText " ")) (relates.related_commaSeparated
    (expressionDrafts_rewrite relates tables false))) ?_) ?_
  · cases restart with
    | false => exact relates.nil
    | true =>
        exact relates.related_spelling rfl rfl fun alike => (relates.widens alike).restartIdentity
  · rcases scope with _ | _ | _
    · exact relates.nil
    · exact relates.related_spelling rfl rfl fun alike => (relates.widens alike).cascade
    · exact relates.related_spelling rfl rfl fun alike => (relates.widens alike).restrict

theorem Insert.clauseDraft_rewrite {insertion : Insert}
    (opening : related (insertion.openingDraft first) (insertion.openingDraft second))
    (table : Expr) (clause : Clause) :
    related ((insertion.rewrite rewriting).clauseDraft first (table.rewrite rewriting) clause)
      (insertion.clauseDraft second table clause) := by
  cases clause with
  | opening =>
      rw [clauseDraft, openingDraft_rewrite]
      exact opening
  | commonTables => exact insertion.commonTables.draft_rewrite relates
  | table => exact relates.append (relates.related_ofText " ") (table.draft_rewrite relates false)
  | values =>
      exact NamedDialect.insertSourceDraft_rewrite relates insertion.columns insertion.source
  | conflict =>
      simp only [clauseDraft, rewrite]
      cases insertion.conflict with
      | none => exact relates.nil
      | some conflict => exact NamedDialect.conflictDraft_rewrite relates conflict
  | returning => exact NamedDialect.returningDraft_rewrite relates insertion.returning
  | _ => exact relates.nil

theorem Update.clauseDraft_rewrite (change : Update) (table : Expr) (clause : Clause) :
    related ((change.rewrite rewriting).clauseDraft first (table.rewrite rewriting) clause)
      (change.clauseDraft second table clause) := by
  cases clause with
  | opening => exact relates.word fun alike => by rw [(relates.widens alike).keywords]
  | commonTables => exact change.commonTables.draft_rewrite relates
  | table => exact relates.append (relates.related_ofText " ") (table.draft_rewrite relates false)
  | assignments =>
      simp only [clauseDraft, assignmentsDraft, rewrite, Record.isEmpty_rewrite]
      split
      · exact relates.invalid _
      · exact relates.append (relates.related_ofText _)
          (NamedDialect.assignmentsDraft_rewrite relates change.assignments)
  | conditions => exact asked_rewrite relates " WHERE " change.conditions
  | order =>
      exact relates.append (relates.related_demand rfl rfl) (order_rewrite relates change.orderBy)
  | limit => exact relates.append (relates.related_demand rfl rfl) (relates.related_rows _)
  | furtherTables => exact change.furtherTablesDraft_rewrite relates ""
  | returning => exact NamedDialect.returningDraft_rewrite relates change.returning
  | _ => exact relates.nil

theorem Delete.clauseDraft_rewrite (deletion : Delete) (table : Expr) (clause : Clause) :
    related ((deletion.rewrite rewriting).clauseDraft first (table.rewrite rewriting) clause)
      (deletion.clauseDraft second table clause) := by
  cases clause with
  | opening => exact relates.word fun alike => by rw [(relates.widens alike).keywords]
  | commonTables => exact deletion.commonTables.draft_rewrite relates
  | table =>
      exact relates.related_listed " FROM " (.cons (table.draft_rewrite relates false) .nil)
  | conditions => exact asked_rewrite relates " WHERE " deletion.conditions
  | order =>
      exact relates.append (relates.related_demand rfl rfl) (order_rewrite relates deletion.orderBy)
  | limit => exact relates.append (relates.related_demand rfl rfl) (relates.related_rows _)
  | returning => exact NamedDialect.returningDraft_rewrite relates deletion.returning
  | _ => exact relates.nil

theorem Truncate.clauseDraft_rewrite (emptying : Truncate) (clause : Clause) :
    related ((emptying.rewrite rewriting).clauseDraft first clause)
      (emptying.clauseDraft second clause) := by
  cases clause with
  | truncation => exact emptying.wholeDraft_rewrite relates
  | _ => exact relates.nil

/-! ### Fragments -/

theorem Insert.portion?_rewrite {insertion : Insert}
    (opening : related (insertion.openingDraft first) (insertion.openingDraft second))
    (table : Expr) (fragment : Fragment) (pending : List Clause) :
    Option.Rel (Portion.Related related)
      ((insertion.rewrite rewriting).portion? first (table.rewrite rewriting) fragment pending)
      (insertion.portion? second table fragment pending) := by
  have clause := insertion.clauseDraft_rewrite relates opening table
  cases fragment with
  | commonTables => exact .some (relates.related_take (clause .commonTables) _ _)
  | insertOpening => exact .some (relates.related_take (clause .opening) _ _)
  | insertTable => exact .some (relates.related_take (clause .table) _ _)
  | insertValues => exact .some (relates.related_take (clause .values) _ _)
  | conflict => exact .some (relates.related_take (clause .conflict) _ _)
  | returning => exact .some (relates.related_take (clause .returning) _ _)
  | _ => exact .none

theorem Update.portion?_rewrite (change : Update)
    (apart : second.conventions.furtherTablesInFrom = first.conventions.furtherTablesInFrom)
    (table : Expr) (fragment : Fragment) (pending : List Clause) :
    Option.Rel (Portion.Related related)
      ((change.rewrite rewriting).portion? first (table.rewrite rewriting) fragment pending)
      (change.portion? second table fragment pending) := by
  have clause := change.clauseDraft_rewrite relates table
  have limited : related
      (demand first.name first.capabilities.limitOnUpdate .limitOnUpdate ++ ofText " LIMIT "
        ++ Draft.rows change.limit)
      (demand second.name second.capabilities.limitOnUpdate .limitOnUpdate ++ ofText " LIMIT "
        ++ Draft.rows change.limit) :=
    relates.append (relates.append (relates.related_demand rfl rfl) (relates.related_ofText _))
      (relates.related_rows _)
  cases fragment with
  | commonTables => exact .some (relates.related_take (clause .commonTables) _ _)
  | updateOpening => exact .some (relates.related_take (clause .opening) _ _)
  | updateTables =>
      simp only [portion?, tables, apart]
      refine .some ?_
      split
      · split
        · exact ⟨rfl, relates.append (clause .table) (change.furtherTablesDraft_rewrite relates _)⟩
        · exact ⟨rfl, clause .table⟩
      · exact ⟨rfl, relates.nil⟩
  | updateAssignments => exact .some (relates.related_take (clause .assignments) _ _)
  | updateSources =>
      simp only [portion?, apart]
      refine .some ?_
      split
      · exact relates.related_take (change.furtherTablesDraft_rewrite relates _) _ _
      · exact ⟨rfl, relates.nil⟩
  | conditions => exact .some (relates.related_take (clause .conditions) _ _)
  | order => exact .some (relates.related_take (clause .order) _ _)
  | limit => exact .some (relates.related_take limited _ _)
  | returning => exact .some (relates.related_take (clause .returning) _ _)
  | _ => exact .none

theorem Delete.portion?_rewrite (deletion : Delete) (table : Expr) (fragment : Fragment)
    (pending : List Clause) :
    Option.Rel (Portion.Related related)
      ((deletion.rewrite rewriting).portion? first (table.rewrite rewriting) fragment pending)
      (deletion.portion? second table fragment pending) := by
  have clause := deletion.clauseDraft_rewrite relates table
  have limited : related
      (demand first.name first.capabilities.limitOnDelete .limitOnDelete ++ ofText " LIMIT "
        ++ Draft.rows deletion.limit)
      (demand second.name second.capabilities.limitOnDelete .limitOnDelete ++ ofText " LIMIT "
        ++ Draft.rows deletion.limit) :=
    relates.append (relates.append (relates.related_demand rfl rfl) (relates.related_ofText _))
      (relates.related_rows _)
  cases fragment with
  | commonTables => exact .some (relates.related_take (clause .commonTables) _ _)
  | deleteOpening => exact .some (relates.related_take (clause .opening) _ _)
  | sources => exact .some (relates.related_take (clause .table) _ _)
  | conditions => exact .some (relates.related_take (clause .conditions) _ _)
  | order => exact .some (relates.related_take (clause .order) _ _)
  | limit => exact .some (relates.related_take limited _ _)
  | returning => exact .some (relates.related_take (clause .returning) _ _)
  | _ => exact .none

theorem Truncate.portion?_rewrite (emptying : Truncate) (fragment : Fragment)
    (pending : List Clause) :
    Option.Rel (Portion.Related related)
      ((emptying.rewrite rewriting).portion? first fragment pending)
      (emptying.portion? second fragment pending) := by
  cases fragment with
  | truncation =>
      exact .some (relates.related_take (emptying.wholeDraft_rewrite relates) _ _)
  | _ => exact .none

namespace Statement

theorem clauseDraft_rewrite (statement : Statement)
    (opening : ∀ insertion, statement = insert insertion →
      related (insertion.openingDraft first) (insertion.openingDraft second))
    (clause : Clause) :
    related ((statement.rewrite rewriting).clauseDraft first clause)
      (statement.clauseDraft second clause) := by
  cases statement with
  | select query => exact (query.parts_rewrite relates).clauseDraft relates.toCongruent clause
  | insert insertion =>
      cases named : insertion.table with
      | none =>
          simp only [rewrite, Insert.rewrite, clauseDraft, named, Option.map_none]
          exact relates.nil
      | some table =>
          rw [rewrite, clauseDraft_insert (Insert.table_rewrite _ named), clauseDraft_insert named]
          exact insertion.clauseDraft_rewrite relates (opening insertion rfl) table clause
  | update change =>
      cases named : change.table with
      | none =>
          simp only [rewrite, Update.rewrite, clauseDraft, named, Option.map_none]
          exact relates.nil
      | some table =>
          rw [rewrite, clauseDraft_update (Update.table_rewrite _ named), clauseDraft_update named]
          exact change.clauseDraft_rewrite relates table clause
  | delete deletion =>
      cases named : deletion.table with
      | none =>
          simp only [rewrite, Delete.rewrite, clauseDraft, named, Option.map_none]
          exact relates.nil
      | some table =>
          rw [rewrite, clauseDraft_delete (Delete.table_rewrite _ named), clauseDraft_delete named]
          exact deletion.clauseDraft_rewrite relates table clause
  | truncate emptying => exact emptying.clauseDraft_rewrite relates clause

/-- What two dialects write of a statement is related fragment by fragment, if they have the
further tables of an update in the same place and open an insertion alike. -/
theorem portion?_rewrite (statement : Statement)
    (apart : second.conventions.furtherTablesInFrom = first.conventions.furtherTablesInFrom)
    (opening : ∀ insertion, statement = insert insertion →
      related (insertion.openingDraft first) (insertion.openingDraft second))
    (fragment : Fragment) (pending : List Clause) :
    Option.Rel (Portion.Related related)
      ((statement.rewrite rewriting).portion? first fragment pending)
      (statement.portion? second fragment pending) := by
  cases statement with
  | select query => exact relates.related_portion? (query.parts_rewrite relates) fragment pending
  | insert insertion =>
      cases named : insertion.table with
      | none =>
          simp only [rewrite, Insert.rewrite, portion?, named, Option.map_none, Option.bind_none]
          exact .none
      | some table =>
          rw [rewrite, portion?_insert (Insert.table_rewrite _ named), portion?_insert named]
          exact insertion.portion?_rewrite relates (opening insertion rfl) table fragment pending
  | update change =>
      cases named : change.table with
      | none =>
          simp only [rewrite, Update.rewrite, portion?, named, Option.map_none, Option.bind_none]
          exact .none
      | some table =>
          rw [rewrite, portion?_update (Update.table_rewrite _ named), portion?_update named]
          exact change.portion?_rewrite relates apart table fragment pending
  | delete deletion =>
      cases named : deletion.table with
      | none =>
          simp only [rewrite, Delete.rewrite, portion?, named, Option.map_none, Option.bind_none]
          exact .none
      | some table =>
          rw [rewrite, portion?_delete (Delete.table_rewrite _ named), portion?_delete named]
          exact deletion.portion?_rewrite relates table fragment pending
  | truncate emptying => exact emptying.portion?_rewrite relates fragment pending

theorem draft_rewrite (statement : Statement)
    (misconfigured : ∀ cause,
      related (Draft.misconfigured first.name cause) (Draft.misconfigured second.name cause))
    (unsupported : ∀ feature,
      related (Draft.unsupported first.name feature) (Draft.unsupported second.name feature))
    (orders : second.orders = first.orders)
    (apart : second.conventions.furtherTablesInFrom = first.conventions.furtherTablesInFrom)
    (opening : ∀ insertion, statement = insert insertion →
      related (insertion.openingDraft first) (insertion.openingDraft second)) :
    related ((statement.rewrite rewriting).draft first) (statement.draft second) := by
  have sameOrder : second.order statement.kind = first.order statement.kind := by
    unfold Dialect.order
    rw [orders]
  have sameTable : (statement.rewrite rewriting).hasTable = statement.hasTable :=
    statement.hasTable_rewrite rewriting
  cases named : statement.hasTable with
  | false =>
      rw [draft_of_no_table first (sameTable.trans named), draft_of_no_table second named,
        kind_rewrite]
      exact relates.invalid _
  | true =>
      rw [draft_eq_assemble first (sameTable.trans named), draft_eq_assemble second named,
        kind_rewrite, carried_rewrite, sameOrder]
      exact relates.related_assemble misconfigured unsupported
        (statement.portion?_rewrite relates apart opening) _ _

end Statement

end Clauses

/-! ### Two dialects and one statement -/

namespace Statement

variable (relates : first.Relates same second related)
  (literal : ∀ value : Value, value.isBindable →
    related [.value .literal value] [.value .literal value])

include relates literal

theorem clauseDraft_related (statement : Statement)
    (opening : ∀ insertion, statement = insert insertion →
      related (insertion.openingDraft first) (insertion.openingDraft second))
    (clause : Clause) :
    related (statement.clauseDraft first clause) (statement.clauseDraft second clause) := by
  have kept := statement.clauseDraft_rewrite (relates.keep literal) opening clause
  rwa [statement.rewrite_keep] at kept

theorem portion?_related (statement : Statement)
    (apart : second.conventions.furtherTablesInFrom = first.conventions.furtherTablesInFrom)
    (opening : ∀ insertion, statement = insert insertion →
      related (insertion.openingDraft first) (insertion.openingDraft second))
    (fragment : Fragment) (pending : List Clause) :
    Option.Rel (Portion.Related related) (statement.portion? first fragment pending)
      (statement.portion? second fragment pending) := by
  have kept :=
    statement.portion?_rewrite (relates.keep literal) apart opening fragment pending
  rwa [statement.rewrite_keep] at kept

theorem draft_related (statement : Statement)
    (misconfigured : ∀ cause,
      related (Draft.misconfigured first.name cause) (Draft.misconfigured second.name cause))
    (unsupported : ∀ feature,
      related (Draft.unsupported first.name feature) (Draft.unsupported second.name feature))
    (orders : second.orders = first.orders)
    (apart : second.conventions.furtherTablesInFrom = first.conventions.furtherTablesInFrom)
    (opening : ∀ insertion, statement = insert insertion →
      related (insertion.openingDraft first) (insertion.openingDraft second)) :
    related (statement.draft first) (statement.draft second) := by
  have kept := statement.draft_rewrite (relates.keep literal) misconfigured unsupported orders
    apart opening
  rwa [statement.rewrite_keep] at kept

end Statement

end SqlDialects
