import SqlDialects.Dialect.Bundled
import SqlDialects.Proofs.Draft.Bound
import SqlDialects.Proofs.Outcome
import SqlDialects.Proofs.Records

/-!
The arguments of a prepared statement are what the statement has to bind, each literal as often as
it stands there. Only the places of the arguments depend on the dialect.
-/

namespace SqlDialects

open Draft

variable {dialect : NamedDialect}

theorem values_exprs {exprs : List Expr} {nested : Bool}
    (clean : ∀ draft ∈ expressionDrafts dialect nested exprs, draft.Clean) :
    ((expressionDrafts dialect nested exprs).flatMap values).Perm
      (bindableExprs dialect.bindsBooleanTests exprs) :=
  values_expressionDrafts (bound_of_mem exprs) clean

theorem values_order {exprs : List Expr}
    (clean : (Draft.order (expressionDrafts dialect false exprs)).Clean) :
    (Draft.order (expressionDrafts dialect false exprs)).values.Perm
      (bindableExprs dialect.bindsBooleanTests exprs) := by
  simp only [Draft.order, clean_append, clean_commaSeparated] at clean
  simpa [Draft.order] using values_exprs clean.2

theorem values_where {exprs : List Expr}
    (clean : (whereClause (conditionItems dialect exprs)).Clean) :
    (whereClause (conditionItems dialect exprs)).values.Perm
      (bindableExprs dialect.bindsBooleanTests exprs) := by
  simp only [whereClause, clean_append] at clean
  simpa [whereClause] using values_conditionItems (bound_of_mem exprs) clean.2

theorem values_returning {exprs : List Expr} (clean : (dialect.returningDraft exprs).Clean) :
    (dialect.returningDraft exprs).values.Perm
      (bindableExprs dialect.bindsBooleanTests exprs) := by
  simp only [NamedDialect.returningDraft, clean_append, clean_commaSeparated] at clean
  simpa [NamedDialect.returningDraft] using values_exprs clean.2

namespace Record

theorem values_entries (record : Record)
    (clean : ∀ entry ∈ record.entries, (entry.2.draft dialect false).Clean) :
    (record.entries.flatMap fun entry => (entry.2.draft dialect false).values).Perm
      (record.bindable dialect.bindsBooleanTests) :=
  flatMap_values (fun entry _ => entry.2.bound false) clean

theorem values_alignedDrafts {record : Record} {columns : List String}
    (fits : record.sets columns) (nodup : columns.Nodup)
    (clean : ∀ cell ∈ record.alignedDrafts dialect columns, cell.Clean) :
    ((record.alignedDrafts dialect columns).flatMap values).Perm
      (record.bindable dialect.bindsBooleanTests) := by
  have aligned := record.alignedDrafts_perm dialect fits nodup
  refine (aligned.flatMap_right values).trans ?_
  rw [List.flatMap_map]
  apply record.values_entries
  intro entry member
  exact clean _ (aligned.mem_iff.mpr (List.mem_map_of_mem member))

@[simp] theorem values_duplicateDraft (record : Record) : record.duplicateDraft.values = [] := by
  unfold duplicateDraft
  split <;> rfl

end Record

theorem values_assignmentsDraft {assignments : Record}
    (clean : (dialect.assignmentsDraft assignments).Clean) :
    (dialect.assignmentsDraft assignments).values.Perm
      (assignments.bindable dialect.bindsBooleanTests) := by
  simp only [NamedDialect.assignmentsDraft, clean_append, clean_commaSeparated, List.forall_mem_map]
    at clean
  simpa [NamedDialect.assignmentsDraft, List.flatMap_map] using
    assignments.values_entries fun entry member => (clean.2 entry member).2

theorem values_tuples_of_rows {α : Type} {rows : List α} {cells : α → List Draft}
    {bound : α → List Value}
    (each : ∀ row ∈ rows, (∀ cell ∈ cells row, cell.Clean) →
      ((cells row).flatMap values).Perm (bound row))
    (clean : (tuples (rows.map cells)).Clean) :
    (tuples (rows.map cells)).values.Perm (rows.flatMap bound) := by
  rw [clean_tuples, List.forall_mem_map] at clean
  rw [values_tuples, List.flatMap_map]
  apply List.Perm.flatMap_left
  intro row member
  exact each row member (clean row member)

theorem values_rowsSourceDraft {columns : List Expr} {rows : List (List Expr)}
    (clean : (dialect.rowsSourceDraft columns rows).Clean) :
    (dialect.rowsSourceDraft columns rows).values.Perm
      (bindableExprs dialect.bindsBooleanTests columns ++
        rows.flatMap (bindableExprs dialect.bindsBooleanTests)) := by
  unfold NamedDialect.rowsSourceDraft at clean ⊢
  cases empty : rows.isEmpty with
  | true => simp [empty] at clean
  | false =>
      simp only [empty, Bool.false_eq_true, if_false, clean_append, clean_columnList] at clean ⊢
      have cells := values_tuples_of_rows (fun _ _ rowClean => values_exprs rowClean) clean.2
      simpa using (values_exprs clean.1.2).append cells

theorem values_recordsSourceDraft {columns : List Expr} {records : List Record}
    (clean : (dialect.recordsSourceDraft columns records).Clean) :
    (dialect.recordsSourceDraft columns records).values.Perm
      (bindableExprs dialect.bindsBooleanTests columns ++
        records.flatMap (Record.bindable dialect.bindsBooleanTests)) := by
  unfold NamedDialect.recordsSourceDraft at clean ⊢
  cases columns with
  | cons column others => simp at clean
  | nil =>
      cases records with
      | nil => simp at clean
      | cons first rest =>
          cases empty : first.isEmpty with
          | true => simp [empty] at clean
          | false =>
              simp only [List.isEmpty_nil, Bool.not_true, empty, Bool.false_eq_true, if_false,
                clean_append] at clean ⊢
              have fits := clean_recordFaults clean.1.1
              have cells := values_tuples_of_rows
                (fun record member => Record.values_alignedDrafts (fits record member).2
                  first.columns_nodup) clean.2
              simpa [bindableExprs] using cells

theorem values_insertSourceDraft {columns : List Expr} {source : InsertSource}
    (clean : (dialect.insertSourceDraft columns source).Clean) :
    (dialect.insertSourceDraft columns source).values.Perm
      (bindableExprs dialect.bindsBooleanTests columns ++
        source.bindable dialect.bindsBooleanTests) := by
  cases source with
  | defaultValues =>
      cases columns with
      | nil => simp [NamedDialect.insertSourceDraft, bindableExprs, InsertSource.bindable]
      | cons column others => simp [NamedDialect.insertSourceDraft] at clean
  | rows cells => exact values_rowsSourceDraft clean
  | records given => exact values_recordsSourceDraft clean
  | query query =>
      simp only [NamedDialect.insertSourceDraft, clean_append, clean_columnList] at clean
      simpa [NamedDialect.insertSourceDraft, InsertSource.bindable] using
        (values_exprs clean.1.1).append (query.bound clean.2)

@[simp] theorem values_conflictFaults (conflict : Conflict) :
    (dialect.conflictFaults conflict).values = [] := by
  rcases conflict with ⟨target, _ | ⟨assignments, condition⟩⟩ <;>
    simp [NamedDialect.conflictFaults, apply_ite Draft.values]

theorem values_conflictActionDraft {action : ConflictAction} (target : List String)
    (clean : (dialect.conflictActionDraft action).Clean) :
    (dialect.conflictActionDraft action).values.Perm
      (Conflict.bindable dialect.bindsBooleanTests ⟨target, action⟩) := by
  cases action with
  | nothing => simp [NamedDialect.conflictActionDraft, Conflict.bindable]
  | update assignments condition =>
      simp only [NamedDialect.conflictActionDraft, clean_append] at clean
      have assigned := values_assignmentsDraft clean.1.2
      cases condition with
      | none =>
          simpa [NamedDialect.conflictActionDraft, Conflict.bindable, bindableOption] using assigned
      | some condition =>
          cases empty : condition.isEmptyCondition with
          | true =>
              have none := condition.bindable_of_isEmptyCondition dialect.bindsBooleanTests empty
              simpa [NamedDialect.conflictActionDraft, Conflict.bindable,
                bindableOption, empty, none]
                using assigned
          | false =>
              simp only [empty, Bool.false_eq_true, if_false, clean_append] at clean
              simpa [NamedDialect.conflictActionDraft, Conflict.bindable,
                bindableOption, empty] using
                assigned.append (condition.bound false clean.2.2)

theorem values_conflictDraft {conflict : Conflict}
    (clean : (dialect.conflictDraft conflict).Clean) :
    (dialect.conflictDraft conflict).values.Perm
      (conflict.bindable dialect.bindsBooleanTests) := by
  obtain ⟨target, action⟩ := conflict
  cases ignored : dialect.ignoresConflict (some ⟨target, action⟩) with
  | true =>
      have none : Conflict.bindable dialect.bindsBooleanTests ⟨target, action⟩ = [] := by
        unfold Dialect.ignoresConflict at ignored
        split at ignored
        · next same =>
          cases same
          rfl
        · simp at ignored
      simp [NamedDialect.conflictDraft, ignored, none]
  | false =>
      simp only [NamedDialect.conflictDraft, ignored, Bool.false_eq_true, if_false, clean_append]
        at clean
      simpa [NamedDialect.conflictDraft, ignored] using
        values_conflictActionDraft target clean.2.2

namespace Insert

def clauseBindable (bindsTests : Bool) (insert : Insert) : Clause → List Value
  | .commonTables => insert.commonTables.bindable bindsTests
  | .table => bindableOption (Expr.bindable bindsTests) insert.table
  | .values => bindableExprs bindsTests insert.columns ++ insert.source.bindable bindsTests
  | .conflict => bindableOption (Conflict.bindable bindsTests) insert.conflict
  | .returning => bindableExprs bindsTests insert.returning
  | _ => []

theorem bindable_eq_flatMap_carried (bindsTests : Bool) (insert : Insert) :
    insert.bindable bindsTests = insert.carried.flatMap (insert.clauseBindable bindsTests) := by
  unfold carried
  rw [flatMap_carriedClauses]
  · simp [bindable, clauseBindable]
  · simp +contextual [clauseBindable, bindableExprs, bindableOption,
      CommonTables.bindable_of_isEmpty]

theorem bound {insert : Insert} (clean : (insert.draft dialect).Clean) :
    (insert.draft dialect).values.Perm (insert.bindable dialect.bindsBooleanTests) := by
  unfold draft at clean ⊢
  cases target : insert.table with
  | none => simp [target] at clean
  | some table =>
      simp only [target] at clean ⊢
      rw [bindable_eq_flatMap_carried]
      refine values_assemble (insert.conserves_portion? dialect table) ?_ clean
      intro clause clauseClean
      cases clause
      case commonTables => exact insert.commonTables.bound clauseClean
      case table =>
        simp only [clauseDraft, clean_append] at clauseClean
        simpa [clauseDraft, clauseBindable, bindableOption, target] using
          table.bound false clauseClean.2
      case values => exact values_insertSourceDraft clauseClean
      case conflict =>
        cases asked : insert.conflict with
        | none => simp [clauseDraft, clauseBindable, bindableOption, asked]
        | some conflict =>
            simp only [clauseDraft, asked, Option.map_some, Option.getD_some] at clauseClean
            simpa [clauseDraft, clauseBindable, bindableOption, asked] using
              values_conflictDraft clauseClean
      case returning => exact values_returning clauseClean
      all_goals simp [clauseDraft, clauseBindable, openingDraft]

end Insert

namespace Update

def clauseBindable (bindsTests : Bool) (update : Update) : Clause → List Value
  | .commonTables => update.commonTables.bindable bindsTests
  | .table => bindableOption (Expr.bindable bindsTests) update.table
  | .assignments => update.assignments.bindable bindsTests
  | .conditions => bindableExprs bindsTests update.conditions
  | .order => bindableExprs bindsTests update.orderBy
  | .limit => boundRows update.limit
  | .furtherTables => bindableExprs bindsTests update.furtherTables
  | .returning => bindableExprs bindsTests update.returning
  | _ => []

theorem bindable_eq_flatMap_carried (bindsTests : Bool) (update : Update) :
    update.bindable bindsTests = update.carried.flatMap (update.clauseBindable bindsTests) := by
  unfold carried
  rw [flatMap_carriedClauses]
  · simp [bindable, clauseBindable]
  · simp +contextual [clauseBindable, bindableExprs, boundRows, CommonTables.bindable_of_isEmpty,
      bindableExprs_of_allEmptyConditions]

theorem bound {update : Update} (clean : (update.draft dialect).Clean) :
    (update.draft dialect).values.Perm (update.bindable dialect.bindsBooleanTests) := by
  unfold draft at clean ⊢
  cases target : update.table with
  | none => simp [target] at clean
  | some table =>
      simp only [target] at clean ⊢
      rw [bindable_eq_flatMap_carried]
      refine values_assemble (update.conserves_portion? dialect table) ?_ clean
      intro clause clauseClean
      cases clause
      case commonTables => exact update.commonTables.bound clauseClean
      case table =>
        simp only [clauseDraft, tableDraft, clean_append] at clauseClean
        simpa [clauseDraft, tableDraft, clauseBindable, bindableOption, target] using
          table.bound false clauseClean.2
      case assignments =>
        simp only [clauseDraft, assignmentsDraft] at clauseClean ⊢
        cases empty : update.assignments.isEmpty with
        | true => simp [empty] at clauseClean
        | false =>
            simp only [empty, Bool.false_eq_true, if_false, clean_append] at clauseClean
            simpa [clauseBindable] using values_assignmentsDraft clauseClean.2
      case conditions => exact values_where clauseClean
      case order =>
        simp only [clauseDraft, clean_append] at clauseClean
        simpa [clauseDraft, clauseBindable] using values_order clauseClean.2
      case limit =>
        simp only [clauseDraft, clean_append] at clauseClean
        simp [clauseDraft, clauseBindable, values_rows clauseClean.2]
      case furtherTables =>
        simp only [clauseDraft, furtherTablesDraft, clean_append, clean_commaSeparated]
          at clauseClean
        simpa [clauseDraft, furtherTablesDraft, clauseBindable] using values_exprs clauseClean.2
      case returning => exact values_returning clauseClean
      all_goals simp [clauseDraft, clauseBindable]

end Update

namespace Delete

def clauseBindable (bindsTests : Bool) (delete : Delete) : Clause → List Value
  | .commonTables => delete.commonTables.bindable bindsTests
  | .table => bindableOption (Expr.bindable bindsTests) delete.table
  | .conditions => bindableExprs bindsTests delete.conditions
  | .order => bindableExprs bindsTests delete.orderBy
  | .limit => boundRows delete.limit
  | .returning => bindableExprs bindsTests delete.returning
  | _ => []

theorem bindable_eq_flatMap_carried (bindsTests : Bool) (delete : Delete) :
    delete.bindable bindsTests = delete.carried.flatMap (delete.clauseBindable bindsTests) := by
  unfold carried
  rw [flatMap_carriedClauses]
  · simp [bindable, clauseBindable]
  · simp +contextual [clauseBindable, bindableExprs, boundRows, CommonTables.bindable_of_isEmpty,
      bindableExprs_of_allEmptyConditions]

theorem bound {delete : Delete} (clean : (delete.draft dialect).Clean) :
    (delete.draft dialect).values.Perm (delete.bindable dialect.bindsBooleanTests) := by
  unfold draft at clean ⊢
  cases target : delete.table with
  | none => simp [target] at clean
  | some table =>
      simp only [target] at clean ⊢
      rw [bindable_eq_flatMap_carried]
      refine values_assemble (delete.conserves_portion? dialect table) ?_ clean
      intro clause clauseClean
      cases clause
      case commonTables => exact delete.commonTables.bound clauseClean
      case table =>
        simp only [clauseDraft, Draft.sources, clean_append, clean_commaSeparated,
          List.mem_singleton, forall_eq] at clauseClean
        simpa [clauseDraft, Draft.sources, clauseBindable, bindableOption, target] using
          table.bound false clauseClean.2
      case conditions => exact values_where clauseClean
      case order =>
        simp only [clauseDraft, clean_append] at clauseClean
        simpa [clauseDraft, clauseBindable] using values_order clauseClean.2
      case limit =>
        simp only [clauseDraft, clean_append] at clauseClean
        simp [clauseDraft, clauseBindable, values_rows clauseClean.2]
      case returning => exact values_returning clauseClean
      all_goals simp [clauseDraft, clauseBindable]

end Delete

namespace Truncate

def clauseBindable (bindsTests : Bool) (truncate : Truncate) : Clause → List Value
  | .truncation => bindableExprs bindsTests truncate.tables
  | _ => []

theorem bindable_eq_flatMap (bindsTests : Bool) (truncate : Truncate) :
    truncate.bindable bindsTests =
      [Clause.truncation].flatMap (truncate.clauseBindable bindsTests) := by
  simp [bindable, clauseBindable]

theorem bound {truncate : Truncate} (clean : (truncate.draft dialect).Clean) :
    (truncate.draft dialect).values.Perm (truncate.bindable dialect.bindsBooleanTests) := by
  have scopeSilent : (scopeDraft dialect truncate.scope).values = [] := by
    rcases truncate.scope with _ | _ | _ <;> simp [scopeDraft]
  have restartSilent : Draft.values (if truncate.restartIdentity then
      spelling dialect.name .restartIdentity dialect.keywords.restartIdentity else []) = [] := by
    split <;> simp
  unfold draft at clean ⊢
  cases empty : truncate.tables.isEmpty with
  | true => simp [empty] at clean
  | false =>
      simp only [empty, Bool.false_eq_true, if_false] at clean ⊢
      rw [bindable_eq_flatMap]
      refine values_assemble (truncate.conserves_portion? dialect) ?_ clean
      intro clause clauseClean
      cases clause
      case truncation =>
        simp only [clauseDraft, wholeDraft, clean_append, clean_commaSeparated] at clauseClean
        simpa [clauseDraft, wholeDraft, clauseBindable, scopeSilent, restartSilent] using
          values_exprs clauseClean.1.1.2
      all_goals simp [clauseDraft, clauseBindable]

end Truncate

theorem Statement.bound {statement : Statement} (clean : (statement.draft dialect).Clean) :
    (statement.draft dialect).values.Perm (statement.bindable dialect.bindsBooleanTests) := by
  cases statement with
  | select query => exact query.bound clean
  | insert insertion => exact Insert.bound clean
  | update change => exact Update.bound clean
  | delete deletion => exact Delete.bound clean
  | truncate truncation => exact Truncate.bound clean

theorem BundledDialect.bindsBooleanTests_eq_false (bundled : BundledDialect) :
    bundled.dialect.bindsBooleanTests = false := by
  cases bundled <;> rfl

/-- The arguments are what there is to bind, each literal as often as it stands in the statement.
So the bundled dialects that compile a statement bind the same values. -/
theorem arguments_perm_bindable (statement : Statement) :
    (∀ name dialect compiled, compile statement name dialect .prepared = .ok compiled →
      compiled.arguments.Perm (statement.bindable dialect.bindsBooleanTests)) ∧
    (∀ first second : BundledDialect, ∀ firstCompiled secondCompiled,
      compile statement first.name first.dialect .prepared = .ok firstCompiled →
      compile statement second.name second.dialect .prepared = .ok secondCompiled →
      firstCompiled.arguments.Perm secondCompiled.arguments) := by
  have bound : ∀ name dialect compiled,
      compile statement name dialect .prepared = .ok compiled →
        compiled.arguments.Perm (statement.bindable dialect.bindsBooleanTests) := by
    intro name dialect compiled done
    obtain ⟨clean, rfl⟩ := compile_prepared_eq_ok_iff.mp done
    exact Statement.bound clean
  refine ⟨bound, ?_⟩
  intro first second firstCompiled secondCompiled firstDone secondDone
  have firstBound := bound _ _ _ firstDone
  have secondBound := bound _ _ _ secondDone
  rw [first.bindsBooleanTests_eq_false] at firstBound
  rw [second.bindsBooleanTests_eq_false] at secondBound
  exact firstBound.trans secondBound.symm

end SqlDialects
