import SqlDialects.Proofs.Draft.Written
import SqlDialects.Proofs.Inside

/-!
The clauses of a statement with a clean draft, and that all of the statement is written.
-/

namespace SqlDialects

open Draft

variable {dialect : NamedDialect}

theorem written_of_whereClause {exprs : List Expr}
    (clean : allEmptyConditions exprs = false →
      (whereClause (conditionItems dialect exprs)).Clean) :
    ∀ expr ∈ exprs, Subterm.Written dialect (.expr expr) := by
  cases asking : allEmptyConditions exprs with
  | false =>
      have clause := clean asking
      exact fun expr member => Subterm.written_of_within clause
        (within_of_items clause (within_append (List.infix_refl _)).2 expr member)
  | true =>
      rw [allEmptyConditions_eq_all, List.all_eq_true] at asking
      exact fun expr member => .inl (asking expr member)

structure Insert.Drafted (dialect : NamedDialect) (insert : Insert) : Prop where
  commonTables : insert.commonTables.isEmpty = false → (insert.commonTables.draft dialect).Clean
  table : ∀ expr ∈ insert.table, (expr.draft dialect false).Clean
  source : (dialect.insertSourceDraft insert.columns insert.source).Clean
  conflict : ∀ conflict ∈ insert.conflict, (dialect.conflictDraft conflict).Clean
  returning : insert.returning.isEmpty = false → (dialect.returningDraft insert.returning).Clean

structure Update.Drafted (dialect : NamedDialect) (update : Update) : Prop where
  commonTables : update.commonTables.isEmpty = false → (update.commonTables.draft dialect).Clean
  table : ∀ expr ∈ update.table, (expr.draft dialect false).Clean
  assignments : (dialect.assignmentsDraft update.assignments).Clean
  furtherTables : update.furtherTables.isEmpty = false →
    (update.furtherTablesDraft dialect "").Clean
  conditions : ∀ expr ∈ update.conditions, Subterm.Written dialect (.expr expr)
  orderBy : update.orderBy.isEmpty = false →
    dialect.capabilities.orderOnUpdate = true ∧
      ∀ key ∈ expressionDrafts dialect false update.orderBy, key.Clean
  limit : update.limit.isSome → dialect.capabilities.limitOnUpdate = true
  returning : update.returning.isEmpty = false → (dialect.returningDraft update.returning).Clean

structure Delete.Drafted (dialect : NamedDialect) (delete : Delete) : Prop where
  commonTables : delete.commonTables.isEmpty = false → (delete.commonTables.draft dialect).Clean
  table : ∀ expr ∈ delete.table, (expr.draft dialect false).Clean
  conditions : ∀ expr ∈ delete.conditions, Subterm.Written dialect (.expr expr)
  orderBy : delete.orderBy.isEmpty = false →
    dialect.capabilities.orderOnDelete = true ∧
      ∀ key ∈ expressionDrafts dialect false delete.orderBy, key.Clean
  limit : delete.limit.isSome → dialect.capabilities.limitOnDelete = true
  returning : delete.returning.isEmpty = false → (dialect.returningDraft delete.returning).Clean

theorem Insert.drafted {insert : Insert} (clean : (insert.draft dialect).Clean) :
    insert.Drafted dialect := by
  unfold draft at clean
  cases target : insert.table with
  | none => simp [target] at clean
  | some table =>
      simp only [target] at clean
      have part : ∀ clause ∈ insert.carried, (insert.clauseDraft dialect table clause).Clean :=
        fun clause => clean_of_assemble (insert.conserves_portion? dialect table) clean
      have tableClean := part .table (by simp [carried])
      simp only [clauseDraft, clean_append, clean_ofText, true_and] at tableClean
      exact
        { commonTables := fun given => part .commonTables (by simp [carried, given])
          table := by simpa [target] using tableClean
          source := part .values (by simp [carried])
          conflict := fun conflict given => by
            have asked : insert.conflict = some conflict := given
            simpa [clauseDraft, asked] using part .conflict (by simp [carried, asked])
          returning := fun given => part .returning (by simp [carried, given]) }

theorem Update.drafted {update : Update} (clean : (update.draft dialect).Clean) :
    update.Drafted dialect := by
  unfold draft at clean
  cases target : update.table with
  | none => simp [target] at clean
  | some table =>
      simp only [target] at clean
      have part : ∀ clause ∈ update.carried, (update.clauseDraft dialect table clause).Clean :=
        fun clause => clean_of_assemble (update.conserves_portion? dialect table) clean
      have tableClean := part .table (by simp [carried])
      have assigned := part .assignments (by simp [carried])
      simp only [clauseDraft, tableDraft, assignmentsDraft, clean_append, clean_ofText, true_and]
        at tableClean assigned
      exact
        { commonTables := fun given => part .commonTables (by simp [carried, given])
          table := by simpa [target] using tableClean
          assignments := by
            split at assigned
            · simp at assigned
            · simpa using assigned
          furtherTables := fun given => part .furtherTables (by simp [carried, given])
          conditions := written_of_whereClause fun asking =>
            part .conditions (by simp [carried, asking])
          orderBy := fun given => by
            simpa [clauseDraft] using part .order (by simp [carried, given])
          limit := fun given => by
            have limited := part .limit (by simp [carried, given])
            simp only [clauseDraft, clean_append, clean_demand] at limited
            exact limited.1
          returning := fun given => part .returning (by simp [carried, given]) }

theorem Delete.drafted {delete : Delete} (clean : (delete.draft dialect).Clean) :
    delete.Drafted dialect := by
  unfold draft at clean
  cases target : delete.table with
  | none => simp [target] at clean
  | some table =>
      simp only [target] at clean
      have part : ∀ clause ∈ delete.carried, (delete.clauseDraft dialect table clause).Clean :=
        fun clause => clean_of_assemble (delete.conserves_portion? dialect table) clean
      have tableClean := part .table (by simp [carried])
      simp only [clauseDraft, clean_sources, List.mem_singleton, forall_eq] at tableClean
      exact
        { commonTables := fun given => part .commonTables (by simp [carried, given])
          table := by simpa [target] using tableClean
          conditions := written_of_whereClause fun asking =>
            part .conditions (by simp [carried, asking])
          orderBy := fun given => by
            simpa [clauseDraft] using part .order (by simp [carried, given])
          limit := fun given => by
            have limited := part .limit (by simp [carried, given])
            simp only [clauseDraft, clean_append, clean_demand] at limited
            exact limited.1
          returning := fun given => part .returning (by simp [carried, given]) }

theorem Truncate.clean_wholeDraft {truncate : Truncate} (clean : (truncate.draft dialect).Clean) :
    (truncate.wholeDraft dialect).Clean := by
  unfold draft at clean
  split at clean
  · simp at clean
  · exact clean_of_assemble (truncate.conserves_portion? dialect) clean (List.mem_singleton.mpr rfl)

/-- Everything that a statement with a clean draft is made of is written. -/
theorem Statement.allWritten {statement : Statement} (clean : (statement.draft dialect).Clean) :
    AllWritten dialect statement.subterms :=
  (Statement.allWithin clean).allWritten clean

end SqlDialects
