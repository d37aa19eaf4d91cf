import SqlDialects.Proofs.Draft.Inside
import SqlDialects.Proofs.Records

/-!
Everything that a statement is made of stands in its clean draft. The records of an insertion stand
there entry by entry, in the order of the first record's columns.
-/

namespace SqlDialects

open Draft

variable {dialect : NamedDialect} {whole : Draft}

theorem optional_allWithin (clean : whole.Clean) {expr? : Option Expr}
    (inside : ∀ expr ∈ expr?, Subterm.Within dialect whole (.expr expr)) :
    AllWithin dialect whole (exprSubterms expr?.toList) := by
  apply exprs_allWithin clean
  intro expr member
  exact inside expr (by simpa using member)

theorem target_allWithin (clean : whole.Clean) {target? : Option Expr} {target : Expr}
    (given : target? = some target) (inside : target.draft dialect false <:+: whole) :
    AllWithin dialect whole (exprSubterms target?.toList) := by
  apply optional_allWithin clean
  rw [given]
  rintro expr ⟨⟩
  exact within_of_draft inside

theorem returning_allWithin (clean : whole.Clean) {exprs : List Expr}
    (inside : exprs.isEmpty = false → dialect.returningDraft exprs <:+: whole) :
    AllWithin dialect whole (exprSubterms exprs) := by
  apply exprs_allWithin clean
  exact within_of_carried fun given => within_separated (within_append (inside given)).2

namespace Record

theorem allWithin (clean : whole.Clean) {record : Record}
    (inside : ∀ entry ∈ record.entries, entry.2.draft dialect false <:+: whole) :
    AllWithin dialect whole record.subterms := by
  simp only [subterms, allWithin_flatMap]
  intro entry member
  exact entry.2.allWithin clean (inside entry member)

theorem allWithin_of_aligned (clean : whole.Clean) {record : Record} {columns : List String}
    (fits : record.sets columns) (nodup : columns.Nodup)
    (inside : ∀ cell ∈ record.alignedDrafts dialect columns, cell <:+: whole) :
    AllWithin dialect whole record.subterms := by
  have aligned := record.alignedDrafts_perm dialect fits nodup
  apply allWithin clean
  intro entry member
  exact inside _ (aligned.mem_iff.mpr (List.mem_map_of_mem member))

theorem allWithin_of_assignments (clean : whole.Clean) {assignments : Record}
    (inside : dialect.assignmentsDraft assignments <:+: whole) :
    AllWithin dialect whole assignments.subterms := by
  have listed := within_separated (within_append inside).2
  rw [List.forall_mem_map] at listed
  exact allWithin clean fun entry member => (within_append (listed entry member)).2

end Record

namespace InsertSource

theorem allWithin_of_rows (clean : whole.Clean) {columns : List Expr} {cells : List (List Expr)}
    (inside : dialect.rowsSourceDraft columns cells <:+: whole) :
    AllWithin dialect whole (exprSubterms columns) ∧
      AllWithin dialect whole (InsertSource.rows cells).subterms := by
  unfold NamedDialect.rowsSourceDraft at inside
  split at inside
  · exact absurd (clean_of_within clean inside) (not_clean_invalid _)
  · obtain ⟨led, listed⟩ := within_append inside
    have columnsInside := within_columnList (within_append led).2
    have cellsInside := within_tuples listed
    rw [List.forall_mem_map] at cellsInside
    refine ⟨exprs_allWithin clean columns (within_of_drafts columnsInside), ?_⟩
    rw [InsertSource.subterms, allWithin_flatMap]
    intro row member
    exact exprs_allWithin clean row (within_of_drafts (cellsInside row member))

theorem allWithin_of_records (clean : whole.Clean) {columns : List Expr} {given : List Record}
    (inside : dialect.recordsSourceDraft columns given <:+: whole) :
    AllWithin dialect whole (exprSubterms columns) ∧
      AllWithin dialect whole (InsertSource.records given).subterms := by
  have sourceClean := clean_of_within clean inside
  unfold NamedDialect.recordsSourceDraft at inside sourceClean
  cases columns with
  | cons column others => simp at sourceClean
  | nil =>
      cases given with
      | nil => simp at sourceClean
      | cons first rest =>
          simp only [List.isEmpty_nil, Bool.not_true, Bool.false_eq_true, if_false]
            at inside sourceClean
          split at inside
          · exact absurd (clean_of_within clean inside) (not_clean_invalid _)
          · obtain ⟨led, listed⟩ := within_append inside
            have faultless := clean_of_within clean (within_append led).1
            have fits := clean_recordFaults faultless
            have cellsInside := within_tuples listed
            rw [List.forall_mem_map] at cellsInside
            refine ⟨by simp [exprSubterms], ?_⟩
            rw [InsertSource.subterms, allWithin_flatMap]
            intro record member
            exact Record.allWithin_of_aligned clean (fits record member).2 first.columns_nodup
              (cellsInside record member)

theorem allWithin (clean : whole.Clean) {columns : List Expr} {source : InsertSource}
    (inside : dialect.insertSourceDraft columns source <:+: whole) :
    AllWithin dialect whole (exprSubterms columns) ∧ AllWithin dialect whole source.subterms := by
  cases source with
  | defaultValues =>
      cases columns with
      | nil => simp [exprSubterms, InsertSource.subterms]
      | cons column others => exact absurd (clean_of_within clean inside) (not_clean_invalid _)
  | rows cells => exact allWithin_of_rows clean inside
  | records given => exact allWithin_of_records clean inside
  | query query =>
      obtain ⟨led, queryInside⟩ := within_append inside
      have columnsInside := within_columnList (within_append led).1
      exact ⟨exprs_allWithin clean columns (within_of_drafts columnsInside),
        query.allWithin clean queryInside⟩

end InsertSource

namespace Conflict

theorem within_update {target : List String} {assignments : Record} {condition : Option Expr}
    (inside : dialect.conflictDraft ⟨target, .update assignments condition⟩ <:+: whole) :
    dialect.conflictActionDraft (.update assignments condition) <:+: whole := by
  simp only [NamedDialect.conflictDraft, dialect.ignoresConflict_update, Bool.false_eq_true,
    if_false] at inside
  exact (within_append (within_append inside).2).2

theorem allWithin (clean : whole.Clean) {conflict : Conflict}
    (inside : dialect.conflictDraft conflict <:+: whole) :
    AllWithin dialect whole conflict.action.subterms := by
  obtain ⟨target, action⟩ := conflict
  cases action with
  | nothing => simp [ConflictAction.subterms]
  | update assignments condition =>
      obtain ⟨led, conditionInside⟩ := within_append (within_update inside)
      have assignmentsBelow := Record.allWithin_of_assignments clean (within_append led).2
      have conditionBelow : AllWithin dialect whole (exprSubterms condition.toList) := by
        apply optional_allWithin clean
        rintro expr given
        obtain rfl : condition = some expr := given
        cases empty : expr.isEmptyCondition with
        | true => exact .inl empty
        | false =>
            simp only [empty, Bool.false_eq_true, if_false] at conditionInside
            exact within_of_draft (within_append conditionInside).2
      simp [ConflictAction.subterms, assignmentsBelow, conditionBelow]

end Conflict

theorem Insert.within_clauses {insert : Insert} (clean : (insert.draft dialect).Clean) :
    ∃ table, insert.table = some table ∧
      ∀ clause ∈ insert.carried,
        insert.clauseDraft dialect table clause <:+: insert.draft dialect := by
  unfold draft at clean ⊢
  cases target : insert.table with
  | none => simp [target] at clean
  | some table =>
      simp only [target] at clean ⊢
      refine ⟨table, rfl, fun clause member => ?_⟩
      exact within_assemble (insert.writesClauses dialect table) clean clause member _ (by simp)

theorem Update.within_clauses {update : Update} (clean : (update.draft dialect).Clean) :
    ∃ table, update.table = some table ∧
      ∀ clause ∈ update.carried, ∀ core ∈ update.cores dialect table clause,
        core <:+: update.draft dialect := by
  unfold draft at clean ⊢
  cases target : update.table with
  | none => simp [target] at clean
  | some table =>
      simp only [target] at clean ⊢
      exact ⟨table, rfl, within_assemble (update.writesClauses dialect table) clean⟩

theorem Delete.within_clauses {delete : Delete} (clean : (delete.draft dialect).Clean) :
    ∃ table, delete.table = some table ∧
      ∀ clause ∈ delete.carried, ∀ core ∈ delete.cores dialect table clause,
        core <:+: delete.draft dialect := by
  unfold draft at clean ⊢
  cases target : delete.table with
  | none => simp [target] at clean
  | some table =>
      simp only [target] at clean ⊢
      exact ⟨table, rfl, within_assemble (delete.writesClauses dialect table) clean⟩

theorem Truncate.within_wholeDraft {truncate : Truncate}
    (clean : (truncate.draft dialect).Clean) :
    truncate.wholeDraft dialect <:+: truncate.draft dialect := by
  unfold draft at clean ⊢
  split
  · next missing => simp [missing] at clean
  · next present =>
    rw [if_neg present] at clean
    exact within_assemble (truncate.writesClauses dialect) clean .truncation (by simp) _
      (by simp [clauseDraft])

theorem Insert.allWithin {insert : Insert} (clean : (insert.draft dialect).Clean) :
    AllWithin dialect (insert.draft dialect) insert.subterms := by
  obtain ⟨table, target, part⟩ := Insert.within_clauses clean
  have tables := insert.commonTables.allWithin clean fun given =>
    part .commonTables (by simp [carried, given])
  have targetBelow := target_allWithin clean target
    (within_append (part .table (by simp [carried]))).2
  have source := InsertSource.allWithin clean (part .values (by simp [carried]))
  have conflict : ∀ conflict ∈ insert.conflict.toList,
      AllWithin dialect (insert.draft dialect) conflict.action.subterms := by
    intro conflict member
    have given : insert.conflict = some conflict := by simpa using member
    apply Conflict.allWithin clean
    simpa [clauseDraft, given] using part .conflict (by simp [carried, given])
  have returning := returning_allWithin clean fun given =>
    part .returning (by simp [carried, given])
  simp only [Insert.subterms, allWithin_append, allWithin_flatMap, and_assoc]
  exact ⟨tables, targetBelow, source.1, source.2, conflict, returning⟩

theorem Update.allWithin {update : Update} (clean : (update.draft dialect).Clean) :
    AllWithin dialect (update.draft dialect) update.subterms := by
  obtain ⟨table, target, part⟩ := Update.within_clauses clean
  have clause : ∀ clause ∈ update.carried,
      update.cores dialect table clause = [update.clauseDraft dialect table clause] →
        update.clauseDraft dialect table clause <:+: update.draft dialect :=
    fun clause member whole => part clause member _ (by simp [whole])
  have tables := update.commonTables.allWithin clean fun given =>
    clause .commonTables (by simp [carried, given]) rfl
  have targetBelow := target_allWithin clean target
    (within_append (clause .table (by simp [carried]) rfl)).2
  have assigned : dialect.assignmentsDraft update.assignments <:+: update.draft dialect := by
    have inside := clause .assignments (by simp [carried]) rfl
    simp only [clauseDraft, assignmentsDraft] at inside
    split at inside
    · exact absurd (clean_of_within clean inside) (not_clean_invalid _)
    · exact (within_append inside).2
  have assignments := Record.allWithin_of_assignments clean assigned
  have listed : update.furtherTables.isEmpty = false →
      commaSeparated (expressionDrafts dialect false update.furtherTables) <:+:
        update.draft dialect :=
    fun given => part .furtherTables (by simp [carried, given]) _ (by simp [cores])
  have further := exprs_allWithin clean update.furtherTables
    (within_of_carried fun given => within_separated (listed given))
  have conditions := exprs_allWithin clean update.conditions (within_of_asking clean fun asking =>
    (within_append (clause .conditions (by simp [carried, asking]) rfl)).2)
  have order := exprs_allWithin clean update.orderBy (within_of_carried fun given =>
    within_separated
      (within_append (within_append (clause .order (by simp [carried, given]) rfl)).2).2)
  have returning := returning_allWithin clean fun given =>
    clause .returning (by simp [carried, given]) rfl
  simp only [Update.subterms, allWithin_append, and_assoc]
  exact ⟨tables, targetBelow, assignments, further, conditions, order, returning⟩

theorem Delete.allWithin {delete : Delete} (clean : (delete.draft dialect).Clean) :
    AllWithin dialect (delete.draft dialect) delete.subterms := by
  obtain ⟨table, target, part⟩ := Delete.within_clauses clean
  have clause : ∀ clause ∈ delete.carried,
      delete.cores dialect table clause = [delete.clauseDraft dialect table clause] →
        delete.clauseDraft dialect table clause <:+: delete.draft dialect :=
    fun clause member whole => part clause member _ (by simp [whole])
  have tables := delete.commonTables.allWithin clean fun given =>
    clause .commonTables (by simp [carried, given]) rfl
  have source := within_separated (within_append (clause .table (by simp [carried]) rfl)).2
  have targetBelow := target_allWithin clean target (source _ (List.mem_singleton.mpr rfl))
  have conditions := exprs_allWithin clean delete.conditions (within_of_asking clean fun asking =>
    (within_append (clause .conditions (by simp [carried, asking]) rfl)).2)
  have order := exprs_allWithin clean delete.orderBy (within_of_carried fun given =>
    within_separated
      (within_append (within_append (clause .order (by simp [carried, given]) rfl)).2).2)
  have returning := returning_allWithin clean fun given =>
    clause .returning (by simp [carried, given]) rfl
  simp only [Delete.subterms, allWithin_append, and_assoc]
  exact ⟨tables, targetBelow, conditions, order, returning⟩

theorem Truncate.allWithin {truncate : Truncate} (clean : (truncate.draft dialect).Clean) :
    AllWithin dialect (truncate.draft dialect) (exprSubterms truncate.tables) := by
  obtain ⟨led, _⟩ := within_append (Truncate.within_wholeDraft clean)
  have listed := within_separated (within_append (within_append led).1).2
  exact exprs_allWithin clean truncate.tables (within_of_drafts listed)

/-- Everything that a statement is made of stands in its clean draft. -/
theorem Statement.allWithin {statement : Statement} (clean : (statement.draft dialect).Clean) :
    AllWithin dialect (statement.draft dialect) statement.subterms := by
  cases statement with
  | select query => exact query.allWithin clean (List.infix_refl _)
  | insert insertion => exact Insert.allWithin clean
  | update change => exact Update.allWithin clean
  | delete deletion => exact Delete.allWithin clean
  | truncate truncation => exact Truncate.allWithin clean

end SqlDialects
