import SqlDialects.Proofs.AlignedRecords
import SqlDialects.Proofs.Draft.Mending
import SqlDialects.Proofs.Related

/-!
The drafts of statements with filled lists mend those without, clause by clause. The own lists of a
statement are checked before anything of their clause is written.
-/

namespace SqlDialects

open Draft

section Sources

theorem rowFaults_of_empty {rows : List (List Expr)} (empty : [] ∈ rows) (columns index : Nat) :
    ∃ defect, rowFaults columns index rows = invalid defect := by
  fun_induction rowFaults columns index rows with
  | case1 => simp at empty
  | case2 => exact ⟨_, rfl⟩
  | case3 => exact ⟨_, rfl⟩
  | case4 index row rest filled fits ih =>
      rcases List.mem_cons.mp empty with rfl | later
      · exact absurd rfl filled
      · exact ih later

theorem recordFaults_of_empty {records : List Record} (empty : ∃ record ∈ records, record.isEmpty)
    {columns : List String} (listed : columns ≠ []) (index : Nat) :
    ∃ defect, recordFaults columns index records = invalid defect := by
  fun_induction recordFaults columns index records with
  | case1 => simp at empty
  | case2 => exact ⟨_, rfl⟩
  | case3 index record rest unrepeated fits ih =>
      obtain ⟨other, member, none⟩ := empty
      rcases List.mem_cons.mp member with rfl | later
      · -- A record that sets the listed columns is as long as the list.
        have entries : other.entries = [] := by simpa [Record.isEmpty] using none
        simp only [Record.sets, Record.size, entries, List.length_nil, Bool.and_eq_true,
          decide_eq_true_eq] at fits
        exact absurd (List.length_eq_zero_iff.mp fits.1.symm) listed
      · exact ih ⟨other, later, none⟩
  | case4 => exact ⟨_, rfl⟩

variable {dialect : NamedDialect} {columns : List Expr}

theorem insertSourceDraft_of_empty {source : InsertSource} (empty : source.GivesEmptyList) :
    ∃ defect rest, dialect.insertSourceDraft columns source = invalid defect ++ rest := by
  cases source with
  | defaultValues | query _ => exact empty.elim
  | rows cells =>
      have some : cells.isEmpty = false := by
        cases cells with
        | nil => simp [InsertSource.GivesEmptyList] at empty
        | cons => rfl
      obtain ⟨defect, faults⟩ := rowFaults_of_empty empty columns.length 0
      simp only [NamedDialect.insertSourceDraft, NamedDialect.rowsSourceDraft, some,
        Bool.false_eq_true,
        if_false, faults, List.append_assoc]
      exact ⟨defect, _, rfl⟩
  | records given =>
      cases columns with
      | cons column others => exact ⟨.columnsBesideRecords, [], rfl⟩
      | nil =>
          cases given with
          | nil => exact ⟨.noRows, [], rfl⟩
          | cons first others =>
              cases none : first.isEmpty with
              | true =>
                  refine ⟨.emptyFirstRecord, [], ?_⟩
                  simp [NamedDialect.insertSourceDraft, NamedDialect.recordsSourceDraft, none]
              | false =>
                  have listed : first.columns ≠ [] := by
                    simpa [Record.isEmpty, Record.columns] using none
                  obtain ⟨defect, faults⟩ := recordFaults_of_empty empty listed 0
                  rw [NamedDialect.insertSourceDraft, recordsSourceDraft_of_filled none, faults,
                    List.append_assoc]
                  exact ⟨defect, _, rfl⟩

end Sources

section Filled

variable {writeValue : Nat → Value → Except Failure Compiled} {dialect : NamedDialect}
  (filling : Filling)

theorem InsertSource.fillLists_of_filled {source : InsertSource}
    (filled : ¬source.GivesEmptyList) :
    (source.rewrite (.filling filling.columns)).fillLists filling =
      source.rewrite (.filling filling.columns) := by
  cases source with
  | defaultValues | query _ => rfl
  | rows cells =>
      simp only [rewrite, fillLists, rows.injEq, List.map_map]
      refine List.map_congr_left fun row member => fillList_of_ne_nil fun none => filled ?_
      rw [← List.isEmpty_iff, isEmpty_rewriteExprs, List.isEmpty_iff] at none
      subst none
      exact member
  | records given =>
      simp only [rewrite, fillLists, records.injEq, List.map_map]
      refine List.map_congr_left fun record member => if_neg fun none => filled ?_
      exact ⟨record, member, record.isEmpty_rewrite _ ▸ none⟩

theorem Conflict.fillLists_of_filled {conflict : Conflict}
    (filled : ¬conflict.action.GivesEmptyList) :
    (conflict.rewrite (.filling filling.columns)).fillLists filling =
      conflict.rewrite (.filling filling.columns) := by
  obtain ⟨target, _ | ⟨assignments, condition⟩⟩ := conflict
  · rfl
  · have some : ¬(assignments.rewrite (.filling filling.columns)).isEmpty := by
      rwa [assignments.isEmpty_rewrite]
    simp only [rewrite, ConflictAction.rewrite, fillLists, ConflictAction.fillLists,
      Filling.fillRecord, if_neg some]

/-- What to update on a conflict is checked before anything of the clause is written. -/
theorem Conflict.rescues_of_empty {conflict : Conflict} (empty : conflict.action.GivesEmptyList) :
    Rescues writeValue
      (dialect.conflictDraft
        ((conflict.rewrite (.filling filling.columns)).fillLists filling))
      (dialect.conflictDraft conflict) := by
  obtain ⟨target, _ | ⟨assignments, condition⟩⟩ := conflict
  · exact empty.elim
  · have none : assignments.isEmpty := empty
    simp only [NamedDialect.conflictDraft, NamedDialect.conflictFaults, rewrite,
      ConflictAction.rewrite, fillLists, ConflictAction.fillLists, Expr.asksSomething_rewrite,
      none, if_true]
    exact (((((rescues_invalid _ _ []).behind _).append _ _).behind _).append _ _).append _ _

theorem Dialect.ignoresConflict_fillLists (dialect : Dialect) (conflict : Option Conflict) :
    dialect.ignoresConflict (conflict.map (Conflict.fillLists filling)) =
      dialect.ignoresConflict conflict := by
  rcases conflict with _ | ⟨_ | ⟨_, _⟩, _ | ⟨_, _⟩⟩ <;> rfl

theorem Insert.clauseDraft_fillLists (insertion : Insert) (table : Expr) (clause : Clause) :
    Mends writeValue
      (((insertion.rewrite (.filling filling.columns)).fillLists filling).clauseDraft dialect
        (table.rewrite (.filling filling.columns)) clause)
      (insertion.clauseDraft dialect table clause) := by
  have rewritten := insertion.clauseDraft_rewrite
    (Rewriting.filling_relates writeValue filling.columns dialect) (.refl _) table clause
  cases clause with
  | opening =>
      simp only [clauseDraft, openingDraft, fillLists, Dialect.ignoresConflict_fillLists]
        at rewritten ⊢
      exact rewritten
  | values =>
      by_cases empty : insertion.source.GivesEmptyList
      · have fails : ∃ defect rest,
            insertion.clauseDraft dialect table .values = invalid defect ++ rest :=
          insertSourceDraft_of_empty empty
        obtain ⟨defect, rest, drafted⟩ := fails
        rw [drafted]
        exact (rescues_invalid _ defect rest).mends
      · have same := InsertSource.fillLists_of_filled filling empty
        simp only [clauseDraft, fillLists, rewrite, same] at rewritten ⊢
        exact rewritten
  | conflict =>
      simp only [clauseDraft, fillLists, rewrite] at rewritten ⊢
      cases given : insertion.conflict with
      | none => exact .refl _
      | some conflict =>
          by_cases empty : conflict.action.GivesEmptyList
          · exact (conflict.rescues_of_empty filling empty).mends
          · have same := Conflict.fillLists_of_filled filling empty
            simp only [given, Option.map_some, same] at rewritten ⊢
            exact rewritten
  | _ => exact rewritten

theorem Insert.draft_fillLists (insertion : Insert) :
    Mends writeValue
      (((insertion.rewrite (.filling filling.columns)).fillLists filling).draft dialect)
      (insertion.draft dialect) := by
  cases named : insertion.table with
  | none =>
      simp only [draft, fillLists, rewrite, named, Option.map_none]
      exact .refl _
  | some table =>
      have target : ((insertion.rewrite (.filling filling.columns)).fillLists filling).table =
          some (table.rewrite (.filling filling.columns)) :=
        table_rewrite _ named
      have sameClauses :
          ((insertion.rewrite (.filling filling.columns)).fillLists filling).carried =
            insertion.carried := by
        simp [carried, fillLists, rewrite]
      rw [draft_eq_arrange target, draft_eq_arrange named, sameClauses]
      exact arrange_related (Mends writeValue) .refl .append fun clause _ =>
        insertion.clauseDraft_fillLists filling table clause

theorem Update.assignmentsDraft_fillLists (change : Update) :
    Mends writeValue
      (((change.rewrite (.filling filling.columns)).fillLists filling).assignmentsDraft dialect)
      (change.assignmentsDraft dialect) := by
  cases none : change.assignments.isEmpty with
  | true =>
      have fails : change.assignmentsDraft dialect = invalid .noAssignments := by
        rw [assignmentsDraft, if_pos none]
      rw [fails]
      exact (rescues_invalid _ _ []).mends
  | false =>
      simp only [assignmentsDraft, fillLists, rewrite, Filling.fillRecord, Record.isEmpty_rewrite,
        none, Bool.false_eq_true, if_false]
      exact .append (.refl _) (NamedDialect.assignmentsDraft_rewrite
        (Rewriting.filling_relates writeValue filling.columns dialect) change.assignments)

theorem Update.portion?_fillLists (change : Update) (table : Expr) (fragment : Fragment)
    (pending : List Clause) :
    Option.Rel (Portion.Related (Mends writeValue))
      (((change.rewrite (.filling filling.columns)).fillLists filling).portion? dialect
        (table.rewrite (.filling filling.columns)) fragment pending)
      (change.portion? dialect table fragment pending) := by
  have rewritten := change.portion?_rewrite
    (Rewriting.filling_relates writeValue filling.columns dialect) rfl table
    fragment pending
  cases fragment with
  | updateAssignments =>
      exact .some (congruent_mends.related_take (change.assignmentsDraft_fillLists filling) _ _)
  | _ => exact rewritten

theorem Update.draft_fillLists (change : Update) :
    Mends writeValue
      (((change.rewrite (.filling filling.columns)).fillLists filling).draft dialect)
      (change.draft dialect) := by
  have sameClauses : ((change.rewrite (.filling filling.columns)).fillLists filling).carried =
      change.carried := by
    simp [carried, fillLists, rewrite]
  cases named : change.table with
  | none =>
      simp only [draft, fillLists, rewrite, named, Option.map_none]
      exact .refl _
  | some table =>
      have target : ((change.rewrite (.filling filling.columns)).fillLists filling).table =
          some (table.rewrite (.filling filling.columns)) :=
        table_rewrite _ named
      simp only [draft, target, named, sameClauses]
      exact congruent_mends.related_assemble (fun _ => .refl _) (fun _ => .refl _)
        (change.portion?_fillLists filling table) _ _

/-- Filling mends: a statement with an empty list fails as an invalid expression wherever the
filled one is written. -/
theorem Statement.draft_fill (statement : Statement) :
    Mends writeValue ((statement.fill filling).draft dialect) (statement.draft dialect) := by
  have rewritten : Mends writeValue
      ((statement.rewrite (.filling filling.columns)).draft dialect) (statement.draft dialect) :=
    statement.draft_rewrite (Rewriting.filling_relates writeValue filling.columns dialect)
      (fun _ => .refl _) (fun _ => .refl _) rfl rfl fun _ _ => .refl _
  cases statement with
  | select | delete => exact rewritten
  | insert insertion => exact insertion.draft_fillLists filling
  | update change => exact change.draft_fillLists filling
  | truncate truncation =>
      by_cases none : truncation.tables.isEmpty
      · have fails : truncation.draft dialect = invalid (.missingTable .truncate) := by
          rw [Truncate.draft, if_pos none]
        rw [draft, fails]
        exact (rescues_invalid _ _ []).mends
      · have some : rewriteExprs (.filling filling.columns) truncation.tables ≠ [] := by
          rwa [Ne, ← List.isEmpty_iff, isEmpty_rewriteExprs]
        simp only [fill, fillLists, rewrite, Truncate.fillLists, Truncate.rewrite,
          fillList_of_ne_nil some]
        exact rewritten

end Filled

end SqlDialects
