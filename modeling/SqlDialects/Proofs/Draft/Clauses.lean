import SqlDialects.Proofs.Draft.Assembly

/-!
The draft of each clause of a statement, apart from the fragment that writes it. Fragments that
write several clauses at once conserve them too. Of the fragments of a query, one demands an order
beside its offset; no other fragment finds a fault but those of the clauses that it writes.
-/

namespace SqlDialects

open Draft

namespace Portion

variable {pending : List Clause}

theorem clean_take {clause : Clause} {draft : Draft} (clean : clause ∈ pending → draft.Clean) :
    (take clause draft pending).draft.Clean := by
  unfold take
  split
  · next member => exact clean member
  · exact clean_nil

theorem clean_takeWith {lead other : Clause} {together : Bool} {alone both : Draft}
    (leadClean : lead ∈ pending → alone.Clean)
    (bothClean : lead ∈ pending → other ∈ pending → both.Clean) :
    (takeWith lead other together alone both pending).draft.Clean := by
  unfold takeWith
  split
  · next leadPending =>
    split
    · next beside =>
      simp only [Bool.and_eq_true, decide_eq_true_eq] at beside
      exact bothClean leadPending (List.mem_of_mem_erase beside.2)
    · exact leadClean leadPending
  · exact clean_nil

end Portion

/-- A fragment finds no fault but those of the clauses that are pending. -/
def FaultsOfClauses (portion? : Fragment → List Clause → Option Portion)
    (clauseDraft : Clause → Draft) (fragment : Fragment) : Prop :=
  ∀ {pending portion}, (∀ clause ∈ pending, (clauseDraft clause).Clean) →
    portion? fragment pending = some portion → portion.draft.Clean

namespace SelectParts

variable (parts : SelectParts)

def clauseDraft : Clause → Draft
  | .commonTables => parts.commonTables
  | .columns => parts.opening ++ parts.columns
  | .sources => parts.sources
  | .joins => parts.joins
  | .conditions => parts.conditions
  | .groups => parts.groups
  | .groupConditions => parts.groupConditions
  | .windows => parts.windows
  | .compounds => parts.compounds
  | .order => parts.order
  | .limit => parts.limit
  | .offset => parts.offset
  | .lock => parts.lock
  | _ => []

theorem columnsWithLimit_eq_takeWith (pending : List Clause) :
    parts.columnsWithLimit pending =
      .takeWith .columns .limit (!parts.hasOffset) (parts.opening ++ parts.columns)
        (parts.opening ++ enclosed " TOP (" parts.limit ")" ++ parts.columns) pending := rfl

theorem conserves_columnsWithLimit (pending : List Clause) :
    (parts.columnsWithLimit pending).Conserves parts.clauseDraft pending := by
  rw [columnsWithLimit_eq_takeWith]
  apply Portion.conserves_takeWith
  · rfl
  · intro piece
    simp only [clauseDraft, content_append, content_enclosed, List.count_append]
    omega

theorem conserves_orderWithOffsetFetch {pending : List Clause}
    (clean : (parts.orderWithOffsetFetch pending).draft.Clean) :
    (parts.orderWithOffsetFetch pending).Conserves parts.clauseDraft pending := by
  unfold orderWithOffsetFetch at clean ⊢
  split
  · next offsetPending =>
    split
    · next orderPending =>
      intro piece
      have offsetStill : .offset ∈ pending.erase .order :=
        (List.mem_erase_of_ne (by decide)).mpr offsetPending
      have orderLeft := held_erase orderPending parts.clauseDraft piece
      have offsetLeft := held_erase offsetStill parts.clauseDraft piece
      simp only [clauseDraft] at orderLeft offsetLeft
      simp only
      split
      · next limitPending =>
        have limitLeft := held_erase limitPending parts.clauseDraft piece
        simp only [clauseDraft] at limitLeft
        simp only [content_append, content_enclosed, List.count_append]
        omega
      · simp only [content_append, content_enclosed, List.count_append]
        omega
    · next orderMissing =>
      rw [if_pos offsetPending, if_neg orderMissing] at clean
      simp at clean
  · apply Portion.conserves_take
    rfl

theorem conserves_portion? : ConservesClauses parts.portion? parts.clauseDraft := by
  intro fragment pending portion found clean
  unfold portion? at found
  split at found <;> cases found
  case h_3 => exact parts.conserves_columnsWithLimit pending
  case h_12 => exact parts.conserves_orderWithOffsetFetch clean
  all_goals
    apply Portion.conserves_take
    simp [clauseDraft]

theorem faultsOfClauses {fragment : Fragment} (lenient : fragment ≠ .orderWithOffsetFetch) :
    FaultsOfClauses parts.portion? parts.clauseDraft fragment := by
  intro pending portion clean found
  unfold portion? at found
  split at found <;> cases found
  case h_3 =>
    rw [columnsWithLimit_eq_takeWith]
    apply Portion.clean_takeWith (clean .columns)
    intro columns limit
    have columnsClean := (clean_append _ _).mp (clean .columns columns)
    have limitClean : parts.limit.Clean := clean .limit limit
    simp [columnsClean, limitClean]
  case h_12 => exact absurd rfl lenient
  case h_13 => exact Portion.clean_take (clean .limit)
  case h_14 => exact Portion.clean_take (clean .offset)
  all_goals exact Portion.clean_take (clean _)

end SelectParts

theorem Dialect.ignoresConflict_eq_false {dialect : Dialect} {conflict : Conflict}
    (further : conflict ≠ ⟨[], .nothing⟩) : dialect.ignoresConflict (some conflict) = false := by
  obtain ⟨target, action⟩ := conflict
  cases target <;> cases action <;> first | rfl | exact absurd rfl further

theorem Dialect.ignoresConflict_update (dialect : Dialect) (target : List String)
    (assignments : Record) (condition : Option Expr) :
    dialect.ignoresConflict (some ⟨target, .update assignments condition⟩) = false :=
  ignoresConflict_eq_false (by simp)

namespace Insert

def clauseDraft (insert : Insert) (dialect : NamedDialect) (table : Expr) : Clause → Draft
  | .opening => insert.openingDraft dialect
  | .commonTables => insert.commonTables.draft dialect
  | .table => ofText " " ++ table.draft dialect false
  | .values => dialect.insertSourceDraft insert.columns insert.source
  | .conflict => (insert.conflict.map dialect.conflictDraft).getD []
  | .returning => dialect.returningDraft insert.returning
  | _ => []

theorem conserves_portion? (insert : Insert) (dialect : NamedDialect) (table : Expr) :
    ConservesClauses (insert.portion? dialect table) (insert.clauseDraft dialect table) := by
  intro fragment pending portion found _
  unfold portion? at found
  split at found <;> cases found <;> apply Portion.conserves_take <;> rfl

theorem faultsOfClauses (insert : Insert) (dialect : NamedDialect) (table : Expr)
    (fragment : Fragment) :
    FaultsOfClauses (insert.portion? dialect table) (insert.clauseDraft dialect table)
      fragment := by
  intro pending portion clean found
  unfold portion? at found
  split at found <;> cases found <;> exact Portion.clean_take (clean _)

end Insert

namespace Update

def clauseDraft (update : Update) (dialect : NamedDialect) (table : Expr) : Clause → Draft
  | .opening => ofText dialect.keywords.update
  | .commonTables => update.commonTables.draft dialect
  | .table => tableDraft dialect table
  | .assignments => update.assignmentsDraft dialect
  | .conditions => whereClause (conditionItems dialect update.conditions)
  | .order =>
      demand dialect.name dialect.capabilities.orderOnUpdate .orderOnUpdate
        ++ Draft.order (expressionDrafts dialect false update.orderBy)
  | .limit =>
      demand dialect.name dialect.capabilities.limitOnUpdate .limitOnUpdate
        ++ Draft.rows update.limit
  | .furtherTables => update.furtherTablesDraft dialect ""
  | .returning => dialect.returningDraft update.returning
  | _ => []

theorem content_furtherTablesDraft (update : Update) (dialect : NamedDialect) (opening : String) :
    (update.furtherTablesDraft dialect opening).content =
      (update.furtherTablesDraft dialect "").content := by
  simp [furtherTablesDraft]

theorem tables_eq_takeWith (update : Update) (dialect : NamedDialect) (table : Expr)
    (pending : List Clause) :
    update.tables dialect table pending =
      .takeWith .table .furtherTables (!dialect.conventions.furtherTablesInFrom)
        (tableDraft dialect table)
        (tableDraft dialect table ++ update.furtherTablesDraft dialect ", ") pending := rfl

theorem conserves_tables (update : Update) (dialect : NamedDialect) (table : Expr)
    (pending : List Clause) :
    (update.tables dialect table pending).Conserves (update.clauseDraft dialect table)
      pending := by
  rw [tables_eq_takeWith]
  apply Portion.conserves_takeWith
  · rfl
  · intro piece
    rw [content_append, List.count_append, update.content_furtherTablesDraft dialect ", "]
    rfl

theorem conserves_portion? (update : Update) (dialect : NamedDialect) (table : Expr) :
    ConservesClauses (update.portion? dialect table) (update.clauseDraft dialect table) := by
  intro fragment pending portion found _
  unfold portion? at found
  split at found <;> cases found
  case h_3 => exact update.conserves_tables dialect table pending
  case h_5 =>
    split
    · exact Portion.conserves_take (update.content_furtherTablesDraft dialect " FROM ") pending
    · exact Portion.conserves_nothing _ pending
  all_goals
    apply Portion.conserves_take
    simp [clauseDraft]

theorem faultsOfClauses (update : Update) (dialect : NamedDialect) (table : Expr)
    (fragment : Fragment) :
    FaultsOfClauses (update.portion? dialect table) (update.clauseDraft dialect table)
      fragment := by
  intro pending portion clean found
  have further : ∀ opening, .furtherTables ∈ pending →
      (update.furtherTablesDraft dialect opening).Clean := by
    intro opening member
    simpa [clauseDraft, furtherTablesDraft] using clean .furtherTables member
  unfold portion? at found
  split at found <;> cases found
  case h_3 =>
    rw [tables_eq_takeWith]
    apply Portion.clean_takeWith (clean .table)
    intro table furtherTables
    exact (clean_append _ _).mpr ⟨clean .table table, further ", " furtherTables⟩
  case h_5 =>
    split
    · exact Portion.clean_take (further " FROM ")
    · exact clean_nil
  case h_8 =>
    apply Portion.clean_take
    intro limit
    simpa [clauseDraft] using clean .limit limit
  all_goals exact Portion.clean_take (clean _)

end Update

namespace Delete

def clauseDraft (delete : Delete) (dialect : NamedDialect) (table : Expr) : Clause → Draft
  | .opening => ofText dialect.keywords.delete
  | .commonTables => delete.commonTables.draft dialect
  | .table => Draft.sources [table.draft dialect false]
  | .conditions => whereClause (conditionItems dialect delete.conditions)
  | .order =>
      demand dialect.name dialect.capabilities.orderOnDelete .orderOnDelete
        ++ Draft.order (expressionDrafts dialect false delete.orderBy)
  | .limit =>
      demand dialect.name dialect.capabilities.limitOnDelete .limitOnDelete
        ++ Draft.rows delete.limit
  | .returning => dialect.returningDraft delete.returning
  | _ => []

theorem conserves_portion? (delete : Delete) (dialect : NamedDialect) (table : Expr) :
    ConservesClauses (delete.portion? dialect table) (delete.clauseDraft dialect table) := by
  intro fragment pending portion found _
  unfold portion? at found
  split at found <;> cases found <;> apply Portion.conserves_take <;> simp [clauseDraft]

theorem faultsOfClauses (delete : Delete) (dialect : NamedDialect) (table : Expr)
    (fragment : Fragment) :
    FaultsOfClauses (delete.portion? dialect table) (delete.clauseDraft dialect table)
      fragment := by
  intro pending portion clean found
  unfold portion? at found
  split at found <;> cases found
  case h_6 =>
    apply Portion.clean_take
    intro limit
    simpa [clauseDraft] using clean .limit limit
  all_goals exact Portion.clean_take (clean _)

end Delete

namespace Truncate

def clauseDraft (truncate : Truncate) (dialect : NamedDialect) : Clause → Draft
  | .truncation => truncate.wholeDraft dialect
  | _ => []

theorem conserves_portion? (truncate : Truncate) (dialect : NamedDialect) :
    ConservesClauses (truncate.portion? dialect) (truncate.clauseDraft dialect) := by
  intro fragment pending portion found _
  unfold portion? at found
  split at found <;> cases found
  apply Portion.conserves_take
  rfl

theorem faultsOfClauses (truncate : Truncate) (dialect : NamedDialect) (fragment : Fragment) :
    FaultsOfClauses (truncate.portion? dialect) (truncate.clauseDraft dialect) fragment := by
  intro pending portion clean found
  unfold portion? at found
  split at found <;> cases found
  exact Portion.clean_take (clean .truncation)

end Truncate

end SqlDialects
