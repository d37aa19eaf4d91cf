import SqlDialects.Proofs.Agreement
import SqlDialects.Proofs.Draft.Insertion
import SqlDialects.Proofs.Equality
import SqlDialects.Proofs.Noninterference
import SqlDialects.Proofs.Records
import SqlDialects.Statement.Same

/-!
Equality of statements and what it is worth to the compiler. Equality of records does not see the
order of the columns, but assignments are written in that order, and the first record of an
insertion decides the order of its columns. Equal statements that agree in these orders compile
alike; the text may differ in the sign of a zero.
-/

namespace SqlDialects

open Draft

namespace Record

variable {left right : Record}

theorem entries_eq_map_columns (record : Record) :
    record.entries =
      record.columns.map fun column => (column, (record.find? column).getD .default) := by
  rw [columns, List.map_map]
  refine (List.map_id' record.entries).symm.trans (List.map_congr_left fun entry member => ?_)
  simp [find?_eq_some_of_mem member]

theorem alike_of_same (equal : left.same right) :
    (left.rewrite .unsigned).Alike (right.rewrite .unsigned) := by
  simp only [same, Bool.and_eq_true, decide_eq_true_eq, List.all_eq_true] at equal
  obtain ⟨⟨sizes, entries⟩, duplicates⟩ := equal
  have each : ∀ entry ∈ left.entries,
      ∃ value, right.find? entry.1 = some value ∧ entry.2.same value := by
    intro entry member
    have here := entries entry member
    cases found : right.find? entry.1 with
    | none => simp [found] at here
    | some value => exact ⟨value, rfl, by simpa [found] using here⟩
  have fits : right.sets left.columns := by
    simp only [sets, Bool.and_eq_true, decide_eq_true_eq, List.all_eq_true]
    refine ⟨by rw [← sizes, size, columns, List.length_map], ?_⟩
    intro column member
    obtain ⟨entry, inside, rfl⟩ := List.mem_map.mp member
    obtain ⟨value, found, _⟩ := each entry inside
    simp [found]
  have sorted := perm_columns_of_sets fits left.columns_nodup
  refine ⟨by simpa using sizes, duplicates, ?_⟩
  intro column
  rw [find?_rewrite, find?_rewrite]
  by_cases member : column ∈ left.columns
  · obtain ⟨entry, inside, rfl⟩ := List.mem_map.mp member
    obtain ⟨value, found, valueSame⟩ := each entry inside
    rw [find?_eq_some_of_mem inside, found, Option.map_some, Option.map_some,
      entry.2.rewrite_eq_of_same value valueSame]
  · have missing : column ∉ right.columns := fun inside => member (sorted.mem_iff.mpr inside)
    rw [find?_eq_none_of_not_mem member, find?_eq_none_of_not_mem missing]

theorem Alike.eq (alike : left.Alike right) (ordered : left.columns = right.columns) :
    left = right := by
  have entries : left.entries = right.entries := by
    rw [left.entries_eq_map_columns, right.entries_eq_map_columns, ordered]
    simp only [alike.found]
  have duplicates := alike.duplicates
  cases left
  cases right
  simp only at entries duplicates
  subst entries duplicates
  rfl

end Record

def InsertSource.listedColumns : InsertSource → List String
  | .records (first :: _) => first.columns
  | _ => []

def ConflictAction.assignedColumns : ConflictAction → List String
  | .update assignments _ => assignments.columns
  | .nothing => []

/-- The orders of columns that a statement takes from its records. -/
def Statement.columnOrders : Statement → List (List String)
  | .insert insertion =>
      [insertion.source.listedColumns,
        (insertion.conflict.map fun conflict => conflict.action.assignedColumns).getD []]
  | .update change => [change.assignments.columns]
  | .select _ | .delete _ | .truncate _ => []

section Parts

theorem map_eq_of_sameOption {left right : Option Expr} (equal : sameOption Expr.same left right) :
    left.map (Expr.rewrite .unsigned) = right.map (Expr.rewrite .unsigned) := by
  cases left <;> cases right <;> try cases equal
  · rfl
  · next first second =>
    rw [Option.map_some, Option.map_some, first.rewrite_eq_of_same second equal]

theorem forall₂_of_sameList {α : Type} {same : α → α → Bool} {left right : List α}
    (equal : sameList same left right) :
    List.Forall₂ (fun first second => same first second = true) left right := by
  induction left generalizing right with
  | nil =>
      cases right with
      | nil => exact .nil
      | cons _ _ => cases equal
  | cons first rest ih =>
      cases right with
      | nil => cases equal
      | cons second others =>
          obtain ⟨here, later⟩ := Bool.and_eq_true_iff.mp equal
          exact .cons here (ih later)

theorem Record.rewrite_eq_of_same {left right : Record} (equal : left.same right)
    (ordered : left.columns = right.columns) :
    left.rewrite .unsigned = right.rewrite .unsigned :=
  (alike_of_same equal).eq (by simpa using ordered)

theorem ConflictAction.rewrite_eq_of_same {left right : ConflictAction}
    (equal : left.same right) (ordered : left.assignedColumns = right.assignedColumns) :
    left.rewrite .unsigned = right.rewrite .unsigned := by
  cases left <;> cases right <;> try cases equal
  · rfl
  · next assignments _ others _ =>
    obtain ⟨records, conditions⟩ := Bool.and_eq_true_iff.mp equal
    rw [rewrite, rewrite, assignments.rewrite_eq_of_same records ordered,
      map_eq_of_sameOption conditions]

theorem Conflict.map_eq_of_same {left right : Option Conflict}
    (equal : sameOption Conflict.same left right)
    (ordered : (left.map fun conflict => conflict.action.assignedColumns).getD [] =
      (right.map fun conflict => conflict.action.assignedColumns).getD []) :
    left.map (Conflict.rewrite .unsigned) =
      right.map (Conflict.rewrite .unsigned) := by
  cases left <;> cases right <;> try cases equal
  · rfl
  · next first second =>
    obtain ⟨targets, actions⟩ := Bool.and_eq_true_iff.mp equal
    rw [Option.map_some, Option.map_some, Conflict.rewrite, Conflict.rewrite,
      of_decide_eq_true targets, first.action.rewrite_eq_of_same actions ordered]

end Parts

section Statements

variable (dialect : NamedDialect)

theorem insertSourceDraft_of_same {left right : InsertSource} (equal : left.same right)
    (ordered : left.listedColumns = right.listedColumns) (columns : List Expr) :
    dialect.insertSourceDraft columns (left.rewrite .unsigned) =
      dialect.insertSourceDraft columns (right.rewrite .unsigned) := by
  cases left <;> cases right <;> try cases equal
  · rfl
  · next rows others =>
    have same : rows.map (rewriteExprs .unsigned) = others.map (rewriteExprs .unsigned) := by
      rw [← List.forall₂_eq_eq_eq, List.forall₂_map_left_iff, List.forall₂_map_right_iff]
      exact (forall₂_of_sameList equal).imp fun _ _ each => rewriteExprs_eq_of_same _ _ each
    rw [InsertSource.rewrite, InsertSource.rewrite, same]
  · next records others =>
    have alike : List.Forall₂ Record.Interchangeable
        (records.map (Record.rewrite .unsigned))
        (others.map (Record.rewrite .unsigned)) := by
      rw [List.forall₂_map_left_iff, List.forall₂_map_right_iff]
      exact (forall₂_of_sameList equal).imp fun _ _ each =>
        (Record.alike_of_same each).interchangeable
    cases records with
    | nil =>
        cases others with
        | nil => rfl
        | cons _ _ => cases equal
    | cons first rest =>
        cases others with
        | nil => cases equal
        | cons other others =>
            have first : (first.rewrite .unsigned).columns =
                (other.rewrite .unsigned).columns := by
              simpa [InsertSource.listedColumns] using ordered
            exact recordsSourceDraft_congr alike first dialect columns
  · next query other =>
    rw [InsertSource.rewrite, InsertSource.rewrite,
      query.rewrite_eq_of_same other equal]

theorem Insert.draft_eq_of_same {left right : Insert} (equal : left.same right)
    (ordered : (Statement.insert left).columnOrders = (Statement.insert right).columnOrders) :
    (left.rewrite .unsigned).draft dialect =
      (right.rewrite .unsigned).draft dialect := by
  simp only [same, Bool.and_eq_true] at equal
  obtain ⟨⟨⟨⟨⟨tables, target⟩, columns⟩, sources⟩, conflicts⟩, returned⟩ := equal
  simp only [Statement.columnOrders, List.cons.injEq, and_true] at ordered
  have drafted := insertSourceDraft_of_same dialect sources ordered.1
    (rewriteExprs .unsigned right.columns)
  have rest : left.rewrite .unsigned =
      { right.rewrite .unsigned with
        source := left.source.rewrite .unsigned } := by
    rw [rewrite, rewrite, left.commonTables.rewrite_eq_of_same _ tables,
      map_eq_of_sameOption target, rewriteExprs_eq_of_same _ _ columns,
      Conflict.map_eq_of_same conflicts ordered.2, rewriteExprs_eq_of_same _ _ returned]
  rw [rest]
  exact (right.rewrite .unsigned).draft_congr_source drafted

theorem Update.rewrite_eq_of_same {left right : Update} (equal : left.same right)
    (ordered : left.assignments.columns = right.assignments.columns) :
    left.rewrite .unsigned = right.rewrite .unsigned := by
  simp only [same, Bool.and_eq_true, decide_eq_true_eq] at equal
  obtain ⟨⟨⟨⟨⟨⟨⟨tables, target⟩, assignments⟩, further⟩, conditions⟩, order⟩, limit⟩, returned⟩ :=
    equal
  rw [rewrite, rewrite, left.commonTables.rewrite_eq_of_same _ tables,
    map_eq_of_sameOption target, left.assignments.rewrite_eq_of_same assignments ordered,
    rewriteExprs_eq_of_same _ _ further, rewriteExprs_eq_of_same _ _ conditions,
    rewriteExprs_eq_of_same _ _ order, limit, rewriteExprs_eq_of_same _ _ returned]

theorem Delete.rewrite_eq_of_same {left right : Delete} (equal : left.same right) :
    left.rewrite .unsigned = right.rewrite .unsigned := by
  simp only [same, Bool.and_eq_true, decide_eq_true_eq] at equal
  obtain ⟨⟨⟨⟨⟨tables, target⟩, conditions⟩, order⟩, limit⟩, returned⟩ := equal
  rw [rewrite, rewrite, left.commonTables.rewrite_eq_of_same _ tables,
    map_eq_of_sameOption target, rewriteExprs_eq_of_same _ _ conditions,
    rewriteExprs_eq_of_same _ _ order, limit, rewriteExprs_eq_of_same _ _ returned]

theorem Truncate.rewrite_eq_of_same {left right : Truncate} (equal : left.same right) :
    left.rewrite .unsigned = right.rewrite .unsigned := by
  simp only [same, Bool.and_eq_true, decide_eq_true_eq] at equal
  obtain ⟨⟨tables, restart⟩, scope⟩ := equal
  rw [rewrite, rewrite, rewriteExprs_eq_of_same _ _ tables, restart, scope]

/-- Equal statements that take the same orders of columns have the same draft, up to the signs of
zeros. -/
theorem Statement.draft_eq_of_same {left right : Statement} (equal : left.same right)
    (ordered : left.columnOrders = right.columnOrders) :
    (left.draft dialect).mapLiterals Value.unsigned =
      (right.draft dialect).mapLiterals Value.unsigned := by
  rw [← left.draft_mapLiterals Value.isReplacement_unsigned,
    ← right.draft_mapLiterals Value.isReplacement_unsigned, mapLiterals, mapLiterals]
  change (left.rewrite .unsigned).draft dialect = (right.rewrite .unsigned).draft dialect
  cases left <;> cases right <;> try cases equal
  · next query other =>
    rw [rewrite, rewrite, query.rewrite_eq_of_same other equal]
  · exact Insert.draft_eq_of_same dialect equal ordered
  · next change other =>
    rw [rewrite, rewrite, change.rewrite_eq_of_same equal (List.cons.inj ordered).1]
  · next deletion other => rw [rewrite, rewrite, deletion.rewrite_eq_of_same equal]
  · next emptying other => rw [rewrite, rewrite, emptying.rewrite_eq_of_same equal]

end Statements

end SqlDialects
