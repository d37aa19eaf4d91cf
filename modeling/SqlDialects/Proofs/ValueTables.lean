import SqlDialects.Proofs.AlignedRecords
import SqlDialects.Proofs.Draft.Listing

/-!
The tuples that an insertion writes behind `VALUES`. Rows are measured by the list of columns, and
records by the columns of the first one; rows without a list are measured by nothing.
-/

namespace SqlDialects

open Draft

/-- All rows have the same length. -/
def Rectangular {α : Type} (rows : List (List α)) : Prop :=
  ∀ first ∈ rows, ∀ second ∈ rows, first.length = second.length

/-- The texts of an insertion's columns and of its tuples. -/
structure ValueTable where
  columns : List String
  tuples : List (List String)

namespace ValueTable

def tupleText (tuple : List String) : String :=
  "(" ++ ", ".intercalate tuple ++ ")"

def text (table : ValueTable) : String :=
  columnListText table.columns ++ " VALUES " ++ ", ".intercalate (table.tuples.map tupleText)

end ValueTable

/-- The rows of a source; those of records hold the values for the first one's columns. -/
def InsertSource.rows? : InsertSource → Option (List (List Expr))
  | .rows cells => some cells
  | .records [] => some []
  | .records (first :: rest) => some ((first :: rest).map fun record => record.row first.columns)
  | .query _ | .defaultValues => none

namespace Insert

def columnDrafts (insertion : Insert) (dialect : NamedDialect) : List Draft :=
  match insertion.source with
  | .records (first :: _) => first.columns.map dialect.nameDraft
  | _ => expressionDrafts dialect false insertion.columns

/-- Behind what is ahead of the values, an insertion writes the table of its columns and rows. -/
structure Tabulates (insertion : Insert) (dialect : NamedDialect) (mode : Mode)
    (rows : List (List Expr)) (table : ValueTable) (compiled : Compiled) : Prop where
  placed : ∃ before after,
    (insertion.draftAhead dialect .values).write (mode.writeValue dialect) 0 = .ok before ∧
    compiled.sql = before.sql ++ table.text ++ after
  columns : List.Forall₂ (fun draft text => draft.WrittenAs dialect mode text)
    (insertion.columnDrafts dialect) table.columns
  tuples : List.Forall₂
    (List.Forall₂ fun expr text => (expr.draft dialect false).WrittenAs dialect mode text)
    rows table.tuples

end Insert

section Widths

theorem rowFaults_of_clean {columns index : Nat} {rows : List (List Expr)}
    (clean : (rowFaults columns index rows).Clean) :
    rowFaults columns index rows = [] ∧
      ∀ row ∈ rows, row ≠ [] ∧ (columns ≠ 0 → row.length = columns) := by
  fun_induction rowFaults columns index rows with
  | case1 => simp
  | case2 => simp at clean
  | case3 => simp at clean
  | case4 index row rest filled fits ih =>
      obtain ⟨none, each⟩ := ih clean
      refine ⟨none, List.forall_mem_cons.mpr ⟨⟨by simpa using filled, ?_⟩, each⟩⟩
      simpa using fits

theorem recordFaults_of_clean {columns : List String} {index : Nat} {records : List Record}
    (clean : (recordFaults columns index records).Clean) :
    recordFaults columns index records = [] := by
  have fits := clean_recordFaults clean
  refine recordFaults_of_sets (fun record member => ?_)
    (fun record member => (fits record member).2)
    index
  exact List.head?_eq_none_iff.mp (fits record member).1

variable {dialect : NamedDialect} {columns : List Expr}

theorem rowsSourceDraft_of_clean {rows : List (List Expr)}
    (clean : (dialect.rowsSourceDraft columns rows).Clean) :
    rows ≠ [] ∧ (∀ row ∈ rows, row ≠ [] ∧ (columns ≠ [] → row.length = columns.length)) ∧
      dialect.rowsSourceDraft columns rows =
        columnList (expressionDrafts dialect false columns)
          ++ tuples (rows.map (expressionDrafts dialect false)) := by
  rw [NamedDialect.rowsSourceDraft] at clean ⊢
  split at clean
  · simp at clean
  · next some =>
    rw [List.append_assoc] at clean
    obtain ⟨faultless, each⟩ := rowFaults_of_clean ((clean_append _ _).mp clean).1
    refine ⟨by simpa using some, fun row member => ⟨(each row member).1, fun listed => ?_⟩, ?_⟩
    · exact (each row member).2 (by simpa using listed)
    · rw [if_neg some, faultless, List.nil_append]

theorem recordsSourceDraft_of_clean {records : List Record}
    (clean : (dialect.recordsSourceDraft columns records).Clean) :
    columns = [] ∧ ∃ first rest, records = first :: rest ∧ first.columns ≠ [] ∧
      (∀ record ∈ records, (record.row first.columns).length = first.columns.length) ∧
      dialect.recordsSourceDraft columns records =
        columnList (first.columns.map dialect.nameDraft)
          ++ tuples ((records.map fun record => record.row first.columns).map
            (expressionDrafts dialect false)) := by
  have listless : columns = [] := by
    cases columns with
    | nil => rfl
    | cons column others => simp [NamedDialect.recordsSourceDraft] at clean
  subst listless
  cases records with
  | nil => simp [NamedDialect.recordsSourceDraft] at clean
  | cons first rest =>
      cases filled : first.isEmpty with
      | true => simp [NamedDialect.recordsSourceDraft, filled] at clean
      | false =>
          rw [recordsSourceDraft_of_filled filled, List.append_assoc] at clean ⊢
          have faultless := recordFaults_of_clean ((clean_append _ _).mp clean).1
          have found : ∀ record ∈ first :: rest, ∀ column ∈ first.columns,
              column ∈ record.columns := by
            intro record member column inside
            have fits := (clean_recordFaults ((clean_append _ _).mp clean).1 record member).2
            exact (Record.perm_columns_of_sets fits first.columns_nodup).mem_iff.mp inside
          refine ⟨rfl, first, rest, rfl, ?_, ?_, ?_⟩
          · simpa [Record.isEmpty, Record.columns] using filled
          · exact fun record member => Record.length_row (found record member)
          · rw [faultless, List.nil_append, List.map_map]
            congr 2
            exact List.map_congr_left fun record member =>
              (Record.expressionDrafts_row (found record member) dialect).symm

end Widths

namespace Insert

variable {insertion : Insert} {dialect : NamedDialect} {rows : List (List Expr)}

theorem sourceDraft_of_clean (given : insertion.source.rows? = some rows)
    (clean : (dialect.insertSourceDraft insertion.columns insertion.source).Clean) :
    rows ≠ [] ∧ (∀ row ∈ rows, row ≠ []) ∧
      (insertion.columnDrafts dialect ≠ [] →
        ∀ row ∈ rows, row.length = (insertion.columnDrafts dialect).length) ∧
      (insertion.columnDrafts dialect = [] ↔
        insertion.columns = [] ∧ insertion.source = .rows rows) ∧
      dialect.insertSourceDraft insertion.columns insertion.source =
        columnList (insertion.columnDrafts dialect)
          ++ tuples (rows.map (expressionDrafts dialect false)) := by
  cases source : insertion.source with
  | query query => simp [source, InsertSource.rows?] at given
  | defaultValues => simp [source, InsertSource.rows?] at given
  | rows cells =>
      obtain rfl : cells = rows := by simpa [source, InsertSource.rows?] using given
      rw [source] at clean
      obtain ⟨some, each, drafted⟩ := rowsSourceDraft_of_clean clean
      have columns : insertion.columnDrafts dialect =
          expressionDrafts dialect false insertion.columns := by simp [columnDrafts, source]
      rw [columns]
      refine ⟨some, fun row member => (each row member).1, fun listed row member => ?_, ?_, drafted⟩
      · have named : insertion.columns ≠ [] := by simpa [expressionDrafts_eq_map] using listed
        rw [(each row member).2 named, expressionDrafts_eq_map, List.length_map]
      · simp [expressionDrafts_eq_map]
  | records records =>
      rw [source] at clean
      obtain ⟨listless, first, rest, rfl, filled, widths, drafted⟩ :=
        recordsSourceDraft_of_clean clean
      obtain rfl : (first :: rest).map (fun record => record.row first.columns) = rows := by
        simpa [source, InsertSource.rows?] using given
      have columns : insertion.columnDrafts dialect = first.columns.map dialect.nameDraft := by
        simp [columnDrafts, source]
      rw [columns]
      refine ⟨by simp, List.forall_mem_map.mpr fun record member => ?_, fun _ =>
        List.forall_mem_map.mpr fun record member => ?_, by simp [filled], drafted⟩
      · exact List.ne_nil_of_length_pos (widths record member ▸ List.length_pos_iff.mpr filled)
      · rw [widths record member, List.length_map]

end Insert

section Tables

variable {dialect : NamedDialect} {mode : Mode} {rows : List (List Expr)}

theorem Draft.WrittenAs.tuples {text : String}
    (done : (Draft.tuples (rows.map (expressionDrafts dialect false))).WrittenAs dialect mode
      text) :
    ∃ tuples : List (List String),
      List.Forall₂
        (List.Forall₂ fun expr text => (expr.draft dialect false).WrittenAs dialect mode text)
        rows tuples ∧
      text = " VALUES " ++ ", ".intercalate (tuples.map ValueTable.tupleText) := by
  obtain ⟨_, _, keyword, written, rfl⟩ := done.append
  obtain rfl := (writtenAs_ofText _).mp keyword
  obtain ⟨texts, each, rfl⟩ := written.separated
  clear done written
  suffices tupled : ∃ tuples : List (List String),
      List.Forall₂
        (List.Forall₂ fun expr text => (expr.draft dialect false).WrittenAs dialect mode text)
        rows tuples ∧ texts = tuples.map ValueTable.tupleText by
    obtain ⟨tuples, cells, rfl⟩ := tupled
    exact ⟨tuples, cells, rfl⟩
  rw [List.map_map, List.forall₂_map_left_iff] at each
  induction each with
  | nil => exact ⟨[], .nil, rfl⟩
  | cons here _ ih =>
      obtain ⟨_, inside, rfl⟩ := writtenAs_enclosed.mp here
      obtain ⟨tuple, cells, rfl⟩ := inside.separated
      rw [expressionDrafts_eq_map, List.forall₂_map_left_iff] at cells
      obtain ⟨others, each, rfl⟩ := ih
      exact ⟨tuple :: others, .cons cells each, rfl⟩

theorem Insert.exists_table_of_write {columns : List Draft} {count : Nat} {written : Compiled}
    (done : (columnList columns ++ Draft.tuples (rows.map (expressionDrafts dialect false))).write
      (mode.writeValue dialect) count = .ok written) :
    ∃ table : ValueTable, written.sql = table.text ∧
      List.Forall₂ (fun draft text => draft.WrittenAs dialect mode text) columns table.columns ∧
      List.Forall₂
        (List.Forall₂ fun expr text => (expr.draft dialect false).WrittenAs dialect mode text)
        rows table.tuples := by
  obtain ⟨_, _, listed, behind, whole⟩ := Draft.WrittenAs.append ⟨count, written, done, rfl⟩
  obtain ⟨columnTexts, columnsWritten, rfl⟩ := listed.columnList
  obtain ⟨tuples, tuplesWritten, rfl⟩ := behind.tuples
  exact ⟨⟨columnTexts, tuples⟩, by simp [whole, ValueTable.text, String.append_assoc],
    columnsWritten, tuplesWritten⟩

end Tables

section Lengths

variable {α β : Type} {related : α → β → Prop} {rows : List (List α)} {tuples : List (List β)}
  (each : List.Forall₂ (List.Forall₂ related) rows tuples)

include each

theorem forall_length_iff (fits : Nat → Prop) :
    (∀ tuple ∈ tuples, fits tuple.length) ↔ ∀ row ∈ rows, fits row.length := by
  induction each with
  | nil => simp
  | cons here _ ih => simp only [List.forall_mem_cons, ih, here.length_eq]

theorem rectangular_iff : Rectangular tuples ↔ Rectangular rows := by
  simp only [Rectangular]
  rw [forall_length_iff each fun length => ∀ second ∈ tuples, length = second.length]
  exact forall₂_congr fun first _ => forall_length_iff each fun length => first.length = length

end Lengths

section Outcome

variable {insertion : Insert} {rows : List (List Expr)} {name : String} {dialect : Dialect}
  {mode : Mode} {compiled : Compiled}
  (given : insertion.source.rows? = some rows)

include given

theorem Insert.exists_tabulates
    (done : compile (.insert insertion) name dialect mode = .ok compiled) :
    (NamedDialect.insertSourceDraft ⟨dialect, name⟩ insertion.columns insertion.source).Clean ∧
      ∃ table, insertion.Tabulates ⟨dialect, name⟩ mode rows table compiled := by
  have clean : (insertion.draft ⟨dialect, name⟩).Clean := clean_of_compile_eq_ok done
  obtain ⟨target, later, -, whole⟩ :=
    exists_clause_parts .values (by simp [carried, carriedClauses]) clean
  rw [compile, Statement.draft, whole, write_append_eq_ok_iff] at done
  obtain ⟨through, after, led, -, rfl⟩ := done
  obtain ⟨before, values, started, written, rfl⟩ := write_append_eq_ok_iff.mp led
  change (NamedDialect.insertSourceDraft ⟨dialect, name⟩ insertion.columns
    insertion.source).write _ _ = _ at written
  have faultless := clean_of_write_ok written
  obtain ⟨-, -, -, -, drafted⟩ := sourceDraft_of_clean given faultless
  rw [drafted] at written
  obtain ⟨table, text, columns, tuples⟩ := exists_table_of_write written
  exact ⟨faultless, table, ⟨before, after.sql, started, by simp [Compiled.append, text]⟩, columns,
    tuples⟩

/-- All tuples that an insertion writes are filled, and where a list of columns is written each
has as many expressions as there are columns. Only rows that are given without columns are written
without a list, and their tuples are as long as they are. -/
theorem inserted_tuples_rectangular
    (done : compile (.insert insertion) name dialect mode = .ok compiled) :
    ∃ table, insertion.Tabulates ⟨dialect, name⟩ mode rows table compiled ∧
      table.tuples ≠ [] ∧ (∀ tuple ∈ table.tuples, tuple ≠ []) ∧
      (table.columns ≠ [] → ∀ tuple ∈ table.tuples, tuple.length = table.columns.length) ∧
      (table.columns = [] ↔ insertion.columns = [] ∧ insertion.source = .rows rows) ∧
      (Rectangular table.tuples ↔ table.columns ≠ [] ∨ Rectangular rows) := by
  obtain ⟨clean, table, written⟩ := Insert.exists_tabulates given done
  obtain ⟨some, filled, widths, listless, -⟩ := Insert.sourceDraft_of_clean given clean
  have columns := written.columns
  have tuples := written.tuples
  have sameColumns : table.columns = [] ↔ insertion.columnDrafts ⟨dialect, name⟩ = [] := by
    rw [← List.length_eq_zero_iff, ← columns.length_eq, List.length_eq_zero_iff]
  have fits : table.columns ≠ [] →
      ∀ tuple ∈ table.tuples, tuple.length = table.columns.length := by
    intro listed
    rw [forall_length_iff tuples (· = table.columns.length), ← columns.length_eq]
    exact widths fun none => listed (sameColumns.mpr none)
  refine ⟨table, written, ?_, ?_, fits, sameColumns.trans listless, ?_⟩
  · rw [← List.length_pos_iff, ← tuples.length_eq, List.length_pos_iff]
    exact some
  · simp only [← List.length_pos_iff] at filled ⊢
    exact (forall_length_iff tuples (0 < ·)).mpr filled
  · refine ⟨fun even => .inr ((rectangular_iff tuples).mp even), ?_⟩
    rintro (listed | even)
    · intro first here second there
      rw [fits listed first here, fits listed second there]
    · exact (rectangular_iff tuples).mpr even

end Outcome

def swappedScores : Insert :=
  insertScores.ofRecords [score 1 2, swappedScore 3 4]

theorem inserted_tuples_rectangular_scores :
    ∃ rows compiled, swappedScores.source.rows? = some rows ∧
      compile (.insert swappedScores) "default" .standard .prepared = .ok compiled ∧
      ∃ table, swappedScores.Tabulates ⟨.standard, "default"⟩ .prepared rows table compiled ∧
        Rectangular table.tuples := by
  have done : compile (.insert swappedScores) "default" .standard .prepared = .ok _ := rfl
  obtain ⟨table, written, -, -, -, listless, rectangular⟩ := inserted_tuples_rectangular rfl done
  refine ⟨_, _, rfl, done, table, written, rectangular.mpr (.inl fun none => ?_)⟩
  simpa [swappedScores, Insert.ofRecords] using (listless.mp none).2

def raggedScores : Insert :=
  { insertScores with
    source := .rows [[.literal (.integer 1), .literal (.integer 2)], [.literal (.integer 3)]] }

theorem ragged_rows_compile :
    ∃ rows compiled, raggedScores.source.rows? = some rows ∧
      compile (.insert raggedScores) "default" .standard .inline = .ok compiled ∧
      compiled.sql = "INSERT INTO \"scores\" VALUES (1, 2), (3)" ∧
      raggedScores.Tabulates ⟨.standard, "default"⟩ .inline rows
        ⟨[], [["1", "2"], ["3"]]⟩ compiled ∧
      ∀ table, raggedScores.Tabulates ⟨.standard, "default"⟩ .inline rows table compiled →
        ¬Rectangular table.tuples := by
  refine ⟨_, _, rfl, rfl, rfl, ⟨⟨⟨"INSERT INTO \"scores\"", []⟩, "", rfl, rfl⟩, .nil, ?_⟩, ?_⟩
  · exact .cons (.cons ⟨0, _, rfl, rfl⟩ (.cons ⟨0, _, rfl, rfl⟩ .nil))
      (.cons (.cons ⟨0, _, rfl, rfl⟩ .nil) .nil)
  · intro table written
    rw [rectangular_iff written.tuples]
    simp [Rectangular]

end SqlDialects
