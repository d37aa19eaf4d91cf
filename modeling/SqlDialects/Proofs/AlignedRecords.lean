import SqlDialects.Dialect.Standard
import SqlDialects.Proofs.Draft.Insertion
import SqlDialects.Proofs.Outcome
import SqlDialects.Proofs.Records

/-!
Records as rows. Records that set the columns of the first one, in whatever order, are inserted as
the rows of their values in the order of the first one's columns; a record that sets other columns
is refused.
-/

namespace SqlDialects

open Draft

namespace Record

variable {first record other : Record}

def row (record : Record) (columns : List String) : List Expr :=
  columns.filterMap record.find?

/-- The same columns in any order. -/
def SameColumns (first record : Record) : Prop :=
  ∀ column, column ∈ record.columns ↔ column ∈ first.columns

theorem sets_iff_sameColumns : record.sets first.columns ↔ first.SameColumns record := by
  constructor
  · intro fits column
    exact (perm_columns_of_sets fits first.columns_nodup).mem_iff.symm
  · intro same
    have perm : record.columns.Perm first.columns :=
      (List.perm_ext_iff_of_nodup record.columns_nodup first.columns_nodup).mpr same
    simp only [sets, Bool.and_eq_true, decide_eq_true_eq, List.all_eq_true]
    refine ⟨?_, fun column member => isSome_find?_iff.mpr ((same column).mpr member)⟩
    simpa [size, columns] using perm.length_eq

theorem expressionDrafts_row {columns : List String}
    (found : ∀ column ∈ columns, column ∈ record.columns) (dialect : NamedDialect) :
    expressionDrafts dialect false (record.row columns) =
      record.alignedDrafts dialect columns := by
  induction columns with
  | nil => rfl
  | cons column rest ih =>
      obtain ⟨value, here⟩ :=
        Option.isSome_iff_exists.mp (isSome_find?_iff.mpr (found column List.mem_cons_self))
      have later := ih fun other member => found other (List.mem_cons_of_mem _ member)
      simp only [row, List.filterMap_cons, here, expressionDrafts, alignedDrafts, List.map_cons]
      exact congrArg _ later

theorem length_row {columns : List String} (found : ∀ column ∈ columns, column ∈ record.columns) :
    (record.row columns).length = columns.length := by
  have drafts := congrArg List.length (expressionDrafts_row found ⟨.standard, "default"⟩)
  simpa [expressionDrafts_eq_map, alignedDrafts] using drafts

theorem alike_of_perm (entries : record.entries.Perm other.entries)
    (duplicates : record.duplicates = other.duplicates) : record.Alike other where
  size := entries.length_eq
  duplicates := duplicates
  found := by
    intro column
    by_cases member : column ∈ record.columns
    · obtain ⟨entry, inside, rfl⟩ := List.mem_map.mp member
      rw [find?_eq_some_of_mem inside, find?_eq_some_of_mem (entries.mem_iff.mp inside)]
    · have missing : column ∉ other.columns :=
        fun inside => member ((entries.map Prod.fst).mem_iff.mpr inside)
      rw [find?_eq_none_of_not_mem member, find?_eq_none_of_not_mem missing]

end Record

section Faults

variable {columns : List String} {records : List Record}
  (unrepeated : ∀ record ∈ records, record.duplicates = [])

include unrepeated

theorem recordFaults_of_sets (fits : ∀ record ∈ records, record.sets columns) (index : Nat) :
    recordFaults columns index records = [] := by
  induction records generalizing index with
  | nil => rfl
  | cons record rest ih =>
      obtain ⟨here, later⟩ := List.forall_mem_cons.mp unrepeated
      obtain ⟨fit, fits⟩ := List.forall_mem_cons.mp fits
      simp [recordFaults, Record.duplicate?, here, fit, ih later fits]

theorem recordFaults_of_uneven (uneven : ∃ record ∈ records, ¬record.sets columns) (index : Nat) :
    ∃ before record after, records = before ++ record :: after ∧
      (∀ earlier ∈ before, earlier.sets columns) ∧ ¬record.sets columns ∧
      recordFaults columns index records = invalid (.unevenRecord (index + before.length)) := by
  induction records generalizing index with
  | nil => simp at uneven
  | cons record rest ih =>
      obtain ⟨here, later⟩ := List.forall_mem_cons.mp unrepeated
      by_cases fit : record.sets columns
      · have further : ∃ other ∈ rest, ¬other.sets columns := by
          simpa [fit] using uneven
        obtain ⟨before, other, after, rfl, even, odd, faults⟩ := ih later further (index + 1)
        refine ⟨record :: before, other, after, rfl, by simpa [fit] using even, odd, ?_⟩
        simp [recordFaults, Record.duplicate?, here, fit, faults, Nat.add_comm, Nat.add_left_comm]
      · refine ⟨[], record, rest, rfl, by simp, fit, ?_⟩
        simp [recordFaults, Record.duplicate?, here, fit]

end Faults

theorem rowFaults_of_width {width : Nat} (positive : width ≠ 0) {rows : List (List Expr)}
    (fits : ∀ row ∈ rows, row.length = width) (index : Nat) : rowFaults width index rows = [] := by
  induction rows generalizing index with
  | nil => rfl
  | cons row rest ih =>
      obtain ⟨fit, fits⟩ := List.forall_mem_cons.mp fits
      have filled : row ≠ [] := by
        rintro rfl
        exact positive fit.symm
      simp [rowFaults, filled, fit, ih fits]

theorem Dialect.identifierDraft_single (dialect : Dialect) {name : String} (named : name ≠ "") :
    dialect.identifierDraft (.single name) = dialect.nameDraft name := by
  have flawless : (Identifier.single name).flaw? = none := by
    simp [Identifier.single, Identifier.flaw?, Identifier.partsFlaw?, named]
  simp only [identifierDraft, flawless]
  simp [identifierText, Identifier.single, partText, nameDraft]

def Record.columnExprs (record : Record) : List Expr :=
  record.columns.map fun column => .identifier (.single column)

theorem Record.length_columnExprs (record : Record) : record.columnExprs.length = record.size := by
  simp [columnExprs, columns, size]

theorem recordsSourceDraft_of_filled {first : Record} (filled : first.isEmpty = false)
    (rest : List Record) (dialect : NamedDialect) :
    dialect.recordsSourceDraft [] (first :: rest) =
      recordFaults first.columns 0 (first :: rest)
        ++ columnList (first.columns.map dialect.nameDraft)
        ++ tuples ((first :: rest).map fun record =>
          record.alignedDrafts dialect first.columns) := by
  simp [NamedDialect.recordsSourceDraft, filled]

section Sources

variable {first : Record} {rest : List Record}
  (unrepeated : ∀ record ∈ first :: rest, record.duplicates = []) (filled : first.isEmpty = false)

include unrepeated filled

theorem recordsSourceDraft_eq_rowsSourceDraft (named : ∀ column ∈ first.columns, column ≠ "")
    (same : ∀ record ∈ first :: rest, first.SameColumns record) (dialect : NamedDialect) :
    dialect.recordsSourceDraft [] (first :: rest) =
      dialect.rowsSourceDraft first.columnExprs
        ((first :: rest).map fun record => record.row first.columns) := by
  have found : ∀ record ∈ first :: rest, ∀ column ∈ first.columns, column ∈ record.columns :=
    fun record member column inside => (same record member column).mpr inside
  have recordsFit : recordFaults first.columns 0 (first :: rest) = [] :=
    recordFaults_of_sets unrepeated
      (fun record member => Record.sets_iff_sameColumns.mpr (same record member)) 0
  have rowsFit : rowFaults first.columnExprs.length 0
      ((first :: rest).map fun record => record.row first.columns) = [] := by
    rw [first.length_columnExprs]
    refine rowFaults_of_width ?_ (List.forall_mem_map.mpr fun record member => ?_) 0
    · simpa [Record.size, Record.isEmpty] using filled
    · simpa [Record.size, Record.columns] using Record.length_row (found record member)
  have columns : expressionDrafts dialect false first.columnExprs =
      first.columns.map dialect.nameDraft := by
    rw [expressionDrafts_eq_map, Record.columnExprs, List.map_map]
    exact List.map_congr_left fun column member =>
      dialect.identifierDraft_single (named column member)
  have rows : ((first :: rest).map fun record => record.row first.columns).map
      (expressionDrafts dialect false) =
      (first :: rest).map fun record => record.alignedDrafts dialect first.columns := by
    rw [List.map_map]
    exact List.map_congr_left fun record member =>
      Record.expressionDrafts_row (found record member) dialect
  rw [recordsSourceDraft_of_filled filled, NamedDialect.rowsSourceDraft, if_neg (by simp),
    recordsFit, rowsFit, columns, rows]

theorem recordsSourceDraft_of_uneven
    (uneven : ∃ record ∈ first :: rest, ¬first.SameColumns record) (dialect : NamedDialect) :
    ∃ even record others draft, first :: rest = even ++ record :: others ∧
      (∀ earlier ∈ even, first.SameColumns earlier) ∧ ¬first.SameColumns record ∧
      dialect.recordsSourceDraft [] (first :: rest) =
        invalid (.unevenRecord even.length) ++ draft := by
  simp only [← Record.sets_iff_sameColumns] at uneven ⊢
  obtain ⟨even, record, others, parts, fits, odd, faults⟩ :=
    recordFaults_of_uneven unrepeated uneven 0
  rw [recordsSourceDraft_of_filled filled, faults, Nat.zero_add, List.append_assoc]
  exact ⟨even, record, others, _, parts, fits, odd, rfl⟩

end Sources

namespace Insert

def ofRecords (insertion : Insert) (records : List Record) : Insert :=
  { insertion with columns := [], source := .records records }

/-- The insertion of the rows that the records give in the order of the first one's columns. -/
def ofRows (insertion : Insert) (first : Record) (records : List Record) : Insert :=
  { insertion with
    columns := first.columnExprs
    source := .rows (records.map fun record => record.row first.columns) }

theorem draftAhead_ofRecords (insertion : Insert) (records : List Record) (dialect : NamedDialect) :
    (insertion.ofRecords records).draftAhead dialect .values =
      insertion.draftAhead dialect .values := by
  cases target : insertion.table with
  | none => simp only [draftAhead, ofRecords, target]
  | some table =>
      simp only [draftAhead, ofRecords, target]
      refine ahead_congr (fun clause other => ?_) _ _
      cases clause <;> first | rfl | exact absurd rfl other

end Insert

/-- Records that set the columns of the first one are inserted as rows in the order of its columns,
so the order of the columns in the later ones makes no difference; and an insertion that comes to a
record with other columns is refused. -/
theorem records_insert_as_rows (insertion : Insert) {first : Record} {rest : List Record}
    (unrepeated : ∀ record ∈ first :: rest, record.duplicates = [])
    (filled : first.isEmpty = false) (named : ∀ column ∈ first.columns, column ≠ "")
    (name : String) (dialect : Dialect) (mode : Mode) :
    ((∀ record ∈ first :: rest, first.SameColumns record) →
      compile (.insert (insertion.ofRecords (first :: rest))) name dialect mode =
        compile (.insert (insertion.ofRows first (first :: rest))) name dialect mode) ∧
    (∀ others, List.Forall₂ (fun record other : Record =>
        record.entries.Perm other.entries ∧ record.duplicates = other.duplicates) rest others →
      compile (.insert (insertion.ofRecords (first :: others))) name dialect mode =
        compile (.insert (insertion.ofRecords (first :: rest))) name dialect mode) ∧
    ((∃ record ∈ first :: rest, ¬first.SameColumns record) →
      .insertValues ∈ dialect.orders.insert →
      ∀ before, (insertion.draftAhead ⟨dialect, name⟩ .values).write
          (mode.writeValue ⟨dialect, name⟩) 0 = .ok before →
      ∃ even record others, first :: rest = even ++ record :: others ∧
        (∀ earlier ∈ even, first.SameColumns earlier) ∧ ¬first.SameColumns record ∧
        compile (.insert (insertion.ofRecords (first :: rest))) name dialect mode =
          .error (.invalid (.unevenRecord even.length))) := by
  refine ⟨fun same => ?_, fun others permuted => ?_, fun uneven listed before written => ?_⟩
  · exact compile_congr (insertion.draft_congr_source
      (recordsSourceDraft_eq_rowsSourceDraft unrepeated filled named same ⟨dialect, name⟩))
  · have alike : List.Forall₂ Record.Interchangeable (first :: others) (first :: rest) :=
      .cons (.refl first) (permuted.flip.imp fun _ _ ⟨entries, duplicates⟩ =>
        (Record.alike_of_perm entries.symm duplicates.symm).interchangeable)
    exact compile_congr (insertion.draft_congr_source
      (recordsSourceDraft_congr alike rfl ⟨dialect, name⟩ []))
  · obtain ⟨even, record, others, draft, parts, same, odd, source⟩ :=
      recordsSourceDraft_of_uneven unrepeated filled uneven ⟨dialect, name⟩
    refine ⟨even, record, others, parts, same, odd, ?_⟩
    have ahead := insertion.draftAhead_ofRecords (first :: rest) ⟨dialect, name⟩
    obtain ⟨table, later, -, whole⟩ := Insert.exists_draft_parts rfl listed
      (by simp [Insert.carried, carriedClauses]) (ahead ▸ clean_of_write_ok written)
    rw [ahead] at whole
    have refused : (insertion.ofRecords (first :: rest)).clauseDraft ⟨dialect, name⟩ table .values =
        invalid (.unevenRecord even.length) ++ draft := source
    rw [compile, Statement.draft, whole, refused, List.append_assoc, write_append, written]
    rfl

def insertScores : Insert :=
  { Insert.empty with table := some (.column "scores") }

def score (level points : Int64) : Record :=
  .ofList [("level", .literal (.integer level)), ("points", .literal (.integer points))]

def swappedScore (level points : Int64) : Record :=
  .ofList [("points", .literal (.integer points)), ("level", .literal (.integer level))]

def partialScore : Record :=
  .ofList [("level", .default)]

theorem records_insert_as_rows_scores :
    compile (.insert (insertScores.ofRecords [score 1 2, swappedScore 3 4])) "default" .standard
        .prepared =
      .ok ⟨"INSERT INTO \"scores\" (\"level\", \"points\") VALUES (?, ?), (?, ?)",
        [.integer 1, .integer 2, .integer 3, .integer 4]⟩ ∧
    compile (.insert (insertScores.ofRecords [score 1 2, score 3 4])) "default" .standard
        .prepared =
      compile (.insert (insertScores.ofRecords [score 1 2, swappedScore 3 4])) "default" .standard
        .prepared ∧
    ∃ index,
      compile (.insert (insertScores.ofRecords [score 1 2, partialScore])) "default" .standard
          .prepared = .error (.invalid (.unevenRecord index)) := by
  have named : ∀ column ∈ (score 1 2).columns, column ≠ "" := by decide
  have whole : ∀ record ∈ [score 1 2, swappedScore 3 4], record.duplicates = [] := by decide
  have part : ∀ record ∈ [score 1 2, partialScore], record.duplicates = [] := by decide
  obtain ⟨rows, permuted, -⟩ :=
    records_insert_as_rows insertScores whole rfl named "default" .standard .prepared
  obtain ⟨-, -, uneven⟩ :=
    records_insert_as_rows insertScores part rfl named "default" .standard .prepared
  refine ⟨(rows ?_).trans rfl, permuted [score 3 4] ?_, ?_⟩
  · intro record member
    exact Record.sets_iff_sameColumns.mp
      ((by decide : ∀ record ∈ [score 1 2, swappedScore 3 4], record.sets (score 1 2).columns)
        record member)
  · exact .cons ⟨List.Perm.swap _ _ _, rfl⟩ .nil
  · have different : ¬(score 1 2).SameColumns partialScore := by
      rw [← Record.sets_iff_sameColumns]
      decide
    obtain ⟨even, -, -, -, -, -, refused⟩ :=
      uneven ⟨partialScore, by simp, different⟩ (by decide) _ rfl
    exact ⟨even.length, refused⟩

end SqlDialects
