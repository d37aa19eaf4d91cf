import Mathlib.Data.List.Induction
import SqlDialects.Dialect.Postgres
import SqlDialects.Dialect.Standard
import SqlDialects.Proofs.Draft.Reaching
import SqlDialects.Proofs.Records

/-!
Records whose columns are set more than once. A record keeps the first value of each column and
knows the column that was first set again. A statement that comes to such a record fails there,
under every dialect.
-/

namespace SqlDialects

open Draft

/-- The first of the columns that is an earlier one again. -/
def FirstRepeated (columns : List String) (column : String) : Prop :=
  ∃ before after, columns = before ++ column :: after ∧ before.Nodup ∧ column ∈ before

theorem FirstRepeated.append {columns : List String} {column : String}
    (repeated : FirstRepeated columns column) (later : List String) :
    FirstRepeated (columns ++ later) column := by
  obtain ⟨before, after, rfl, nodup, member⟩ := repeated
  exact ⟨before, after ++ later, by simp, nodup, member⟩

namespace Record

section Set

variable (record : Record) (column : String) (value : Expr)

theorem find?_set (sought : String) :
    (record.set column value).find? sought =
      (record.find? sought).or (if sought = column then some value else none) := by
  by_cases present : column ∈ record.columns
  · have kept : (record.set column value).find? sought = record.find? sought := by
      simp [set, present, find?]
    rw [kept]
    by_cases same : sought = column
    · subst same
      rw [Option.or_of_isSome (isSome_find?_iff.mpr present)]
    · simp [same]
  · have found : (record.set column value).find? sought =
        (record.find? sought).or (([(column, value)].find? (·.1 = sought)).map Prod.snd) := by
      simp [set, present, find?, Option.map_or]
    rw [found]
    by_cases same : sought = column
    · simp [same]
    · simp [same, Ne.symm same]

theorem duplicate?_set :
    (record.set column value).duplicate? =
      record.duplicate?.or (if column ∈ record.columns then some column else none) := by
  by_cases present : column ∈ record.columns <;>
    cases known : record.duplicates <;> simp [set, present, duplicate?, known]

theorem entries_eq :
    (record.entries.map fun entry => (entry.1, some entry.2)) =
      record.columns.map fun column => (column, record.find? column) := by
  rw [columns, List.map_map]
  refine List.map_congr_left fun entry member => ?_
  rw [Function.comp_apply, find?_eq_some_of_mem member]

end Set

section Given

variable (given : List (String × Expr))

theorem ofList_concat (entry : String × Expr) :
    ofList (given ++ [entry]) = (ofList given).set entry.1 entry.2 := by
  simp [ofList]

theorem columns_ofList : (ofList given).columns = (given.map Prod.fst).eraseDups := by
  induction given using List.reverseRecOn with
  | nil => rfl
  | append_singleton given entry ih =>
      rw [ofList_concat, columns_set, ih, List.map_append, List.eraseDups_append]
      by_cases present : entry.1 ∈ given.map Prod.fst <;>
        simp [List.removeAll, List.eraseDups_cons, present]

theorem find?_ofList (column : String) : (ofList given).find? column = given.lookup column := by
  induction given using List.reverseRecOn with
  | nil => rfl
  | append_singleton given entry ih =>
      obtain ⟨name, value⟩ := entry
      rw [ofList_concat, find?_set, ih, List.lookup_append, List.lookup_cons, List.lookup_nil]
      by_cases same : column = name
      · simp [same]
      · simp [same, beq_eq_false_iff_ne.mpr same]

theorem duplicate?_ofList :
    (ofList given).duplicate? = none ∧ (given.map Prod.fst).Nodup ∨
      ∃ column, (ofList given).duplicate? = some column ∧
        FirstRepeated (given.map Prod.fst) column := by
  induction given using List.reverseRecOn with
  | nil => exact .inl ⟨rfl, List.nodup_nil⟩
  | append_singleton given entry ih =>
      rw [ofList_concat, duplicate?_set, List.map_append]
      rcases ih with ⟨none, nodup⟩ | ⟨column, some, repeated⟩
      · rw [none, columns_ofList]
        by_cases present : entry.1 ∈ given.map Prod.fst
        · refine .inr ⟨entry.1, ?_, given.map Prod.fst, [], rfl, nodup, present⟩
          simpa using present
        · refine .inl ⟨?_, nodup.append (List.nodup_singleton _) ?_⟩
          · simpa using present
          · simpa using present
      · exact .inr ⟨column, by simp [some], repeated.append _⟩

end Given

end Record

namespace Draft

/-- What an insertion checks before it comes to a record behind the earlier ones. -/
def recordChecks (columns : List Expr) (earlier : List Record) : Draft :=
  if !columns.isEmpty then invalid .columnsBesideRecords
  else
    match earlier with
    | [] => []
    | first :: _ =>
        if first.isEmpty then invalid .emptyFirstRecord else recordFaults first.columns 0 earlier

end Draft

/-- A statement that uses the record, and what it writes before it comes to that. -/
inductive Statement.ComesTo (dialect : NamedDialect) (record : Record) : Statement → Draft → Prop
  | assignments {change : Update} (assigned : change.assignments = record) :
      ComesTo dialect record (.update change)
        ((Statement.update change).leading dialect .assignments ++ ofText " SET ")
  | inserted {insertion : Insert} {earlier later : List Record}
      (source : insertion.source = .records (earlier ++ record :: later)) :
      ComesTo dialect record (.insert insertion)
        ((Statement.insert insertion).leading dialect .values
          ++ recordChecks insertion.columns earlier)
  | conflict {insertion : Insert} {target : List String} {condition : Option Expr}
      (conflict : insertion.conflict = some ⟨target, .update record condition⟩) :
      ComesTo dialect record (.insert insertion)
        ((Statement.insert insertion).leading dialect .conflict
          ++ (dialect.conflictFaults ⟨target, .update record condition⟩
            ++ (ofText dialect.keywords.onConflict
              ++ columnList (target.map dialect.nameDraft)
              ++ ofText dialect.keywords.doUpdate)))

section Failing

variable {record : Record} {column : String} (repeated : record.duplicate? = some column)
  (dialect : NamedDialect)

include repeated

theorem failsBehind_assignmentsDraft :
    (dialect.assignmentsDraft record).FailsBehind [] (.invalid (.duplicateColumn column)) := by
  rw [NamedDialect.assignmentsDraft, Record.duplicateDraft, repeated]
  exact (failsBehind_invalid _).append _

theorem failsBehind_conflictDraft (target : List String) (condition : Option Expr) :
    (dialect.conflictDraft ⟨target, .update record condition⟩).FailsBehind
      (dialect.conflictFaults ⟨target, .update record condition⟩
        ++ (ofText dialect.keywords.onConflict ++ columnList (target.map dialect.nameDraft)
          ++ ofText dialect.keywords.doUpdate))
      (.invalid (.duplicateColumn column)) := by
  rw [NamedDialect.conflictDraft, Dialect.ignoresConflict_update, if_neg Bool.false_ne_true]
  apply FailsBehind.behind
  have failing := (failsBehind_assignmentsDraft repeated dialect).behind
    (ofText dialect.keywords.onConflict ++ columnList (target.map dialect.nameDraft)
      ++ ofText dialect.keywords.doUpdate)
  simpa only [NamedDialect.conflictActionDraft, List.append_assoc, List.append_nil] using
    failing.append _

theorem failsBehind_recordFaults (columns : List String) (index : Nat)
    (earlier later : List Record) :
    (recordFaults columns index (earlier ++ record :: later)).FailsBehind
      (recordFaults columns index earlier) (.invalid (.duplicateColumn column)) := by
  induction earlier generalizing index with
  | nil =>
      simp only [List.nil_append, recordFaults, repeated]
      exact failsBehind_invalid _
  | cons other rest ih =>
      rw [List.cons_append, recordFaults, recordFaults]
      split
      · exact failsBehind_fault _ _ _ _
      · split
        · exact ih (index + 1)
        · exact failsBehind_fault _ _ _ _

variable (filled : record.isEmpty = false)

include filled

theorem failsBehind_recordsSourceDraft (columns : List Expr) (earlier later : List Record) :
    (dialect.recordsSourceDraft columns (earlier ++ record :: later)).FailsBehind
      (recordChecks columns earlier) (.invalid (.duplicateColumn column)) := by
  unfold NamedDialect.recordsSourceDraft recordChecks
  split
  · exact failsBehind_fault _ _ _ _
  · cases earlier with
    | nil =>
        have failing : (recordFaults record.columns 0 (record :: later)).FailsBehind []
            (.invalid (.duplicateColumn column)) :=
          failsBehind_recordFaults repeated record.columns 0 [] later
        simpa [filled] using (failing.append _).append _
    | cons first rest =>
        simp only [List.cons_append]
        split
        · exact failsBehind_fault _ _ _ _
        · have failing := failsBehind_recordFaults repeated first.columns 0 (first :: rest) later
          exact (failing.append _).append _

theorem Statement.ComesTo.failsBehind {statement : Statement} {ahead : Draft}
    (comes : statement.ComesTo dialect record ahead) :
    (statement.draft dialect).FailsBehind ahead (.invalid (.duplicateColumn column)) := by
  cases comes with
  | @assignments change assigned =>
      refine failsBehind_leading (by simp [carried, Update.carried, carriedClauses]) fun named => ?_
      obtain ⟨table, same⟩ := Option.isSome_iff_exists.mp named
      rw [portion?_update same]
      refine ⟨_, change.startsWith_assignments dialect table, ?_⟩
      have assignments := failsBehind_assignmentsDraft repeated dialect
      simpa [Update.assignmentsDraft, assigned, filled] using assignments.behind (ofText " SET ")
  | @inserted insertion earlier later source =>
      refine failsBehind_leading (by simp [carried, Insert.carried, carriedClauses]) fun named => ?_
      obtain ⟨table, same⟩ := Option.isSome_iff_exists.mp named
      rw [portion?_insert same]
      refine ⟨_, insertion.startsWith dialect table .values, ?_⟩
      rw [Insert.clauseDraft, source]
      exact failsBehind_recordsSourceDraft repeated dialect filled insertion.columns earlier later
  | @conflict insertion target condition conflict =>
      refine failsBehind_leading (by simp [carried, Insert.carried, carriedClauses, conflict])
        fun named => ?_
      obtain ⟨table, same⟩ := Option.isSome_iff_exists.mp named
      rw [portion?_insert same]
      refine ⟨_, insertion.startsWith dialect table .conflict, ?_⟩
      rw [Insert.clauseDraft, conflict]
      exact failsBehind_conflictDraft repeated dialect target condition

end Failing

theorem Record.isEmpty_ofList_of_repeated {given : List (String × Expr)} {column : String}
    (repeated : FirstRepeated (given.map Prod.fst) column) : (ofList given).isEmpty = false := by
  obtain ⟨before, after, split, -, member⟩ := repeated
  have kept : column ∈ (ofList given).columns := by
    simp [columns_ofList, split, member]
  obtain ⟨entry, inside, -⟩ := List.mem_map.mp kept
  simpa [isEmpty] using List.ne_nil_of_mem inside

/-- A record has each column once, in the order in which they were first set, with the value that
was set first. If a column is set again, a statement that comes to the record never compiles: it
fails as what it writes ahead of the record does, or else by the first repeated column. -/
theorem repeated_columns_refused (given : List (String × Expr)) :
    (Record.ofList given).columns = (given.map Prod.fst).eraseDups ∧
    (Record.ofList given).columns.Nodup ∧
    (Record.ofList given).size = (Record.ofList given).columns.length ∧
    (∀ column, (Record.ofList given).find? column = given.lookup column) ∧
    ((Record.ofList given).entries.map fun entry => (entry.1, some entry.2)) =
      ((Record.ofList given).columns.map fun column => (column, given.lookup column)) ∧
    (¬(given.map Prod.fst).Nodup →
      ∃ column, FirstRepeated (given.map Prod.fst) column ∧
      ∀ name dialect statement ahead,
      statement.ComesTo ⟨dialect, name⟩ (Record.ofList given) ahead →
      ∀ mode,
        (∀ compiled, compile statement name dialect mode ≠ .ok compiled) ∧
        (∀ failure, ahead.write (mode.writeValue ⟨dialect, name⟩) 0 = .error failure →
          compile statement name dialect mode = .error failure) ∧
        ∀ written, ahead.write (mode.writeValue ⟨dialect, name⟩) 0 = .ok written →
          compile statement name dialect mode = .error (.invalid (.duplicateColumn column))) := by
  have sized : (Record.ofList given).size = (Record.ofList given).columns.length := by
    simp [Record.size, Record.columns]
  have paired : ((Record.ofList given).entries.map fun entry => (entry.1, some entry.2)) =
      ((Record.ofList given).columns.map fun column => (column, given.lookup column)) := by
    simp only [Record.entries_eq, Record.find?_ofList]
  refine ⟨Record.columns_ofList given, (Record.ofList given).columns_nodup, sized,
    Record.find?_ofList given, paired, fun repeats => ?_⟩
  rcases Record.duplicate?_ofList given with ⟨-, nodup⟩ | ⟨column, known, repeated⟩
  · exact absurd nodup repeats
  · have filled := Record.isEmpty_ofList_of_repeated repeated
    exact ⟨column, repeated, fun name dialect statement ahead comes =>
      compile_of_failsBehind (comes.failsBehind known ⟨dialect, name⟩ filled)⟩

def repeatedScore : List (String × Expr) :=
  [("level", .literal (.integer 1)), ("points", .literal (.integer 2)),
    ("points", .literal (.integer 3)), ("level", .literal (.integer 4))]

def updateRepeated : Update :=
  { Update.empty with table := some (.column "scores"), assignments := .ofList repeatedScore }

def defaultScore : Record :=
  .ofList [("points", .default), ("level", .default)]

def insertRepeated : Insert :=
  { Insert.empty with
    table := some (.column "scores")
    source := .records [defaultScore, .ofList repeatedScore] }

def upsertRepeated : Insert :=
  { Insert.empty with
    table := some (.column "scores")
    conflict := some ⟨["id"], .update (.ofList repeatedScore) none⟩ }

theorem repeated_columns_refused_scores :
    ¬(repeatedScore.map Prod.fst).Nodup ∧
    ∃ column, FirstRepeated (repeatedScore.map Prod.fst) column ∧
      compile (.update updateRepeated) "default" .standard .prepared =
        .error (.invalid (.duplicateColumn column)) ∧
      compile (.insert insertRepeated) "default" .standard .inline =
        .error (.invalid (.duplicateColumn column)) ∧
      compile (.insert upsertRepeated) "postgres" .postgres .inline =
        .error (.invalid (.duplicateColumn column)) := by
  have repeats : ¬(repeatedScore.map Prod.fst).Nodup := by decide
  obtain ⟨column, first, refused⟩ := (repeated_columns_refused repeatedScore).2.2.2.2.2 repeats
  have inserted : (Statement.insert insertRepeated).ComesTo ⟨.standard, "default"⟩
      (.ofList repeatedScore)
      ((Statement.insert insertRepeated).leading ⟨.standard, "default"⟩ .values
        ++ recordChecks [] [defaultScore]) := .inserted rfl
  exact ⟨repeats, column, first,
    (refused "default" .standard _ _ (.assignments rfl) .prepared).2.2 _ rfl,
    (refused "default" .standard _ _ inserted .inline).2.2 _ rfl,
    (refused "postgres" .postgres _ _ (.conflict rfl) .inline).2.2 _ rfl⟩

end SqlDialects
