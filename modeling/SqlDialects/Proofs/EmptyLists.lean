import SqlDialects.Proofs.ClauseLists
import SqlDialects.Proofs.Mending

/-!
Statements with empty lists. Wherever a list is written it has an element, `DISTINCT ON` apart, and
what gives an empty list instead is an invalid expression as soon as nothing else is wrong.
-/

namespace SqlDialects

open Draft

/-- A query that joins by an empty list of columns. -/
def Subterm.GivesEmptyList : Subterm → Prop
  | .expr _ => False
  | .query whole => ∃ join ∈ whole.joins, join.condition = .using []

namespace Statement

def OwnsEmptyList : Statement → Prop
  | .select _ | .delete _ => False
  | .insert insertion =>
      insertion.source.GivesEmptyList ∨
        ∃ conflict ∈ insertion.conflict, conflict.action.GivesEmptyList
  | .update change => change.assignments.isEmpty
  | .truncate truncation => truncation.tables.isEmpty

/-- Whether a statement gives an empty list where one must be written, at any depth. -/
def GivesEmptyList (statement : Statement) : Prop :=
  statement.OwnsEmptyList ∨ ∃ subterm ∈ statement.subterms, subterm.GivesEmptyList

variable {statement : Statement} {dialect : NamedDialect}

theorem filled_of_clean (clean : (statement.draft dialect).Clean) (place : ListPlace)
    (asks : place ≠ .distinctOn ∧ place.isOptional = false) :
    ⟨place, []⟩ ∉ statement.lists dialect := by
  intro given
  rcases (lists_within clean _ given).2 rfl with distinct | optional
  · exact asks.1 distinct
  · exact Bool.false_ne_true (asks.2.symm.trans optional)

theorem not_clean_of_ownsEmptyList (empty : statement.OwnsEmptyList) :
    ¬(statement.draft dialect).Clean := by
  intro clean
  have owned : ∀ list ∈ statement.ownLists dialect, list ∈ statement.lists dialect :=
    fun _ => List.mem_append_left _
  cases statement with
  | select _ | delete _ => exact empty
  | insert insertion =>
      rcases empty with source | ⟨⟨target, action⟩, given, assigns⟩
      · obtain ⟨table, -, part⟩ := Insert.within_clauses clean
        have values := clean_of_within clean (part .values (by simp [Insert.carried]))
        obtain ⟨defect, rest, drafted⟩ := insertSourceDraft_of_empty source
        rw [Insert.clauseDraft, drafted] at values
        simp at values
      · cases action with
        | nothing => exact assigns
        | update assignments condition =>
            have entries : assignments.entries = [] := List.isEmpty_iff.mp assigns
            refine filled_of_clean clean .conflictAssignments (by decide) (owned _ ?_)
            simp [ownLists, Option.mem_def.mp given, Conflict.lists, entries]
  | update change =>
      have entries : change.assignments.entries = [] := List.isEmpty_iff.mp empty
      refine filled_of_clean clean .assignments (by decide) (owned _ ?_)
      simp [ownLists, entries]
  | truncate truncation =>
      have tables : truncation.tables = [] := List.isEmpty_iff.mp empty
      refine filled_of_clean clean .truncatedTables (by decide) (owned _ ?_)
      simp [ownLists, tables, expressionDrafts]

theorem not_clean_of_givesEmptyList (empty : statement.GivesEmptyList) :
    ¬(statement.draft dialect).Clean := by
  rcases empty with own | ⟨subterm, member, inside⟩
  · exact not_clean_of_ownsEmptyList own
  intro clean
  cases subterm with
  | expr _ => exact inside
  | query whole =>
      obtain ⟨join, joined, listless⟩ := inside
      have within : ⟨.joinColumns, []⟩ ∈ (Subterm.query whole).lists dialect := by
        refine List.mem_append_right _ (List.mem_flatMap.mpr ⟨join, joined, ?_⟩)
        simp [listless, JoinCondition.lists]
      exact filled_of_clean clean .joinColumns (by decide)
        (List.mem_append_right _ (List.mem_flatMap.mpr ⟨_, member, within⟩))

end Statement

section Outcome

variable {statement : Statement} {name : String} {dialect : Dialect} {mode : Mode}

theorem exists_list_of_compile {compiled : Compiled}
    (done : compile statement name dialect mode = .ok compiled) {list : ClauseList}
    (given : list ∈ statement.lists ⟨dialect, name⟩) :
    ∃ before texts after,
      List.Forall₂ (fun draft text => draft.WrittenAs ⟨dialect, name⟩ mode text) list.items texts ∧
      compiled.sql = before ++ list.place.text dialect texts ++ after ∧
      (texts = [] → list.place = .distinctOn ∨ list.place.text dialect texts = "") := by
  obtain ⟨inside, checked⟩ := Statement.lists_within (clean_of_compile_eq_ok done) list given
  obtain ⟨before, _, after, written, whole⟩ :=
    exists_text_of_within inside done
  obtain ⟨texts, each, rfl⟩ := ListPlace.texts_of_writtenAs written
  refine ⟨before, texts, after, each, whole, ?_⟩
  rintro rfl
  refine (checked (List.forall₂_nil_right_iff.mp each)).imp_right fun optional => ?_
  cases place : list.place <;> simp_all [ListPlace.isOptional, ListPlace.text, columnListText]

theorem compile_eq_error_of_fill {filling : Filling} {compiled : Compiled}
    (empty : statement.GivesEmptyList)
    (done : compile (statement.fill filling) name dialect mode = .ok compiled) :
    ∃ defect, compile statement name dialect mode = .error (.invalid defect) := by
  rw [compile] at done
  rcases statement.draft_fill filling 0 compiled done with same | ⟨defect, failed⟩
  · rw [← same] at done
    exact absurd (clean_of_write_ok done) (Statement.not_clean_of_givesEmptyList empty)
  · exact ⟨defect, failed⟩

/-- In a compiled statement every list stands in the text of its clause with its elements in their
order. If it has none, it is the list of `DISTINCT ON`, or nothing is written for it. A statement
that gives an empty list where one must be written never compiles, and it is an invalid expression
if it compiles as soon as its empty lists are filled. -/
theorem empty_lists_refused (statement : Statement) (name : String) (dialect : Dialect)
    (mode : Mode) :
    (∀ compiled, compile statement name dialect mode = .ok compiled →
      ∀ list ∈ statement.lists ⟨dialect, name⟩, ∃ before texts after,
        List.Forall₂ (fun draft text => draft.WrittenAs ⟨dialect, name⟩ mode text)
          list.items texts ∧
        compiled.sql = before ++ list.place.text dialect texts ++ after ∧
        (texts = [] → list.place = .distinctOn ∨ list.place.text dialect texts = "")) ∧
    (statement.GivesEmptyList →
      (∀ compiled, compile statement name dialect mode ≠ .ok compiled) ∧
      ∀ filling compiled, compile (statement.fill filling) name dialect mode = .ok compiled →
        ∃ defect, compile statement name dialect mode = .error (.invalid defect)) := by
  refine ⟨fun compiled done list given => exists_list_of_compile done given, fun empty => ⟨?_, ?_⟩⟩
  · exact fun compiled done =>
      Statement.not_clean_of_givesEmptyList empty (clean_of_compile_eq_ok done)
  · exact fun filling compiled done => compile_eq_error_of_fill empty done

end Outcome

def tasksWithin (query : Select) : Statement :=
  .delete { Delete.empty with
    table := some (.column "tasks")
    conditions := [.comparison .isIn (.column "id") (.subquery query)] }

theorem query_mem_tasksWithin (query : Select) :
    .query query ∈ (tasksWithin query).subterms := by
  have whole : .query query ∈ query.subterms := by
    cases query
    exact List.mem_cons_self
  simp [tasksWithin, Statement.subterms, Delete.subterms, exprSubterms, Expr.subterms, whole]

theorem lists_tasksWithin (query : Select) {dialect : NamedDialect} {list : ClauseList}
    (given : list ∈ (Subterm.query query).lists dialect) :
    list ∈ (tasksWithin query).lists dialect :=
  List.mem_append_right _ (List.mem_flatMap.mpr ⟨_, query_mem_tasksWithin query, given⟩)

def jobsWithResults : Select :=
  { Select.empty with
    columns := [.column "id"]
    sources := [.column "jobs"]
    joins := [⟨.inner, .column "results", .using []⟩] }

theorem empty_lists_refused_tasks :
    (∃ compiled,
      compile ((tasksWithin jobsWithResults).fill ⟨["id"], [], .empty, []⟩) "default" .standard
        .inline = .ok compiled ∧
      compiled.sql = "DELETE FROM \"tasks\" WHERE \"id\" IN (SELECT \"id\" FROM \"jobs\""
        ++ " INNER JOIN \"results\" USING (\"id\"))" ∧
      ∃ before texts after,
        List.Forall₂ (fun draft text => draft.WrittenAs ⟨.standard, "default"⟩ .inline text)
          [Dialect.standard.nameDraft "id"] texts ∧
        compiled.sql = before ++ ListPlace.joinColumns.text .standard texts ++ after) ∧
    ∃ defect, compile (tasksWithin jobsWithResults) "default" .standard .inline =
      .error (.invalid defect) := by
  have done : compile ((tasksWithin jobsWithResults).fill ⟨["id"], [], .empty, []⟩) "default"
      .standard .inline = .ok _ := rfl
  have given : ClauseList.mk .joinColumns [Dialect.standard.nameDraft "id"] ∈
      ((tasksWithin jobsWithResults).fill ⟨["id"], [], .empty, []⟩).lists
        ⟨.standard, "default"⟩ :=
    lists_tasksWithin (jobsWithResults.rewrite (.filling ["id"])) (List.mem_singleton_self _)
  have empty : (tasksWithin jobsWithResults).GivesEmptyList :=
    .inr ⟨_, query_mem_tasksWithin jobsWithResults, _, List.mem_singleton_self _, rfl⟩
  obtain ⟨before, texts, after, each, whole, -⟩ :=
    (empty_lists_refused _ "default" .standard .inline).1 _ done _ given
  exact ⟨⟨_, done, rfl, before, texts, after, each, whole⟩,
    ((empty_lists_refused _ "default" .standard .inline).2 empty).2 _ _ done⟩

def distinctJobs : Select :=
  { Select.empty with
    distinct := .on []
    columns := [.column "id"]
    sources := [.column "jobs"] }

theorem empty_distinct_compiles :
    ⟨.distinctOn, []⟩ ∈ (tasksWithin distinctJobs).lists ⟨.standard, "default"⟩ ∧
    compile (.select distinctJobs) "default" .standard .inline =
      .ok ⟨"SELECT DISTINCT ON () \"id\" FROM \"jobs\"", []⟩ ∧
    compile (tasksWithin distinctJobs) "default" .standard .inline =
      .ok ⟨"DELETE FROM \"tasks\" WHERE \"id\" IN (SELECT DISTINCT ON () \"id\" FROM \"jobs\")",
        []⟩ :=
  ⟨lists_tasksWithin distinctJobs (List.mem_singleton_self _), rfl, rfl⟩

end SqlDialects
