import SqlDialects.Dialect.Standard
import SqlDialects.Proofs.Inside
import SqlDialects.Proofs.Outcome
import SqlDialects.Proofs.Written

/-!
The names that a statement writes, each with its place. Qualified names, the columns of a conflict
target and excluded columns are checked before they are written; the other names are only quoted,
and an empty one among them is written as it is.
-/

namespace SqlDialects

open Draft

/-- The places of a statement that take a name. -/
inductive NamePlace where
  | identifier
  | outputName
  | assignment
  | conflictTarget
  | excluded
  | commonTable
  | joinColumn
  | window
  | usedWindow
  | parentWindow
  | recordColumn
deriving DecidableEq

namespace NamePlace

/-- Whether an empty name is a fault there. -/
def isChecked : NamePlace → Bool
  | identifier | outputName | assignment | conflictTarget | excluded => true
  | commonTable | joinColumn | window | usedWindow | parentWindow | recordColumn => false

end NamePlace

def Identifier.names (place : NamePlace) (identifier : Identifier) : List (NamePlace × String) :=
  identifier.parts.filterMap fun
    | .name text => some (place, text)
    | .star => none

def Over.names : Over → List (NamePlace × String)
  | .absent => []
  | .named name => [(.usedWindow, name)]
  | .inline window => window.parent.toList.map fun name => (.parentWindow, name)

/-- An entry without tests is not written, and neither is its column. -/
def FilterEntry.names : FilterEntry → List (NamePlace × String)
  | .value column _ => (Identifier.parse column).names .identifier
  | .tests column asked =>
      if asked.isEmpty then [] else (Identifier.parse column).names .identifier

def Expr.names : Expr → List (NamePlace × String)
  | .identifier qualified => qualified.names .identifier
  | .aliased _ name => name.names .outputName
  | .function _ _ _ window => window.names
  | .filter tested => tested.entries.flatMap FilterEntry.names
  | .excluded column => [(.excluded, column)]
  | _ => []

def JoinCondition.names : JoinCondition → List (NamePlace × String)
  | .using columns => columns.map fun column => (.joinColumn, column)
  | .none | .on _ => []

def Window.names (window : Window) : List (NamePlace × String) :=
  window.name.toList.map (fun name => (.window, name))
    ++ window.parent.toList.map fun name => (.parentWindow, name)

def CommonTables.names (tables : CommonTables) : List (NamePlace × String) :=
  tables.tables.map fun table => (.commonTable, table.name)

def Select.names (query : Select) : List (NamePlace × String) :=
  query.commonTables.names ++ query.joins.flatMap (fun join => join.condition.names)
    ++ query.windows.flatMap Window.names

def Subterm.names : Subterm → List (NamePlace × String)
  | .expr part => part.names
  | .query part => part.names

/-- The columns of an assignment may be qualified. -/
def Record.assignedNames (record : Record) : List (NamePlace × String) :=
  record.entries.flatMap fun entry => (Identifier.parse entry.1).names .assignment

def InsertSource.names : InsertSource → List (NamePlace × String)
  | .records given =>
      given.flatMap fun record => record.columns.map fun column => (.recordColumn, column)
  | .defaultValues | .rows _ | .query _ => []

def Conflict.names (conflict : Conflict) : List (NamePlace × String) :=
  conflict.target.map (fun column => (.conflictTarget, column))
    ++ match conflict.action with
      | .nothing => []
      | .update assignments _ => assignments.assignedNames

namespace Statement

def ownNames : Statement → List (NamePlace × String)
  | .select _ | .truncate _ => []
  | .insert insertion =>
      insertion.commonTables.names ++ insertion.source.names
        ++ insertion.conflict.toList.flatMap Conflict.names
  | .update change => change.commonTables.names ++ change.assignments.assignedNames
  | .delete deletion => deletion.commonTables.names

/-- The names that a statement writes, at every depth. -/
def names (statement : Statement) : List (NamePlace × String) :=
  statement.ownNames ++ statement.subterms.flatMap Subterm.names

end Statement

/-- No checked name among these is empty. -/
def NonemptyIfChecked (names : List (NamePlace × String)) : Prop :=
  ∀ entry ∈ names, entry.1.isChecked → entry.2 ≠ ""

theorem nonemptyIfChecked_append (first second : List (NamePlace × String)) :
    NonemptyIfChecked (first ++ second) ↔ NonemptyIfChecked first ∧ NonemptyIfChecked second :=
  List.forall_mem_append

theorem nonemptyIfChecked_flatMap {α : Type} {items : List α}
    {names : α → List (NamePlace × String)} :
    NonemptyIfChecked (items.flatMap names) ↔ ∀ item ∈ items, NonemptyIfChecked (names item) :=
  List.forall_mem_flatMap

theorem nonemptyIfChecked_unchecked {α : Type} {place : NamePlace}
    (unchecked : place.isChecked = false) (items : List α) (name : α → String) :
    NonemptyIfChecked (items.map fun item => (place, name item)) := by
  simp [NonemptyIfChecked, unchecked]

namespace Identifier

theorem nonemptyIfChecked_names {identifier : Identifier} (sound : identifier.flaw? = none)
    (place : NamePlace) : NonemptyIfChecked (identifier.names place) := by
  obtain ⟨-, -, filled, -⟩ := flaw?_eq_none_iff.mp sound
  intro entry member _
  obtain ⟨part, listed, named⟩ := List.mem_filterMap.mp member
  cases part with
  | star => simp at named
  | name text =>
      cases named
      rintro rfl
      exact filled listed

end Identifier

variable {dialect : NamedDialect}

theorem nonemptyIfChecked_of_identifierDraft {identifier : Identifier} {place : NamePlace}
    (clean : (dialect.identifierDraft identifier).Clean) :
    NonemptyIfChecked (identifier.names place) :=
  Identifier.nonemptyIfChecked_names (dialect.clean_identifierDraft identifier |>.mp clean) place

theorem FilterTest.clean_column {test : FilterTest} {column : Draft}
    (clean : (test.draft dialect column).Clean) : column.Clean := by
  cases test with
  | comparison operator value => exact (dialect.clean_of_comparisonDraft clean).1
  | range test low high => exact ((clean_range ..).mp clean).1

theorem FilterEntry.nonemptyIfChecked_names {entry : FilterEntry}
    (drafted : (entry.item dialect).isEmpty ∨
      ∃ nested, ((entry.item dialect).draft nested).Clean) : NonemptyIfChecked entry.names := by
  cases entry with
  | value column operand =>
      simp only [FilterEntry.item, Bool.false_eq_true, false_or, clean_parenthesizedIf,
        exists_const] at drafted
      exact nonemptyIfChecked_of_identifierDraft (dialect.clean_of_comparisonDraft drafted).1
  | tests column asked =>
      have each := FilterEntry.clean_tests drafted
      cases asked with
      | nil => simp [FilterEntry.names, NonemptyIfChecked]
      | cons test rest =>
          have column := FilterTest.clean_column (each test (by simp))
          simpa [FilterEntry.names] using nonemptyIfChecked_of_identifierDraft column

theorem Over.nonemptyIfChecked_names (window : Over) : NonemptyIfChecked window.names := by
  cases window with
  | absent => simp [Over.names, NonemptyIfChecked]
  | named name => exact nonemptyIfChecked_unchecked rfl [name] id
  | inline body => exact nonemptyIfChecked_unchecked rfl _ id

theorem Expr.nonemptyIfChecked_names {expr : Expr} {nested : Bool}
    (clean : (expr.draft dialect nested).Clean) : NonemptyIfChecked expr.names := by
  cases expr with
  | identifier qualified => exact nonemptyIfChecked_of_identifierDraft clean
  | aliased expr name =>
      exact nonemptyIfChecked_of_identifierDraft ((clean_append ..).mp clean).2
  | function name arguments distinct window => exact window.nonemptyIfChecked_names
  | filter filter =>
      have each := Filter.drafted_entries clean
      exact nonemptyIfChecked_flatMap.mpr fun entry member =>
        FilterEntry.nonemptyIfChecked_names (each entry member)
  | excluded column =>
      simp only [Expr.draft, Dialect.excludedDraft] at clean
      split at clean
      · simp at clean
      · next given => simpa [Expr.names, NonemptyIfChecked, NamePlace.isChecked] using given
  | _ => simp [Expr.names, NonemptyIfChecked]

theorem Expr.names_of_isEmptyCondition {expr : Expr} (empty : expr.isEmptyCondition) :
    expr.names = [] := by
  rcases expr.shape_of_isEmptyCondition empty with ⟨connective, items, rfl⟩ | ⟨any, rfl⟩ <;> rfl

theorem CommonTables.nonemptyIfChecked_names (tables : CommonTables) :
    NonemptyIfChecked tables.names :=
  nonemptyIfChecked_unchecked rfl _ _

theorem JoinCondition.nonemptyIfChecked_names :
    ∀ condition : JoinCondition, NonemptyIfChecked condition.names
  | .using columns => nonemptyIfChecked_unchecked rfl columns id
  | .none | .on _ => by simp [JoinCondition.names, NonemptyIfChecked]

theorem Window.nonemptyIfChecked_names (window : Window) : NonemptyIfChecked window.names :=
  (nonemptyIfChecked_append ..).mpr
    ⟨nonemptyIfChecked_unchecked rfl _ id, nonemptyIfChecked_unchecked rfl _ id⟩

theorem Select.nonemptyIfChecked_names (query : Select) : NonemptyIfChecked query.names := by
  simp only [Select.names, nonemptyIfChecked_append, nonemptyIfChecked_flatMap]
  exact ⟨⟨query.commonTables.nonemptyIfChecked_names,
    fun join _ => join.condition.nonemptyIfChecked_names⟩,
    fun window _ => window.nonemptyIfChecked_names⟩

theorem Subterm.nonemptyIfChecked_names {subterm : Subterm} (written : subterm.Written dialect) :
    NonemptyIfChecked subterm.names := by
  cases subterm with
  | query query => exact query.nonemptyIfChecked_names
  | expr expr =>
      rcases written with empty | ⟨nested, clean⟩
      · simp [Subterm.names, expr.names_of_isEmptyCondition empty, NonemptyIfChecked]
      · exact Expr.nonemptyIfChecked_names clean

theorem Record.nonemptyIfChecked_assignedNames {assignments : Record}
    (clean : (dialect.assignmentsDraft assignments).Clean) :
    NonemptyIfChecked assignments.assignedNames := by
  simp only [NamedDialect.assignmentsDraft, clean_append, clean_commaSeparated, List.forall_mem_map]
    at clean
  exact nonemptyIfChecked_flatMap.mpr fun entry member =>
    nonemptyIfChecked_of_identifierDraft (clean.2 entry member).1.1

theorem Conflict.nonemptyIfChecked_names {conflict : Conflict}
    (clean : (dialect.conflictDraft conflict).Clean) : NonemptyIfChecked conflict.names := by
  obtain ⟨target, action⟩ := conflict
  have faultless := ((clean_append ..).mp ((clean_append ..).mp clean).1).2
  have targeted : NonemptyIfChecked (target.map fun column => (.conflictTarget, column)) := by
    split at faultless
    · simp at faultless
    · next given =>
      have named : "" ∉ target := by simpa using given
      simp only [NonemptyIfChecked, List.forall_mem_map]
      exact fun column member _ same => named (same ▸ member)
  refine (nonemptyIfChecked_append ..).mpr ⟨targeted, ?_⟩
  cases action with
  | nothing => simp [NonemptyIfChecked]
  | update assignments condition =>
      have action := clean_of_within clean (Conflict.within_update (List.infix_refl _))
      exact Record.nonemptyIfChecked_assignedNames
        ((clean_append ..).mp ((clean_append ..).mp action).1).2

theorem Statement.nonemptyIfChecked_ownNames {statement : Statement}
    (clean : (statement.draft dialect).Clean) : NonemptyIfChecked statement.ownNames := by
  cases statement with
  | select _ | truncate _ => simp [ownNames, NonemptyIfChecked]
  | insert insertion =>
      have drafted := Insert.drafted clean
      have source : NonemptyIfChecked insertion.source.names := by
        cases insertion.source with
        | records given =>
            exact nonemptyIfChecked_flatMap.mpr fun record _ =>
              nonemptyIfChecked_unchecked rfl _ id
        | _ => simp [InsertSource.names, NonemptyIfChecked]
      have conflict : ∀ conflict ∈ insertion.conflict.toList, NonemptyIfChecked conflict.names := by
        intro conflict member
        exact Conflict.nonemptyIfChecked_names (drafted.conflict conflict (by simpa using member))
      simp only [ownNames, nonemptyIfChecked_append, nonemptyIfChecked_flatMap]
      exact ⟨⟨insertion.commonTables.nonemptyIfChecked_names, source⟩, conflict⟩
  | update change =>
      have drafted := Update.drafted clean
      exact (nonemptyIfChecked_append ..).mpr ⟨change.commonTables.nonemptyIfChecked_names,
        Record.nonemptyIfChecked_assignedNames drafted.assignments⟩
  | delete deletion => exact deletion.commonTables.nonemptyIfChecked_names

theorem Statement.nonemptyIfChecked_names {statement : Statement}
    (clean : (statement.draft dialect).Clean) : NonemptyIfChecked statement.names := by
  have written := Statement.allWritten clean
  have deeper : ∀ subterm ∈ statement.subterms, NonemptyIfChecked subterm.names :=
    fun subterm member => Subterm.nonemptyIfChecked_names (written subterm member)
  exact (nonemptyIfChecked_append ..).mpr
    ⟨nonemptyIfChecked_ownNames clean, nonemptyIfChecked_flatMap.mpr deeper⟩

/-- A statement that compiles has no empty name where names are checked, at whatever depth; one that
has such a name there fails. -/
theorem checked_names_nonempty (statement : Statement) (name : String) (dialect : Dialect)
    (mode : Mode) :
    (∀ compiled, compile statement name dialect mode = .ok compiled →
      ∀ entry ∈ statement.names, entry.1.isChecked → entry.2 ≠ "") ∧
    ∀ place : NamePlace, place.isChecked → (place, "") ∈ statement.names →
      ∃ failure, compile statement name dialect mode = .error failure := by
  have nonempty : ∀ compiled, compile statement name dialect mode = .ok compiled →
      ∀ entry ∈ statement.names, entry.1.isChecked → entry.2 ≠ "" :=
    fun compiled done => Statement.nonemptyIfChecked_names (clean_of_compile_eq_ok done)
  refine ⟨nonempty, fun place checked empty => ?_⟩
  cases done : compile statement name dialect mode with
  | error failure => exact ⟨failure, rfl⟩
  | ok compiled => exact absurd rfl (nonempty compiled done _ empty checked)

def jobs : Select :=
  { Select.empty with sources := [.column "jobs"] }

def namelessTarget : Statement :=
  .insert { Insert.empty with
    table := some (.column "jobs")
    source := .query jobs
    conflict := some ⟨[""], .nothing⟩ }

theorem checked_names_nonempty_namelessTarget :
    (∀ entry ∈ (Statement.select jobs).names, entry.1.isChecked → entry.2 ≠ "") ∧
      ∃ failure, compile namelessTarget "default" .standard .inline = .error failure :=
  ⟨(checked_names_nonempty (.select jobs) "default" .standard .inline).1 _ rfl,
    (checked_names_nonempty namelessTarget "default" .standard .inline).2 .conflictTarget rfl
      (by decide +kernel)⟩

def namelessTable : Statement :=
  .select { jobs with commonTables := ⟨false, [⟨"", jobs⟩]⟩ }

def namelessJoinColumn : Statement :=
  .select { jobs with joins := [⟨.inner, .column "tasks", .using [""]⟩] }

def namelessWindow : Statement :=
  .select { jobs with windows := [⟨some "", none, [.column "team"], []⟩] }

def namelessOver : Statement :=
  .select { jobs with columns := [.function "rank" [] false (.named "")] }

def namelessParent : Statement :=
  .select { jobs with windows := [⟨some "w", some "", [], []⟩] }

def namelessRecordColumn : Statement :=
  .insert { Insert.empty with
    table := some (.column "jobs")
    source := .records [Record.empty.set "" (.literal (.integer 1))] }

/-- Where names are not checked, an empty one is written between two quotes. -/
theorem unchecked_names_empty :
    (NamePlace.commonTable, "") ∈ namelessTable.names ∧
    compile namelessTable "default" .standard .inline =
      .ok ⟨"WITH \"\" AS (SELECT * FROM \"jobs\") SELECT * FROM \"jobs\"", []⟩ ∧
    (NamePlace.joinColumn, "") ∈ namelessJoinColumn.names ∧
    compile namelessJoinColumn "default" .standard .inline =
      .ok ⟨"SELECT * FROM \"jobs\" INNER JOIN \"tasks\" USING (\"\")", []⟩ ∧
    (NamePlace.window, "") ∈ namelessWindow.names ∧
    compile namelessWindow "default" .standard .inline =
      .ok ⟨"SELECT * FROM \"jobs\" WINDOW \"\" AS (PARTITION BY \"team\")", []⟩ ∧
    (NamePlace.usedWindow, "") ∈ namelessOver.names ∧
    compile namelessOver "default" .standard .inline =
      .ok ⟨"SELECT rank() OVER \"\" FROM \"jobs\"", []⟩ ∧
    (NamePlace.parentWindow, "") ∈ namelessParent.names ∧
    compile namelessParent "default" .standard .inline =
      .ok ⟨"SELECT * FROM \"jobs\" WINDOW \"w\" AS (\"\")", []⟩ ∧
    (NamePlace.recordColumn, "") ∈ namelessRecordColumn.names ∧
    compile namelessRecordColumn "default" .standard .inline =
      .ok ⟨"INSERT INTO \"jobs\" (\"\") VALUES (1)", []⟩ := by
  refine ⟨by decide +kernel, rfl, by decide +kernel, rfl, by decide +kernel, rfl,
    by decide +kernel, rfl, by decide +kernel, rfl, by decide +kernel, rfl⟩

end SqlDialects
