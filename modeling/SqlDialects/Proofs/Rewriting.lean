import SqlDialects.Draft.Insert
import SqlDialects.Expr.Filter

/-!
Rewriting a statement at every depth: its literals and the columns of its joins. Everything else
stays as it is, and so does whatever a draft asks of a list or of a condition beside its elements.
-/

namespace SqlDialects

/-- What stands for the literals and for the columns of joins. -/
structure Rewriting where
  literal : Value → Value
  joinColumns : List String → List String

mutual

def Expr.rewrite (rewriting : Rewriting) : Expr → Expr
  | .identifier identifier => .identifier identifier
  | .literal value => .literal (rewriting.literal value)
  | .raw sql arguments => .raw sql (rewriteExprs rewriting arguments)
  | .aliased expr name => .aliased (expr.rewrite rewriting) name
  | .comparison operator left right =>
      .comparison operator (left.rewrite rewriting) (right.rewrite rewriting)
  | .bitwise operator left right =>
      .bitwise operator (left.rewrite rewriting) (right.rewrite rewriting)
  | .rightBitwise operator right => .rightBitwise operator (right.rewrite rewriting)
  | .range test expr low high =>
      .range test (expr.rewrite rewriting) (low.rewrite rewriting) (high.rewrite rewriting)
  | .conditions connective items => .conditions connective (rewriteExprs rewriting items)
  | .tuple items => .tuple (rewriteExprs rewriting items)
  | .ordered expr direction nulls => .ordered (expr.rewrite rewriting) direction nulls
  | .cast expr type => .cast (expr.rewrite rewriting) type
  | .function name arguments distinct window =>
      .function name (rewriteExprs rewriting arguments) distinct (window.rewrite rewriting)
  | .subquery query => .subquery (query.rewrite rewriting)
  | .not expr => .not (expr.rewrite rewriting)
  | .filter filter => .filter (filter.rewrite rewriting)
  | .excluded column => .excluded column
  | .default => .default

def rewriteExprs (rewriting : Rewriting) : List Expr → List Expr
  | [] => []
  | expr :: rest => expr.rewrite rewriting :: rewriteExprs rewriting rest

def Over.rewrite (rewriting : Rewriting) : Over → Over
  | .absent => .absent
  | .named name => .named name
  | .inline window => .inline (window.rewrite rewriting)

def Window.rewrite (rewriting : Rewriting) : Window → Window
  | ⟨name, parent, partitionBy, orderBy⟩ =>
      ⟨name, parent, rewriteExprs rewriting partitionBy, rewriteExprs rewriting orderBy⟩

def rewriteWindows (rewriting : Rewriting) : List Window → List Window
  | [] => []
  | window :: rest => window.rewrite rewriting :: rewriteWindows rewriting rest

def Filter.rewrite (rewriting : Rewriting) : Filter → Filter
  | ⟨any, entries⟩ => ⟨any, rewriteFilterEntries rewriting entries⟩

def FilterEntry.rewrite (rewriting : Rewriting) : FilterEntry → FilterEntry
  | .value column value => .value column (value.rewrite rewriting)
  | .tests column tests => .tests column (rewriteFilterTests rewriting tests)

def rewriteFilterEntries (rewriting : Rewriting) : List FilterEntry → List FilterEntry
  | [] => []
  | entry :: rest => entry.rewrite rewriting :: rewriteFilterEntries rewriting rest

def FilterTest.rewrite (rewriting : Rewriting) : FilterTest → FilterTest
  | .comparison operator value => .comparison operator (value.rewrite rewriting)
  | .range test low high => .range test (low.rewrite rewriting) (high.rewrite rewriting)

def rewriteFilterTests (rewriting : Rewriting) : List FilterTest → List FilterTest
  | [] => []
  | test :: rest => test.rewrite rewriting :: rewriteFilterTests rewriting rest

def JoinCondition.rewrite (rewriting : Rewriting) : JoinCondition → JoinCondition
  | .none => .none
  | .on condition => .on (condition.rewrite rewriting)
  | .using columns => .using (rewriting.joinColumns columns)

def Join.rewrite (rewriting : Rewriting) : Join → Join
  | ⟨kind, source, condition⟩ =>
      ⟨kind, source.rewrite rewriting, condition.rewrite rewriting⟩

def rewriteJoins (rewriting : Rewriting) : List Join → List Join
  | [] => []
  | join :: rest => join.rewrite rewriting :: rewriteJoins rewriting rest

def CommonTable.rewrite (rewriting : Rewriting) : CommonTable → CommonTable
  | ⟨name, query⟩ => ⟨name, query.rewrite rewriting⟩

def rewriteCommonTables (rewriting : Rewriting) : List CommonTable → List CommonTable
  | [] => []
  | table :: rest => table.rewrite rewriting :: rewriteCommonTables rewriting rest

def CommonTables.rewrite (rewriting : Rewriting) : CommonTables → CommonTables
  | ⟨recursive, tables⟩ => ⟨recursive, rewriteCommonTables rewriting tables⟩

def Compound.rewrite (rewriting : Rewriting) : Compound → Compound
  | ⟨kind, query⟩ => ⟨kind, query.rewrite rewriting⟩

def rewriteCompounds (rewriting : Rewriting) : List Compound → List Compound
  | [] => []
  | compound :: rest => compound.rewrite rewriting :: rewriteCompounds rewriting rest

def Distinct.rewrite (rewriting : Rewriting) : Distinct → Distinct
  | .none => .none
  | .all => .all
  | .on columns => .on (rewriteExprs rewriting columns)

def Select.rewrite (rewriting : Rewriting) : Select → Select
  | ⟨commonTables, distinct, columns, sources, joins, conditions, groupBy, groupConditions, windows,
      compounds, orderBy, limit, offset, lock⟩ =>
    { commonTables := commonTables.rewrite rewriting
      distinct := distinct.rewrite rewriting
      columns := rewriteExprs rewriting columns
      sources := rewriteExprs rewriting sources
      joins := rewriteJoins rewriting joins
      conditions := rewriteExprs rewriting conditions
      groupBy := rewriteExprs rewriting groupBy
      groupConditions := rewriteExprs rewriting groupConditions
      windows := rewriteWindows rewriting windows
      compounds := rewriteCompounds rewriting compounds
      orderBy := rewriteExprs rewriting orderBy
      limit := limit
      offset := offset
      lock := lock }

end

namespace Record

def rewrite (rewriting : Rewriting) (record : Record) : Record where
  entries := record.entries.map fun entry => (entry.1, entry.2.rewrite rewriting)
  duplicates := record.duplicates
  columns_nodup := by
    rw [List.map_map]
    exact record.columns_nodup

end Record

namespace InsertSource

def rewrite (rewriting : Rewriting) : InsertSource → InsertSource
  | .defaultValues => .defaultValues
  | .rows cells => .rows (cells.map (rewriteExprs rewriting))
  | .records given => .records (given.map (Record.rewrite rewriting))
  | .query select => .query (select.rewrite rewriting)

end InsertSource

namespace ConflictAction

def rewrite (rewriting : Rewriting) : ConflictAction → ConflictAction
  | .nothing => .nothing
  | .update assignments condition =>
      .update (assignments.rewrite rewriting) (condition.map (Expr.rewrite rewriting))

end ConflictAction

namespace Conflict

def rewrite (rewriting : Rewriting) (conflict : Conflict) : Conflict :=
  ⟨conflict.target, conflict.action.rewrite rewriting⟩

end Conflict

namespace Insert

def rewrite (rewriting : Rewriting) (insert : Insert) : Insert where
  commonTables := insert.commonTables.rewrite rewriting
  table := insert.table.map (Expr.rewrite rewriting)
  columns := rewriteExprs rewriting insert.columns
  source := insert.source.rewrite rewriting
  conflict := insert.conflict.map (Conflict.rewrite rewriting)
  returning := rewriteExprs rewriting insert.returning

end Insert

namespace Update

def rewrite (rewriting : Rewriting) (update : Update) : Update where
  commonTables := update.commonTables.rewrite rewriting
  table := update.table.map (Expr.rewrite rewriting)
  assignments := update.assignments.rewrite rewriting
  furtherTables := rewriteExprs rewriting update.furtherTables
  conditions := rewriteExprs rewriting update.conditions
  orderBy := rewriteExprs rewriting update.orderBy
  limit := update.limit
  returning := rewriteExprs rewriting update.returning

end Update

namespace Delete

def rewrite (rewriting : Rewriting) (delete : Delete) : Delete where
  commonTables := delete.commonTables.rewrite rewriting
  table := delete.table.map (Expr.rewrite rewriting)
  conditions := rewriteExprs rewriting delete.conditions
  orderBy := rewriteExprs rewriting delete.orderBy
  limit := delete.limit
  returning := rewriteExprs rewriting delete.returning

end Delete

namespace Truncate

def rewrite (rewriting : Rewriting) (truncate : Truncate) : Truncate :=
  { truncate with tables := rewriteExprs rewriting truncate.tables }

end Truncate

namespace Statement

def rewrite (rewriting : Rewriting) : Statement → Statement
  | .select query => .select (query.rewrite rewriting)
  | .insert insertion => .insert (insertion.rewrite rewriting)
  | .update change => .update (change.rewrite rewriting)
  | .delete deletion => .delete (deletion.rewrite rewriting)
  | .truncate truncation => .truncate (truncation.rewrite rewriting)

end Statement

section Lists

variable (rewriting : Rewriting)

theorem rewriteExprs_eq_map (exprs : List Expr) :
    rewriteExprs rewriting exprs = exprs.map (Expr.rewrite rewriting) := by
  induction exprs with
  | nil => rfl
  | cons expr rest ih => simp [rewriteExprs, ih]

@[simp] theorem length_rewriteExprs (exprs : List Expr) :
    (rewriteExprs rewriting exprs).length = exprs.length := by
  simp [rewriteExprs_eq_map]

@[simp] theorem isEmpty_rewriteExprs (exprs : List Expr) :
    (rewriteExprs rewriting exprs).isEmpty = exprs.isEmpty := by
  cases exprs <;> rfl

@[simp] theorem isEmpty_rewriteWindows (windows : List Window) :
    (rewriteWindows rewriting windows).isEmpty = windows.isEmpty := by
  cases windows <;> rfl

@[simp] theorem isEmpty_rewriteFilterEntries (entries : List FilterEntry) :
    (rewriteFilterEntries rewriting entries).isEmpty = entries.isEmpty := by
  cases entries <;> rfl

@[simp] theorem length_rewriteFilterTests (tests : List FilterTest) :
    (rewriteFilterTests rewriting tests).length = tests.length := by
  induction tests with
  | nil => rfl
  | cons test rest ih => simp [rewriteFilterTests, ih]

@[simp] theorem isEmpty_rewriteFilterTests (tests : List FilterTest) :
    (rewriteFilterTests rewriting tests).isEmpty = tests.isEmpty := by
  cases tests <;> rfl

@[simp] theorem isEmpty_rewriteJoins (joins : List Join) :
    (rewriteJoins rewriting joins).isEmpty = joins.isEmpty := by
  cases joins <;> rfl

@[simp] theorem isEmpty_rewriteCompounds (compounds : List Compound) :
    (rewriteCompounds rewriting compounds).isEmpty = compounds.isEmpty := by
  cases compounds <;> rfl

@[simp] theorem CommonTables.isEmpty_rewrite :
    ∀ tables : CommonTables, (tables.rewrite rewriting).isEmpty = tables.isEmpty
  | ⟨_, []⟩ | ⟨_, _ :: _⟩ => rfl

end Lists

section Conditions

variable (rewriting : Rewriting)

mutual

@[simp] theorem Expr.isEmptyCondition_rewrite :
    ∀ expr : Expr, (expr.rewrite rewriting).isEmptyCondition = expr.isEmptyCondition
  | .conditions _ items => allEmptyConditions_rewriteExprs items
  | .filter ⟨_, entries⟩ => isEmpty_rewriteFilterEntries rewriting entries
  | .identifier _ | .literal _ | .raw .. | .aliased .. | .comparison .. | .bitwise ..
  | .rightBitwise .. | .range .. | .tuple _ | .ordered .. | .cast .. | .function ..
  | .subquery _ | .not _ | .excluded _ | .default => rfl

@[simp] theorem allEmptyConditions_rewriteExprs :
    ∀ items : List Expr,
      allEmptyConditions (rewriteExprs rewriting items) = allEmptyConditions items
  | [] => rfl
  | item :: rest => by
      simp [rewriteExprs, allEmptyConditions, item.isEmptyCondition_rewrite,
        allEmptyConditions_rewriteExprs rest]

end

@[simp] theorem Expr.isConditionList_rewrite (expr : Expr) :
    (expr.rewrite rewriting).isConditionList = expr.isConditionList := by
  cases expr <;> rfl

@[simp] theorem Expr.filterComparison_rewrite (expr : Expr) :
    (expr.rewrite rewriting).filterComparison = expr.filterComparison := by
  cases expr <;> rfl

@[simp] theorem Expr.asksSomething_rewrite (condition : Option Expr) :
    Expr.asksSomething (condition.map (Expr.rewrite rewriting)) =
      Expr.asksSomething condition := by
  cases condition with
  | none => rfl
  | some condition => simp [Expr.asksSomething]

end Conditions

/-- Literals keep what a comparison asks of them: the null, `true` and `false` are written apart. -/
structure Rewriting.KeepsTruth (rewriting : Rewriting) : Prop where
  boolean? : ∀ value, (rewriting.literal value).boolean? = value.boolean?
  isNullOrBoolean : ∀ value, (rewriting.literal value).isNullOrBoolean = value.isNullOrBoolean

namespace Rewriting.KeepsTruth

variable {rewriting : Rewriting} (keeps : rewriting.KeepsTruth) (expr : Expr)

include keeps

theorem exprBoolean?_eq : (expr.rewrite rewriting).boolean? = expr.boolean? := by
  cases expr with
  | literal value => exact keeps.boolean? value
  | _ => rfl

theorem exprIsNullOrBoolean_eq :
    (expr.rewrite rewriting).isNullOrBoolean = expr.isNullOrBoolean := by
  cases expr with
  | literal value => exact keeps.isNullOrBoolean value
  | _ => rfl

end Rewriting.KeepsTruth

namespace Record

variable (rewriting : Rewriting) (record : Record)

@[simp] theorem columns_rewrite : (record.rewrite rewriting).columns = record.columns :=
  List.map_map

@[simp] theorem isEmpty_rewrite : (record.rewrite rewriting).isEmpty = record.isEmpty :=
  List.isEmpty_map

@[simp] theorem size_rewrite : (record.rewrite rewriting).size = record.size :=
  List.length_map _

@[simp] theorem duplicate?_rewrite :
    (record.rewrite rewriting).duplicate? = record.duplicate? := rfl

@[simp] theorem find?_rewrite (column : String) :
    (record.rewrite rewriting).find? column =
      (record.find? column).map (Expr.rewrite rewriting) := by
  simp only [find?, rewrite, List.find?_map, Option.map_map]
  rfl

@[simp] theorem sets_rewrite (listed : List String) :
    (record.rewrite rewriting).sets listed = record.sets listed := by
  simp only [sets, size_rewrite, find?_rewrite, Option.isSome_map]

end Record

/-- The rewriting that leaves everything as it is. -/
def Rewriting.keep : Rewriting where
  literal := fun value => value
  joinColumns := fun columns => columns

section Keep

mutual

theorem Expr.rewrite_keep : ∀ expr : Expr, expr.rewrite .keep = expr
  | .identifier _ | .literal _ | .excluded _ | .default => rfl
  | .raw _ arguments => by rw [Expr.rewrite, rewriteExprs_keep arguments]
  | .aliased expr _ => by rw [Expr.rewrite, expr.rewrite_keep]
  | .comparison _ left right => by rw [Expr.rewrite, left.rewrite_keep, right.rewrite_keep]
  | .bitwise _ left right => by rw [Expr.rewrite, left.rewrite_keep, right.rewrite_keep]
  | .rightBitwise _ right => by rw [Expr.rewrite, right.rewrite_keep]
  | .range _ expr low high => by
      rw [Expr.rewrite, expr.rewrite_keep, low.rewrite_keep, high.rewrite_keep]
  | .conditions _ items => by rw [Expr.rewrite, rewriteExprs_keep items]
  | .tuple items => by rw [Expr.rewrite, rewriteExprs_keep items]
  | .ordered expr _ _ => by rw [Expr.rewrite, expr.rewrite_keep]
  | .cast expr _ => by rw [Expr.rewrite, expr.rewrite_keep]
  | .function _ arguments _ window => by
      rw [Expr.rewrite, rewriteExprs_keep arguments, window.rewrite_keep]
  | .subquery query => by rw [Expr.rewrite, query.rewrite_keep]
  | .not expr => by rw [Expr.rewrite, expr.rewrite_keep]
  | .filter filter => by rw [Expr.rewrite, filter.rewrite_keep]

theorem rewriteExprs_keep : ∀ exprs : List Expr, rewriteExprs .keep exprs = exprs
  | [] => rfl
  | expr :: rest => by rw [rewriteExprs, expr.rewrite_keep, rewriteExprs_keep rest]

theorem Over.rewrite_keep : ∀ window : Over, window.rewrite .keep = window
  | .absent | .named _ => rfl
  | .inline window => by rw [Over.rewrite, window.rewrite_keep]

theorem Window.rewrite_keep : ∀ window : Window, window.rewrite .keep = window
  | ⟨_, _, partitionBy, orderBy⟩ => by
      rw [Window.rewrite, rewriteExprs_keep partitionBy, rewriteExprs_keep orderBy]

theorem rewriteWindows_keep : ∀ windows : List Window, rewriteWindows .keep windows = windows
  | [] => rfl
  | window :: rest => by rw [rewriteWindows, window.rewrite_keep, rewriteWindows_keep rest]

theorem Filter.rewrite_keep : ∀ filter : Filter, filter.rewrite .keep = filter
  | ⟨_, entries⟩ => by rw [Filter.rewrite, rewriteFilterEntries_keep entries]

theorem FilterEntry.rewrite_keep : ∀ entry : FilterEntry, entry.rewrite .keep = entry
  | .value _ value => by rw [FilterEntry.rewrite, value.rewrite_keep]
  | .tests _ tests => by rw [FilterEntry.rewrite, rewriteFilterTests_keep tests]

theorem rewriteFilterEntries_keep :
    ∀ entries : List FilterEntry, rewriteFilterEntries .keep entries = entries
  | [] => rfl
  | entry :: rest => by
      rw [rewriteFilterEntries, entry.rewrite_keep, rewriteFilterEntries_keep rest]

theorem FilterTest.rewrite_keep : ∀ test : FilterTest, test.rewrite .keep = test
  | .comparison _ value => by rw [FilterTest.rewrite, value.rewrite_keep]
  | .range _ low high => by rw [FilterTest.rewrite, low.rewrite_keep, high.rewrite_keep]

theorem rewriteFilterTests_keep :
    ∀ tests : List FilterTest, rewriteFilterTests .keep tests = tests
  | [] => rfl
  | test :: rest => by rw [rewriteFilterTests, test.rewrite_keep, rewriteFilterTests_keep rest]

theorem JoinCondition.rewrite_keep :
    ∀ condition : JoinCondition, condition.rewrite .keep = condition
  | .none | .using _ => rfl
  | .on condition => by rw [JoinCondition.rewrite, condition.rewrite_keep]

theorem Join.rewrite_keep : ∀ join : Join, join.rewrite .keep = join
  | ⟨_, source, condition⟩ => by rw [Join.rewrite, source.rewrite_keep, condition.rewrite_keep]

theorem rewriteJoins_keep : ∀ joins : List Join, rewriteJoins .keep joins = joins
  | [] => rfl
  | join :: rest => by rw [rewriteJoins, join.rewrite_keep, rewriteJoins_keep rest]

theorem CommonTable.rewrite_keep : ∀ table : CommonTable, table.rewrite .keep = table
  | ⟨_, query⟩ => by rw [CommonTable.rewrite, query.rewrite_keep]

theorem rewriteCommonTables_keep :
    ∀ tables : List CommonTable, rewriteCommonTables .keep tables = tables
  | [] => rfl
  | table :: rest => by
      rw [rewriteCommonTables, table.rewrite_keep, rewriteCommonTables_keep rest]

theorem CommonTables.rewrite_keep : ∀ tables : CommonTables, tables.rewrite .keep = tables
  | ⟨_, tables⟩ => by rw [CommonTables.rewrite, rewriteCommonTables_keep tables]

theorem Compound.rewrite_keep : ∀ compound : Compound, compound.rewrite .keep = compound
  | ⟨_, query⟩ => by rw [Compound.rewrite, query.rewrite_keep]

theorem rewriteCompounds_keep :
    ∀ compounds : List Compound, rewriteCompounds .keep compounds = compounds
  | [] => rfl
  | compound :: rest => by
      rw [rewriteCompounds, compound.rewrite_keep, rewriteCompounds_keep rest]

theorem Distinct.rewrite_keep : ∀ distinct : Distinct, distinct.rewrite .keep = distinct
  | .none | .all => rfl
  | .on columns => by rw [Distinct.rewrite, rewriteExprs_keep columns]

theorem Select.rewrite_keep : ∀ query : Select, query.rewrite .keep = query
  | ⟨commonTables, distinct, columns, sources, joins, conditions, groupBy, groupConditions, windows,
      compounds, orderBy, _, _, _⟩ => by
    rw [Select.rewrite, commonTables.rewrite_keep, distinct.rewrite_keep, rewriteExprs_keep columns,
      rewriteExprs_keep sources, rewriteJoins_keep joins, rewriteExprs_keep conditions,
      rewriteExprs_keep groupBy, rewriteExprs_keep groupConditions, rewriteWindows_keep windows,
      rewriteCompounds_keep compounds, rewriteExprs_keep orderBy]

end

theorem map_rewrite_keep (given : Option Expr) : given.map (Expr.rewrite .keep) = given := by
  rw [funext Expr.rewrite_keep, Option.map_id']

theorem Record.rewrite_keep (record : Record) : record.rewrite .keep = record := by
  simp [rewrite, Expr.rewrite_keep]

theorem InsertSource.rewrite_keep (source : InsertSource) : source.rewrite .keep = source := by
  cases source with
  | defaultValues => rfl
  | rows cells => rw [rewrite, funext rewriteExprs_keep, List.map_id']
  | records given => rw [rewrite, funext Record.rewrite_keep, List.map_id']
  | query query => rw [rewrite, query.rewrite_keep]

theorem Conflict.rewrite_keep (conflict : Conflict) : conflict.rewrite .keep = conflict := by
  obtain ⟨target, _ | ⟨assignments, condition⟩⟩ := conflict
  · rfl
  · rw [rewrite, ConflictAction.rewrite, assignments.rewrite_keep, map_rewrite_keep]

theorem Statement.rewrite_keep (statement : Statement) : statement.rewrite .keep = statement := by
  cases statement with
  | select query => rw [rewrite, query.rewrite_keep]
  | insert insertion =>
      rw [rewrite, Insert.rewrite, CommonTables.rewrite_keep, map_rewrite_keep, rewriteExprs_keep,
        InsertSource.rewrite_keep, funext Conflict.rewrite_keep, Option.map_id',
        rewriteExprs_keep]
  | update change =>
      rw [rewrite, Update.rewrite, CommonTables.rewrite_keep, map_rewrite_keep,
        Record.rewrite_keep, rewriteExprs_keep, rewriteExprs_keep, rewriteExprs_keep,
        rewriteExprs_keep]
  | delete deletion =>
      rw [rewrite, Delete.rewrite, CommonTables.rewrite_keep, map_rewrite_keep, rewriteExprs_keep,
        rewriteExprs_keep, rewriteExprs_keep]
  | truncate emptying => rw [rewrite, Truncate.rewrite, rewriteExprs_keep]

end Keep

end SqlDialects
