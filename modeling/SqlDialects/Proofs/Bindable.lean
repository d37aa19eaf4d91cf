import SqlDialects.Expr.Filter
import SqlDialects.Proofs.Draft.Parts
import SqlDialects.Statement

/-!
The values that a statement has to bind, read off its syntax: every literal but null, and the
numbers of rows. The left operand of an inversion is not written, and so not bound; a boolean that
is tested for may be a text.
-/

namespace SqlDialects

mutual

def Expr.bindable (bindsTests : Bool) : Expr → List Value
  | .identifier _ => []
  | .literal value => if value.isNull then [] else [value]
  | .raw _ arguments => bindableExprs bindsTests arguments
  | .aliased expr _ => expr.bindable bindsTests
  | .comparison operator left right =>
      left.bindable bindsTests
        ++ operator.operandValues bindsTests right.boolean? (right.bindable bindsTests)
  | .bitwise operator left right =>
      (if operator = .invert then [] else left.bindable bindsTests) ++ right.bindable bindsTests
  | .rightBitwise _ right => right.bindable bindsTests
  | .range _ expr low high =>
      expr.bindable bindsTests ++ low.bindable bindsTests ++ high.bindable bindsTests
  | .conditions _ items => bindableExprs bindsTests items
  | .tuple items => bindableExprs bindsTests items
  | .ordered expr _ _ => expr.bindable bindsTests
  | .cast expr _ => expr.bindable bindsTests
  | .function _ arguments _ window =>
      bindableExprs bindsTests arguments ++ window.bindable bindsTests
  | .subquery query => query.bindable bindsTests
  | .not expr => expr.bindable bindsTests
  | .filter filter => filter.bindable bindsTests
  | .excluded _ => []
  | .default => []

def bindableExprs (bindsTests : Bool) : List Expr → List Value
  | [] => []
  | expr :: rest => expr.bindable bindsTests ++ bindableExprs bindsTests rest

def FilterTest.bindable (bindsTests : Bool) : FilterTest → List Value
  | .comparison operator value =>
      (operator.settle value.isNullOrBoolean).operandValues bindsTests value.boolean?
        (value.bindable bindsTests)
  | .range _ low high => low.bindable bindsTests ++ high.bindable bindsTests

def bindableFilterTests (bindsTests : Bool) : List FilterTest → List Value
  | [] => []
  | test :: rest => test.bindable bindsTests ++ bindableFilterTests bindsTests rest

def FilterEntry.bindable (bindsTests : Bool) : FilterEntry → List Value
  | .value _ operand =>
      (operand.filterComparison.settle operand.isNullOrBoolean).operandValues bindsTests
        operand.boolean? (operand.bindable bindsTests)
  | .tests _ tests => bindableFilterTests bindsTests tests

def bindableFilterEntries (bindsTests : Bool) : List FilterEntry → List Value
  | [] => []
  | entry :: rest => entry.bindable bindsTests ++ bindableFilterEntries bindsTests rest

def Filter.bindable (bindsTests : Bool) : Filter → List Value
  | ⟨_, entries⟩ => bindableFilterEntries bindsTests entries

def Window.bindable (bindsTests : Bool) : Window → List Value
  | ⟨_, _, partitionBy, orderBy⟩ =>
      bindableExprs bindsTests partitionBy ++ bindableExprs bindsTests orderBy

def bindableWindows (bindsTests : Bool) : List Window → List Value
  | [] => []
  | window :: rest => window.bindable bindsTests ++ bindableWindows bindsTests rest

def Over.bindable (bindsTests : Bool) : Over → List Value
  | .absent => []
  | .named _ => []
  | .inline window => window.bindable bindsTests

def JoinCondition.bindable (bindsTests : Bool) : JoinCondition → List Value
  | .none => []
  | .on condition => condition.bindable bindsTests
  | .using _ => []

def Join.bindable (bindsTests : Bool) : Join → List Value
  | ⟨_, source, condition⟩ => source.bindable bindsTests ++ condition.bindable bindsTests

def bindableJoins (bindsTests : Bool) : List Join → List Value
  | [] => []
  | join :: rest => join.bindable bindsTests ++ bindableJoins bindsTests rest

def CommonTable.bindable (bindsTests : Bool) : CommonTable → List Value
  | ⟨_, query⟩ => query.bindable bindsTests

def bindableCommonTables (bindsTests : Bool) : List CommonTable → List Value
  | [] => []
  | table :: rest => table.bindable bindsTests ++ bindableCommonTables bindsTests rest

def CommonTables.bindable (bindsTests : Bool) : CommonTables → List Value
  | ⟨_, tables⟩ => bindableCommonTables bindsTests tables

def Compound.bindable (bindsTests : Bool) : Compound → List Value
  | ⟨_, query⟩ => query.bindable bindsTests

def bindableCompounds (bindsTests : Bool) : List Compound → List Value
  | [] => []
  | compound :: rest => compound.bindable bindsTests ++ bindableCompounds bindsTests rest

def Distinct.bindable (bindsTests : Bool) : Distinct → List Value
  | .none => []
  | .all => []
  | .on columns => bindableExprs bindsTests columns

def Select.bindable (bindsTests : Bool) : Select → List Value
  | ⟨commonTables, distinct, columns, sources, joins, conditions, groupBy, groupConditions, windows,
      compounds, orderBy, limit, offset, _⟩ =>
    commonTables.bindable bindsTests ++
    (distinct.bindable bindsTests ++ bindableExprs bindsTests columns) ++
    bindableExprs bindsTests sources ++
    bindableJoins bindsTests joins ++
    bindableExprs bindsTests conditions ++
    bindableExprs bindsTests groupBy ++
    bindableExprs bindsTests groupConditions ++
    bindableWindows bindsTests windows ++
    bindableCompounds bindsTests compounds ++
    bindableExprs bindsTests orderBy ++
    boundRows limit ++
    boundRows offset

end

namespace Record

def bindable (bindsTests : Bool) (record : Record) : List Value :=
  record.entries.flatMap fun entry => entry.2.bindable bindsTests

end Record

namespace InsertSource

def bindable (bindsTests : Bool) : InsertSource → List Value
  | .defaultValues => []
  | .rows cells => cells.flatMap (bindableExprs bindsTests)
  | .records given => given.flatMap (Record.bindable bindsTests)
  | .query select => select.bindable bindsTests

end InsertSource

def bindableOption {α : Type} (bindable : α → List Value) : Option α → List Value
  | none => []
  | some part => bindable part

namespace Conflict

def bindable (bindsTests : Bool) (conflict : Conflict) : List Value :=
  match conflict.action with
  | .nothing => []
  | .update assignments condition =>
      assignments.bindable bindsTests ++ bindableOption (Expr.bindable bindsTests) condition

end Conflict

namespace Insert

def bindable (bindsTests : Bool) (insert : Insert) : List Value :=
  insert.commonTables.bindable bindsTests ++
  bindableOption (Expr.bindable bindsTests) insert.table ++
  (bindableExprs bindsTests insert.columns ++ insert.source.bindable bindsTests) ++
  bindableOption (Conflict.bindable bindsTests) insert.conflict ++
  bindableExprs bindsTests insert.returning

end Insert

namespace Update

def bindable (bindsTests : Bool) (update : Update) : List Value :=
  update.commonTables.bindable bindsTests ++
  bindableOption (Expr.bindable bindsTests) update.table ++
  update.assignments.bindable bindsTests ++
  bindableExprs bindsTests update.conditions ++
  bindableExprs bindsTests update.orderBy ++
  boundRows update.limit ++
  bindableExprs bindsTests update.furtherTables ++
  bindableExprs bindsTests update.returning

end Update

namespace Delete

def bindable (bindsTests : Bool) (delete : Delete) : List Value :=
  delete.commonTables.bindable bindsTests ++
  bindableOption (Expr.bindable bindsTests) delete.table ++
  bindableExprs bindsTests delete.conditions ++
  bindableExprs bindsTests delete.orderBy ++
  boundRows delete.limit ++
  bindableExprs bindsTests delete.returning

end Delete

namespace Truncate

def bindable (bindsTests : Bool) (truncate : Truncate) : List Value :=
  bindableExprs bindsTests truncate.tables

end Truncate

namespace Statement

def bindable (bindsTests : Bool) : Statement → List Value
  | .select query => query.bindable bindsTests
  | .insert insertion => insertion.bindable bindsTests
  | .update change => change.bindable bindsTests
  | .delete deletion => deletion.bindable bindsTests
  | .truncate truncation => truncation.bindable bindsTests

end Statement

section Lists

variable (bindsTests : Bool)

theorem bindableExprs_eq_flatMap (exprs : List Expr) :
    bindableExprs bindsTests exprs = exprs.flatMap (Expr.bindable bindsTests) := by
  induction exprs with
  | nil => rfl
  | cons expr rest ih => simp [bindableExprs, ih]

theorem bindableFilterTests_eq_flatMap (tests : List FilterTest) :
    bindableFilterTests bindsTests tests = tests.flatMap (FilterTest.bindable bindsTests) := by
  induction tests with
  | nil => rfl
  | cons test rest ih => simp [bindableFilterTests, ih]

theorem bindableFilterEntries_eq_flatMap (entries : List FilterEntry) :
    bindableFilterEntries bindsTests entries =
      entries.flatMap (FilterEntry.bindable bindsTests) := by
  induction entries with
  | nil => rfl
  | cons entry rest ih => simp [bindableFilterEntries, ih]

theorem bindableWindows_eq_flatMap (windows : List Window) :
    bindableWindows bindsTests windows = windows.flatMap (Window.bindable bindsTests) := by
  induction windows with
  | nil => rfl
  | cons window rest ih => simp [bindableWindows, ih]

theorem bindableJoins_eq_flatMap (joins : List Join) :
    bindableJoins bindsTests joins = joins.flatMap (Join.bindable bindsTests) := by
  induction joins with
  | nil => rfl
  | cons join rest ih => simp [bindableJoins, ih]

theorem bindableCommonTables_eq_flatMap (tables : List CommonTable) :
    bindableCommonTables bindsTests tables = tables.flatMap (CommonTable.bindable bindsTests) := by
  induction tables with
  | nil => rfl
  | cons table rest ih => simp [bindableCommonTables, ih]

theorem bindableCompounds_eq_flatMap (compounds : List Compound) :
    bindableCompounds bindsTests compounds = compounds.flatMap (Compound.bindable bindsTests) := by
  induction compounds with
  | nil => rfl
  | cons compound rest ih => simp [bindableCompounds, ih]

theorem CommonTables.bindable_of_isEmpty :
    ∀ tables : CommonTables, tables.isEmpty → tables.bindable bindsTests = []
  | ⟨_, []⟩, _ => rfl

mutual

theorem Expr.bindable_of_isEmptyCondition :
    ∀ expr : Expr, expr.isEmptyCondition → expr.bindable bindsTests = []
  | .conditions _ items, empty => bindableExprs_of_allEmptyConditions items empty
  | .filter ⟨_, entries⟩, empty => by
      have none : entries = [] := List.isEmpty_iff.mp empty
      subst none
      rfl

theorem bindableExprs_of_allEmptyConditions :
    ∀ items : List Expr, allEmptyConditions items → bindableExprs bindsTests items = []
  | [], _ => rfl
  | item :: rest, empty => by
      simp only [allEmptyConditions, Bool.and_eq_true] at empty
      rw [bindableExprs, item.bindable_of_isEmptyCondition empty.1,
        bindableExprs_of_allEmptyConditions rest empty.2]
      rfl

end

end Lists

end SqlDialects
