import SqlDialects.Identifier
import SqlDialects.Operator
import SqlDialects.Value

/-!
Expressions and queries. They contain each other, through sub-queries and common tables, so they
are declared together. Nothing here depends on a dialect.
-/

namespace SqlDialects

mutual

/-- An expression in any position of a statement, a table or a sort key included. -/
inductive Expr where
  | identifier (identifier : Identifier)
  | literal (value : Value)
  | raw (sql : String) (arguments : List Expr)
  | aliased (expr : Expr) (name : Identifier)
  | comparison (operator : Comparison) (left right : Expr)
  | bitwise (operator : BitOperator) (left right : Expr)
  | rightBitwise (operator : BitOperator) (right : Expr)
  | range (test : RangeTest) (expr low high : Expr)
  | conditions (connective : Connective) (items : List Expr)
  | tuple (items : List Expr)
  | ordered (expr : Expr) (direction : Direction) (nulls : Option NullsPlacement)
  | cast (expr : Expr) (type : String)
  | function (name : String) (arguments : List Expr) (distinct : Bool) (window : Over)
  | subquery (query : Select)
  | not (expr : Expr)
  | filter (filter : Filter)
  | excluded (column : String)
  | default

inductive Over where
  | absent
  | named (name : String)
  | inline (window : Window)

structure Window where
  name : Option String
  parent : Option String
  partitionBy : List Expr
  orderBy : List Expr

/-- Conditions per column, of which all or any must hold. -/
structure Filter where
  any : Bool
  entries : List FilterEntry

inductive FilterEntry where
  | value (column : String) (value : Expr)
  | tests (column : String) (tests : List FilterTest)

inductive FilterTest where
  | comparison (operator : Comparison) (value : Expr)
  | range (test : RangeTest) (low high : Expr)

inductive JoinCondition where
  | none
  | on (condition : Expr)
  | using (columns : List String)

structure Join where
  kind : JoinKind
  source : Expr
  condition : JoinCondition

structure CommonTable where
  name : String
  query : Select

structure CommonTables where
  recursive : Bool
  tables : List CommonTable

structure Compound where
  kind : CompoundKind
  query : Select

inductive Distinct where
  | none
  | all
  | on (columns : List Expr)

/-- A query. Its clauses are held by kind; the dialect decides in which order they are written. -/
structure Select where
  commonTables : CommonTables
  distinct : Distinct
  columns : List Expr
  sources : List Expr
  joins : List Join
  conditions : List Expr
  groupBy : List Expr
  groupConditions : List Expr
  windows : List Window
  compounds : List Compound
  orderBy : List Expr
  limit : Option Nat
  offset : Option Nat
  lock : Option Lock

end

namespace CommonTables

def none : CommonTables :=
  ⟨false, []⟩

def isEmpty (commonTables : CommonTables) : Bool :=
  commonTables.tables.isEmpty

end CommonTables

namespace Select

def empty : Select where
  commonTables := .none
  distinct := .none
  columns := []
  sources := []
  joins := []
  conditions := []
  groupBy := []
  groupConditions := []
  windows := []
  compounds := []
  orderBy := []
  limit := .none
  offset := .none
  lock := .none

end Select

namespace FilterEntry

def column : FilterEntry → String
  | .value column _ => column
  | .tests column _ => column

end FilterEntry

namespace Expr

def isNullOrBoolean : Expr → Bool
  | .literal value => value.isNullOrBoolean
  | _ => false

def boolean? : Expr → Option Bool
  | .literal value => value.boolean?
  | _ => none

theorem eq_of_boolean? {expr : Expr} {truth : Bool} (known : expr.boolean? = some truth) :
    expr = .literal (.boolean truth) := by
  cases expr with
  | literal value => cases value <;> simp_all [boolean?, Value.boolean?]
  | _ => simp [boolean?] at known

/-- Lists and filters, which take parentheses inside another list. -/
def isConditionList : Expr → Bool
  | .conditions .. | .filter _ => true
  | _ => false

end Expr

mutual

/-- A condition that asks nothing: a list without items that ask something, or an empty filter. -/
def Expr.isEmptyCondition : Expr → Bool
  | .conditions _ items => allEmptyConditions items
  | .filter filter => filter.entries.isEmpty
  | _ => false

def allEmptyConditions : List Expr → Bool
  | [] => true
  | item :: rest => item.isEmptyCondition && allEmptyConditions rest

end

def Expr.asksSomething : Option Expr → Bool
  | some condition => !condition.isEmptyCondition
  | none => false

theorem allEmptyConditions_eq_all (items : List Expr) :
    allEmptyConditions items = items.all Expr.isEmptyCondition := by
  induction items with
  | nil => rfl
  | cons item rest ih => simp [allEmptyConditions, ih]

end SqlDialects
