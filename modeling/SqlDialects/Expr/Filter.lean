import SqlDialects.Expr.Builder
import SqlDialects.Table

/-!
Filters. Setting a column replaces what was asked of it before, and the columns stay in the order
of their code points, so a filter does not depend on how it was built. Expanding a filter gives a
list with one condition per column.
-/

namespace SqlDialects

namespace Filter

def all : Filter :=
  ⟨false, []⟩

def anyOf : Filter :=
  ⟨true, []⟩

/-- Puts an entry at the place of its column. -/
def insertEntry (entry : FilterEntry) : List FilterEntry → List FilterEntry
  | [] => [entry]
  | other :: rest =>
      match compare entry.column other.column with
      | .lt => entry :: other :: rest
      | .eq => entry :: rest
      | .gt => other :: insertEntry entry rest

def set (filter : Filter) (entry : FilterEntry) : Filter :=
  ⟨filter.any, insertEntry entry filter.entries⟩

def ofEntries (any : Bool) (entries : List FilterEntry) : Filter :=
  entries.foldl set ⟨any, []⟩

def connective (filter : Filter) : Connective :=
  if filter.any then .or else .and

end Filter

/-- A tuple is a list to be found in; any other value is to be equal. -/
def Expr.filterComparison : Expr → Comparison
  | .tuple _ => .isIn
  | _ => .equal

namespace FilterTest

def toExpr (column : Expr) : FilterTest → Expr
  | .comparison operator value => .compare operator column value
  | .range test low high => .range test column low high

end FilterTest

namespace FilterEntry

/-- A single test stands for itself; several are alternatives. -/
def toExpr : FilterEntry → Expr
  | .value column operand => .compare operand.filterComparison (.column column) operand
  | .tests column [test] => test.toExpr (.column column)
  | .tests column many => .conditions .or (many.map (FilterTest.toExpr (.column column)))

end FilterEntry

namespace Filter

def toExpr (filter : Filter) : Expr :=
  .conditions filter.connective (filter.entries.map FilterEntry.toExpr)

end Filter

end SqlDialects
