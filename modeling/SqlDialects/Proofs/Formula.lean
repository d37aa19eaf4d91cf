import SqlDialects.Expr.Filter

/-!
Formulas: names and simple literals under comparisons, ranges, bitwise operations, negations, lists
of conditions and filters. The normal form of a formula is what its parentheses have to preserve.
-/

namespace SqlDialects

/-- A null, a boolean, an integer or a text. -/
def Value.isSimple : Value → Bool
  | .null | .boolean _ | .integer _ | .text _ => true
  | _ => false

mutual

def Expr.isFormula : Expr → Bool
  | .identifier _ => true
  | .literal value => value.isSimple
  | .comparison _ left right => left.isFormula && right.isFormula
  | .bitwise _ left right => left.isFormula && right.isFormula
  | .rightBitwise _ right => right.isFormula
  | .range _ expr low high => expr.isFormula && low.isFormula && high.isFormula
  | .conditions _ items => areFormulas items
  | .not expr => expr.isFormula
  | .filter filter => filter.isFormula
  | .raw .. | .aliased .. | .tuple _ | .ordered .. | .cast .. | .function .. | .subquery _
  | .excluded _ | .default => false

def areFormulas : List Expr → Bool
  | [] => true
  | expr :: rest => expr.isFormula && areFormulas rest

def FilterTest.isFormula : FilterTest → Bool
  | .comparison _ value => value.isFormula
  | .range _ low high => low.isFormula && high.isFormula

def areFormulaTests : List FilterTest → Bool
  | [] => true
  | test :: rest => test.isFormula && areFormulaTests rest

def FilterEntry.isFormula : FilterEntry → Bool
  | .value _ operand => operand.isFormula
  | .tests _ tests => areFormulaTests tests

def areFormulaEntries : List FilterEntry → Bool
  | [] => true
  | entry :: rest => entry.isFormula && areFormulaEntries rest

def Filter.isFormula : Filter → Bool
  | ⟨_, entries⟩ => areFormulaEntries entries

end

namespace Expr

/-- The conditions that ask something, as a list unless there is only one of them. -/
def joined (connective : Connective) (items : List Expr) : Expr :=
  match items.filter fun item => !item.isEmptyCondition with
  | [single] => single
  | several => .conditions connective several

end Expr

mutual

/-- Filters expanded, empty conditions and lists of one condition gone, and the left operand of an
inversion forgotten. -/
def Expr.norm : Expr → Expr
  | .comparison operator left right => .comparison operator left.norm right.norm
  | .bitwise operator left right =>
      if operator = .invert then .rightBitwise .invert right.norm
      else .bitwise operator left.norm right.norm
  | .rightBitwise operator right => .rightBitwise operator right.norm
  | .range test expr low high => .range test expr.norm low.norm high.norm
  | .conditions connective items => .joined connective (normExprs items)
  | .not expr => .not expr.norm
  | .filter filter => filter.norm
  | .identifier identifier => .identifier identifier
  | .literal value => .literal value
  | .raw sql arguments => .raw sql arguments
  | .aliased expr name => .aliased expr name
  | .tuple items => .tuple items
  | .ordered expr direction nulls => .ordered expr direction nulls
  | .cast expr type => .cast expr type
  | .function name arguments distinct window => .function name arguments distinct window
  | .subquery query => .subquery query
  | .excluded column => .excluded column
  | .default => .default

def normExprs : List Expr → List Expr
  | [] => []
  | expr :: rest => expr.norm :: normExprs rest

def FilterTest.norm (column : Expr) : FilterTest → Expr
  | .comparison operator value =>
      .comparison (operator.settle value.isNullOrBoolean) column value.norm
  | .range test low high => .range test column low.norm high.norm

def normFilterTests (column : Expr) : List FilterTest → List Expr
  | [] => []
  | test :: rest => test.norm column :: normFilterTests column rest

def FilterEntry.norm : FilterEntry → Expr
  | .value column operand =>
      .comparison (operand.filterComparison.settle operand.isNullOrBoolean) (.column column)
        operand.norm
  | .tests column tests => .joined .or (normFilterTests (.column column) tests)

def normFilterEntries : List FilterEntry → List Expr
  | [] => []
  | entry :: rest => entry.norm :: normFilterEntries rest

def Filter.norm : Filter → Expr
  | ⟨any, entries⟩ => .joined (if any then .or else .and) (normFilterEntries entries)

end

theorem normExprs_eq_map (exprs : List Expr) : normExprs exprs = exprs.map Expr.norm := by
  induction exprs with
  | nil => rfl
  | cons expr rest ih => simp [normExprs, ih]

theorem normFilterTests_eq_map (column : Expr) (tests : List FilterTest) :
    normFilterTests column tests = tests.map (FilterTest.norm column) := by
  induction tests with
  | nil => rfl
  | cons test rest ih => simp [normFilterTests, ih]

theorem normFilterEntries_eq_map (entries : List FilterEntry) :
    normFilterEntries entries = entries.map FilterEntry.norm := by
  induction entries with
  | nil => rfl
  | cons entry rest ih => simp [normFilterEntries, ih]

theorem FilterTest.isEmptyCondition_norm (test : FilterTest) (column : Expr) :
    (test.norm column).isEmptyCondition = false := by
  cases test <;> rfl

theorem FilterTest.norm_toExpr (test : FilterTest) (name : String) :
    (test.toExpr (.column name)).norm = test.norm (.column name) := by
  cases test <;> simp [FilterTest.toExpr, Expr.compare, Expr.column, Expr.norm, FilterTest.norm]

theorem FilterEntry.norm_toExpr (entry : FilterEntry) : entry.toExpr.norm = entry.norm := by
  cases entry with
  | value column operand =>
      simp [FilterEntry.toExpr, Expr.compare, Expr.column, Expr.norm, FilterEntry.norm]
  | tests column tests =>
      have several : (tests.map (FilterTest.toExpr (.column column))).map Expr.norm =
          tests.map (FilterTest.norm (.column column)) := by
        rw [List.map_map]
        exact List.map_congr_left fun test _ => test.norm_toExpr column
      rcases tests with _ | ⟨single, _ | ⟨second, rest⟩⟩
      · rfl
      · simp [FilterEntry.toExpr, FilterEntry.norm, FilterTest.norm_toExpr, normFilterTests,
          Expr.joined, FilterTest.isEmptyCondition_norm]
      · rw [FilterEntry.toExpr, Expr.norm, normExprs_eq_map, several, FilterEntry.norm,
          normFilterTests_eq_map]
        simp

theorem Filter.norm_toExpr (filter : Filter) : filter.toExpr.norm = (Expr.filter filter).norm := by
  obtain ⟨any, entries⟩ := filter
  have each : (entries.map FilterEntry.toExpr).map Expr.norm = entries.map FilterEntry.norm := by
    rw [List.map_map]
    exact List.map_congr_left fun entry _ => entry.norm_toExpr
  rw [Filter.toExpr, Expr.norm, normExprs_eq_map, each]
  simp [Expr.norm, Filter.norm, normFilterEntries_eq_map, Filter.connective]

end SqlDialects
