import SqlDialects.Dialect
import SqlDialects.Draft
import SqlDialects.Expr.Filter
import SqlDialects.Draft.Name
import SqlDialects.Literal

/-!
Comparisons and lists of conditions. Empty conditions are left out of a list, a single one stands
for the list, and several are joined; inside another operator the whole takes parentheses.
-/

namespace SqlDialects

open Draft

namespace NamedDialect

def comparisonSpelling (dialect : NamedDialect) (comparison : Comparison) : Draft :=
  match dialect.operators.comparison comparison with
  | some text => ofText (" " ++ text ++ " ")
  | none => unsupported dialect.name (.comparison comparison)

/-- A test for a literal boolean. Without a boolean type it is an equality with its text. -/
def booleanTestDraft (dialect : NamedDialect) (negated truth : Bool) : Draft :=
  let test : Comparison := if negated then .isNot else .is
  let equality : Comparison := if negated then .notEqual else .equal
  if !dialect.conventions.booleanType then
    dialect.comparisonSpelling equality ++ ofText (dialect.booleanText truth)
  else if dialect.conventions.plainBooleanTests then
    dialect.comparisonSpelling test ++ ofText (dialect.booleanText truth)
  else dialect.comparisonSpelling test ++ [.value .literal (.boolean truth)]

def comparisonDraft (dialect : NamedDialect) (comparison : Comparison) (left : Draft)
    (truth : Option Bool) (right : Draft) : Draft :=
  match comparison, truth with
  | .is, some truth => left ++ dialect.booleanTestDraft false truth
  | .isNot, some truth => left ++ dialect.booleanTestDraft true truth
  | _, _ => left ++ dialect.comparisonSpelling comparison ++ right

end NamedDialect

namespace Draft

def range (test : RangeTest) (expr low high : Draft) : Draft :=
  expr ++ ofText test.text ++ low ++ ofText " AND " ++ high

/-- A condition as an item of a list: whether it asks anything, whether it is a list itself, and
its draft inside and outside of another operator. -/
structure Condition where
  isEmpty : Bool
  isList : Bool
  draft : Bool → Draft

/-- Conditions that ask something, joined; a list inside the list takes parentheses. -/
def conditions (connective : Connective) (nested : Bool) (items : List Condition) : Draft :=
  match items.filter fun item => !item.isEmpty with
  | [] => invalid .emptyConditions
  | [item] => item.draft nested
  | several =>
      parenthesizedIf nested
        (separated connective.text (several.map fun item => item.draft item.isList))

end Draft

end SqlDialects
