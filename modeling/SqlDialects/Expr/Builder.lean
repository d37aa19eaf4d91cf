import SqlDialects.Expr

/-!
Building expressions. Equality with a literal null or boolean becomes a test by identity, and a
conjunction or disjunction grows the list on its left.
-/

namespace SqlDialects

namespace Comparison

/-- Equality with a null or a boolean is a test by identity. -/
def settle (comparison : Comparison) (nullOrBoolean : Bool) : Comparison :=
  match comparison, nullOrBoolean with
  | .equal, true => .is
  | .notEqual, true => .isNot
  | other, _ => other

end Comparison

namespace Expr

def column (name : String) : Expr :=
  .identifier (Identifier.parse name)

def star : Expr :=
  .identifier Identifier.star

def call (name : String) (arguments : List Expr) : Expr :=
  .function name arguments false .absent

def aggregate (name : String) (argument : Expr) : Expr :=
  call name [argument]

def count : Expr → Expr :=
  aggregate "COUNT"

def sum : Expr → Expr :=
  aggregate "SUM"

def min : Expr → Expr :=
  aggregate "MIN"

def max : Expr → Expr :=
  aggregate "MAX"

def avg : Expr → Expr :=
  aggregate "AVG"

def compare (comparison : Comparison) (left right : Expr) : Expr :=
  .comparison (comparison.settle right.isNullOrBoolean) left right

def isNull (expr : Expr) : Expr :=
  compare .is expr (.literal .null)

def isNotNull (expr : Expr) : Expr :=
  compare .isNot expr (.literal .null)

def isTrue (expr : Expr) : Expr :=
  compare .is expr (.literal (.boolean true))

def isFalse (expr : Expr) : Expr :=
  compare .is expr (.literal (.boolean false))

def isAmong (expr : Expr) (items : List Expr) : Expr :=
  compare .isIn expr (.tuple items)

def isNotAmong (expr : Expr) (items : List Expr) : Expr :=
  compare .isNotIn expr (.tuple items)

def isBetween (expr low high : Expr) : Expr :=
  .range .between expr low high

def isNotBetween (expr low high : Expr) : Expr :=
  .range .notBetween expr low high

def inverted (expr : Expr) : Expr :=
  .rightBitwise .invert expr

/-- Joins two conditions; a list of the same kind on the left takes the right one in. -/
def connect (connective : Connective) (left right : Expr) : Expr :=
  match left with
  | .conditions kind items =>
      if kind = connective then .conditions kind (items ++ [right])
      else .conditions connective [left, right]
  | _ => .conditions connective [left, right]

def and (left right : Expr) : Expr :=
  connect .and left right

def or (left right : Expr) : Expr :=
  connect .or left right

def named (expr : Expr) (name : String) : Expr :=
  .aliased expr (.single name)

/-- Sets the direction and keeps the placement of nulls. -/
def sorted (expr : Expr) (direction : Direction) : Expr :=
  match expr with
  | .ordered inner _ nulls => .ordered inner direction nulls
  | other => .ordered other direction none

def ascending (expr : Expr) : Expr :=
  expr.sorted .ascending

def descending (expr : Expr) : Expr :=
  expr.sorted .descending

def withNulls (expr : Expr) (nulls : NullsPlacement) : Expr :=
  match expr with
  | .ordered inner direction _ => .ordered inner direction (some nulls)
  | other => .ordered other .ascending (some nulls)

def nullsFirst (expr : Expr) : Expr :=
  expr.withNulls .first

def nullsLast (expr : Expr) : Expr :=
  expr.withNulls .last

/-- Only a function call can be distinct; anything else stays as it is. -/
def distinct : Expr → Expr
  | .function name arguments _ window => .function name arguments true window
  | other => other

/-- Only a function call takes a window; anything else stays as it is. -/
def windowed (expr : Expr) (window : Over) : Expr :=
  match expr with
  | .function name arguments distinct _ => .function name arguments distinct window
  | other => other

def overWindow (expr : Expr) (window : Window) : Expr :=
  expr.windowed (.inline window)

def overNamed (expr : Expr) (window : String) : Expr :=
  expr.windowed (.named window)

end Expr

end SqlDialects
