import SqlDialects.Expr

/-!
Equality of expressions and queries, part by part. Floats are compared as numbers, so an expression
that holds no number at all is not equal to itself.
-/

namespace SqlDialects

mutual

def Expr.same : Expr → Expr → Bool
  | .identifier left, .identifier right => left = right
  | .literal left, .literal right => left.same right
  | .raw leftSql left, .raw rightSql right => leftSql = rightSql && sameExprs left right
  | .aliased left leftName, .aliased right rightName => left.same right && leftName = rightName
  | .comparison leftOperator leftFirst leftSecond,
      .comparison rightOperator rightFirst rightSecond =>
      leftOperator = rightOperator && leftFirst.same rightFirst && leftSecond.same rightSecond
  | .bitwise leftOperator leftFirst leftSecond, .bitwise rightOperator rightFirst rightSecond =>
      leftOperator = rightOperator && leftFirst.same rightFirst && leftSecond.same rightSecond
  | .rightBitwise leftOperator left, .rightBitwise rightOperator right =>
      leftOperator = rightOperator && left.same right
  | .range leftTest left leftLow leftHigh, .range rightTest right rightLow rightHigh =>
      leftTest = rightTest && left.same right && leftLow.same rightLow && leftHigh.same rightHigh
  | .conditions leftKind left, .conditions rightKind right =>
      leftKind = rightKind && sameExprs left right
  | .tuple left, .tuple right => sameExprs left right
  | .ordered left leftDirection leftNulls, .ordered right rightDirection rightNulls =>
      left.same right && leftDirection = rightDirection && leftNulls = rightNulls
  | .cast left leftType, .cast right rightType => left.same right && leftType = rightType
  | .function leftName left leftDistinct leftOver,
      .function rightName right rightDistinct rightOver =>
      leftName = rightName && sameExprs left right && leftDistinct = rightDistinct
        && leftOver.same rightOver
  | .subquery left, .subquery right => left.same right
  | .not left, .not right => left.same right
  | .filter left, .filter right => left.same right
  | .excluded left, .excluded right => left = right
  | .default, .default => true
  | _, _ => false
termination_by structural left => left

def sameExprs : List Expr → List Expr → Bool
  | [], [] => true
  | left :: lefts, right :: rights => left.same right && sameExprs lefts rights
  | _, _ => false
termination_by structural left => left

def Over.same : Over → Over → Bool
  | .absent, .absent => true
  | .named left, .named right => left = right
  | .inline left, .inline right => left.same right
  | _, _ => false
termination_by structural left => left

def Window.same : Window → Window → Bool
  | ⟨leftName, leftParent, leftPartition, leftOrder⟩,
      ⟨rightName, rightParent, rightPartition, rightOrder⟩ =>
    leftName = rightName && leftParent = rightParent && sameExprs leftPartition rightPartition
      && sameExprs leftOrder rightOrder
termination_by structural left => left

def sameWindows : List Window → List Window → Bool
  | [], [] => true
  | left :: lefts, right :: rights => left.same right && sameWindows lefts rights
  | _, _ => false
termination_by structural left => left

def Filter.same : Filter → Filter → Bool
  | ⟨leftAny, left⟩, ⟨rightAny, right⟩ => leftAny = rightAny && sameFilterEntries left right
termination_by structural left => left

def FilterEntry.same : FilterEntry → FilterEntry → Bool
  | .value leftColumn left, .value rightColumn right => leftColumn = rightColumn && left.same right
  | .tests leftColumn left, .tests rightColumn right =>
      leftColumn = rightColumn && sameFilterTests left right
  | _, _ => false
termination_by structural left => left

def sameFilterEntries : List FilterEntry → List FilterEntry → Bool
  | [], [] => true
  | left :: lefts, right :: rights => left.same right && sameFilterEntries lefts rights
  | _, _ => false
termination_by structural left => left

def FilterTest.same : FilterTest → FilterTest → Bool
  | .comparison leftOperator left, .comparison rightOperator right =>
      leftOperator = rightOperator && left.same right
  | .range leftTest leftLow leftHigh, .range rightTest rightLow rightHigh =>
      leftTest = rightTest && leftLow.same rightLow && leftHigh.same rightHigh
  | _, _ => false
termination_by structural left => left

def sameFilterTests : List FilterTest → List FilterTest → Bool
  | [], [] => true
  | left :: lefts, right :: rights => left.same right && sameFilterTests lefts rights
  | _, _ => false
termination_by structural left => left

def JoinCondition.same : JoinCondition → JoinCondition → Bool
  | .none, .none => true
  | .on left, .on right => left.same right
  | .using left, .using right => left = right
  | _, _ => false
termination_by structural left => left

def Join.same : Join → Join → Bool
  | ⟨leftKind, leftSource, leftCondition⟩, ⟨rightKind, rightSource, rightCondition⟩ =>
    leftKind = rightKind && leftSource.same rightSource && leftCondition.same rightCondition
termination_by structural left => left

def sameJoins : List Join → List Join → Bool
  | [], [] => true
  | left :: lefts, right :: rights => left.same right && sameJoins lefts rights
  | _, _ => false
termination_by structural left => left

def CommonTable.same : CommonTable → CommonTable → Bool
  | ⟨leftName, left⟩, ⟨rightName, right⟩ => leftName = rightName && left.same right
termination_by structural left => left

def sameTables : List CommonTable → List CommonTable → Bool
  | [], [] => true
  | left :: lefts, right :: rights => left.same right && sameTables lefts rights
  | _, _ => false
termination_by structural left => left

def CommonTables.same : CommonTables → CommonTables → Bool
  | ⟨leftRecursive, left⟩, ⟨rightRecursive, right⟩ =>
    leftRecursive = rightRecursive && sameTables left right
termination_by structural left => left

def Compound.same : Compound → Compound → Bool
  | ⟨leftKind, left⟩, ⟨rightKind, right⟩ => leftKind = rightKind && left.same right
termination_by structural left => left

def sameCompounds : List Compound → List Compound → Bool
  | [], [] => true
  | left :: lefts, right :: rights => left.same right && sameCompounds lefts rights
  | _, _ => false
termination_by structural left => left

def Distinct.same : Distinct → Distinct → Bool
  | .none, .none => true
  | .all, .all => true
  | .on left, .on right => sameExprs left right
  | _, _ => false
termination_by structural left => left

def Select.same : Select → Select → Bool
  | ⟨leftTables, leftDistinct, leftColumns, leftSources, leftJoins, leftConditions, leftGroups,
      leftGroupConditions, leftWindows, leftCompounds, leftOrder, leftLimit, leftOffset, leftLock⟩,
    ⟨rightTables, rightDistinct, rightColumns, rightSources, rightJoins, rightConditions,
      rightGroups, rightGroupConditions, rightWindows, rightCompounds, rightOrder, rightLimit,
      rightOffset, rightLock⟩ =>
    leftTables.same rightTables && leftDistinct.same rightDistinct
      && sameExprs leftColumns rightColumns && sameExprs leftSources rightSources
      && sameJoins leftJoins rightJoins && sameExprs leftConditions rightConditions
      && sameExprs leftGroups rightGroups && sameExprs leftGroupConditions rightGroupConditions
      && sameWindows leftWindows rightWindows && sameCompounds leftCompounds rightCompounds
      && sameExprs leftOrder rightOrder && leftLimit = rightLimit && leftOffset = rightOffset
      && leftLock = rightLock
termination_by structural left => left

end

end SqlDialects
