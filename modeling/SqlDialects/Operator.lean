import SqlDialects.Vocabulary

/-!
The vocabularies of a statement: operators, joins, set operations and row locks, with the names
under which a dialect that lacks one reports it. Keywords that every dialect shares have their
text here.
-/

namespace SqlDialects

inductive Comparison where
  | equal
  | notEqual
  | is
  | isNot
  | greater
  | greaterOrEqual
  | less
  | lessOrEqual
  | isIn
  | isNotIn
  | like
  | notLike
  | likeAnyCase
  | notLikeAnyCase
  | pattern
  | notPattern
  | patternAnyCase
  | notPatternAnyCase
deriving DecidableEq, Repr

namespace Comparison

/-- The comparison that holds where this one fails. -/
def negate : Comparison → Comparison
  | .equal => .notEqual
  | .notEqual => .equal
  | .is => .isNot
  | .isNot => .is
  | .greater => .lessOrEqual
  | .greaterOrEqual => .less
  | .less => .greaterOrEqual
  | .lessOrEqual => .greater
  | .isIn => .isNotIn
  | .isNotIn => .isIn
  | .like => .notLike
  | .notLike => .like
  | .likeAnyCase => .notLikeAnyCase
  | .notLikeAnyCase => .likeAnyCase
  | .pattern => .notPattern
  | .notPattern => .pattern
  | .patternAnyCase => .notPatternAnyCase
  | .notPatternAnyCase => .patternAnyCase

@[simp] theorem negate_negate (comparison : Comparison) :
    comparison.negate.negate = comparison := by
  cases comparison <;> rfl

def name : Comparison → String
  | .equal => "= operator"
  | .notEqual => "!= operator"
  | .is => "IS operator"
  | .isNot => "IS NOT operator"
  | .greater => "> operator"
  | .greaterOrEqual => ">= operator"
  | .less => "< operator"
  | .lessOrEqual => "<= operator"
  | .isIn => "IN operator"
  | .isNotIn => "NOT IN operator"
  | .like => "LIKE operator"
  | .notLike => "NOT LIKE operator"
  | .likeAnyCase => "ILIKE operator"
  | .notLikeAnyCase => "NOT ILIKE operator"
  | .pattern => "case-sensitive regexp operator"
  | .notPattern => "negated case-sensitive regexp operator"
  | .patternAnyCase => "case-insensitive regexp operator"
  | .notPatternAnyCase => "negated case-insensitive regexp operator"

def key : Comparison → String
  | .equal => "Eq"
  | .notEqual => "NotEq"
  | .is => "Is"
  | .isNot => "IsNot"
  | .greater => "Gt"
  | .greaterOrEqual => "Gte"
  | .less => "Lt"
  | .lessOrEqual => "Lte"
  | .isIn => "In"
  | .isNotIn => "NotIn"
  | .like => "Like"
  | .notLike => "NotLike"
  | .likeAnyCase => "ILike"
  | .notLikeAnyCase => "NotILike"
  | .pattern => "RegexpLike"
  | .notPattern => "RegexpNotLike"
  | .patternAnyCase => "RegexpILike"
  | .notPatternAnyCase => "RegexpNotILike"

instance : Vocabulary Comparison where
  members := [.equal, .notEqual, .is, .isNot, .greater, .greaterOrEqual, .less, .lessOrEqual,
    .isIn, .isNotIn, .like, .notLike, .likeAnyCase, .notLikeAnyCase, .pattern, .notPattern,
    .patternAnyCase, .notPatternAnyCase]
  key := key
  complete := by intro comparison; cases comparison <;> decide
  key_injective := by intro left right same; revert same; cases left <;> cases right <;> decide

end Comparison

/-- Inversion takes a right operand only. -/
inductive BitOperator where
  | and
  | or
  | xor
  | shiftLeft
  | shiftRight
  | invert
deriving DecidableEq, Repr

namespace BitOperator

def name : BitOperator → String
  | .and => "bitwise AND"
  | .or => "bitwise OR"
  | .xor => "bitwise XOR"
  | .shiftLeft => "bitwise left shift"
  | .shiftRight => "bitwise right shift"
  | .invert => "bitwise inversion"

def key : BitOperator → String
  | .and => "And"
  | .or => "Or"
  | .xor => "Xor"
  | .shiftLeft => "LeftShift"
  | .shiftRight => "RightShift"
  | .invert => "Inversion"

instance : Vocabulary BitOperator where
  members := [.and, .or, .xor, .shiftLeft, .shiftRight, .invert]
  key := key
  complete := by intro operator; cases operator <;> decide
  key_injective := by intro left right same; revert same; cases left <;> cases right <;> decide

end BitOperator

inductive RangeTest where
  | between
  | notBetween
deriving DecidableEq, Repr

def RangeTest.text : RangeTest → String
  | .between => " BETWEEN "
  | .notBetween => " NOT BETWEEN "

inductive Connective where
  | and
  | or
deriving DecidableEq, Repr

def Connective.text : Connective → String
  | .and => " AND "
  | .or => " OR "

inductive Direction where
  | ascending
  | descending
deriving DecidableEq, Repr

def Direction.text : Direction → String
  | .ascending => " ASC"
  | .descending => " DESC"

inductive NullsPlacement where
  | first
  | last
deriving DecidableEq, Repr

inductive JoinKind where
  | inner
  | left
  | right
  | full
  | cross
  | natural
deriving DecidableEq, Repr

namespace JoinKind

def name : JoinKind → String
  | .inner => "INNER JOIN"
  | .left => "LEFT JOIN"
  | .right => "RIGHT JOIN"
  | .full => "FULL JOIN"
  | .cross => "CROSS JOIN"
  | .natural => "NATURAL JOIN"

def takesCondition : JoinKind → Bool
  | .cross | .natural => false
  | _ => true

def key : JoinKind → String
  | .inner => "Inner"
  | .left => "Left"
  | .right => "Right"
  | .full => "Full"
  | .cross => "Cross"
  | .natural => "Natural"

instance : Vocabulary JoinKind where
  members := [.inner, .left, .right, .full, .cross, .natural]
  key := key
  complete := by intro kind; cases kind <;> decide
  key_injective := by intro one other same; revert same; cases one <;> cases other <;> decide

end JoinKind

inductive CompoundKind where
  | union
  | unionAll
  | intersect
  | intersectAll
  | except
  | exceptAll
deriving DecidableEq, Repr

namespace CompoundKind

def name : CompoundKind → String
  | .union => "UNION"
  | .unionAll => "UNION ALL"
  | .intersect => "INTERSECT"
  | .intersectAll => "INTERSECT ALL"
  | .except => "EXCEPT"
  | .exceptAll => "EXCEPT ALL"

def key : CompoundKind → String
  | .union => "Union"
  | .unionAll => "UnionAll"
  | .intersect => "Intersect"
  | .intersectAll => "IntersectAll"
  | .except => "Except"
  | .exceptAll => "ExceptAll"

instance : Vocabulary CompoundKind where
  members := [.union, .unionAll, .intersect, .intersectAll, .except, .exceptAll]
  key := key
  complete := by intro kind; cases kind <;> decide
  key_injective := by intro left right same; revert same; cases left <;> cases right <;> decide

end CompoundKind

inductive LockStrength where
  | update
  | noKeyUpdate
  | share
  | keyShare
deriving DecidableEq, Repr

namespace LockStrength

def name : LockStrength → String
  | .update => "FOR UPDATE"
  | .noKeyUpdate => "FOR NO KEY UPDATE"
  | .share => "FOR SHARE"
  | .keyShare => "FOR KEY SHARE"

def key : LockStrength → String
  | .update => "Update"
  | .noKeyUpdate => "NoKeyUpdate"
  | .share => "Share"
  | .keyShare => "KeyShare"

instance : Vocabulary LockStrength where
  members := [.update, .noKeyUpdate, .share, .keyShare]
  key := key
  complete := by intro strength; cases strength <;> decide
  key_injective := by intro left right same; revert same; cases left <;> cases right <;> decide

end LockStrength

/-- What to do about a row that another transaction has locked. -/
inductive LockWait where
  | block
  | noWait
  | skipLocked
deriving DecidableEq, Repr

structure Lock where
  strength : LockStrength
  wait : LockWait
deriving DecidableEq, Repr

end SqlDialects
