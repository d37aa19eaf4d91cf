import SqlDialects.Dialect.Standard

/-!
The SQLite dialect: booleans are the integers one and zero, truncation is a deletion, compounds
stand without parentheses, and rows cannot be locked.
-/

namespace SqlDialects

namespace Dialect

def sqlite : Dialect :=
  { standard with
    capabilities :=
      { standard.capabilities with
        conflictCondition := false
        insertIgnore := true
        distinctOn := false
        limitOnUpdate := false
        orderOnUpdate := false
        limitOnDelete := false
        orderOnDelete := false
        furtherTables := false }
    conventions :=
      { standard.conventions with
        conflictUpdateNeedsTarget := true
        compoundsInParentheses := false }
    lexicon :=
      { standard.lexicon with
        trueText := "1"
        falseText := "0"
        timePattern := "%Y-%m-%d %H:%M:%S%.f" }
    keywords :=
      { standard.keywords with
        insertIgnore := "INSERT OR IGNORE INTO"
        truncate := "DELETE FROM"
        cascade := none
        restrict := none
        restartIdentity := none
        noWait := none
        skipLocked := none }
    operators :=
      { standard.operators with
        comparison := fun
          | .likeAnyCase => some "LIKE"
          | .notLikeAnyCase => some "NOT LIKE"
          | .pattern => some "REGEXP"
          | .notPattern => some "NOT REGEXP"
          | .patternAnyCase | .notPatternAnyCase => none
          | other => standard.operators.comparison other
        bitwise := fun
          | .xor => none
          | other => standard.operators.bitwise other
        compound := fun
          | .intersectAll | .exceptAll => none
          | other => standard.operators.compound other
        lock := fun _ => none } }

end Dialect

end SqlDialects
