import SqlDialects.Dialect.Standard

/-!
The SQL Server dialect: numbered parameters, no boolean type, `TOP` and `OFFSET ... FETCH` in place
of a limit, and neither conflict clauses nor returned rows.
-/

namespace SqlDialects

namespace Dialect

def sqlServer : Dialect :=
  { standard with
    capabilities :=
      { standard.capabilities with
        returning := false
        onConflict := false
        conflictTarget := false
        conflictCondition := false
        distinctOn := false
        limitOnUpdate := false
        orderOnUpdate := false
        limitOnDelete := false
        orderOnDelete := false }
    conventions :=
      { standard.conventions with
        booleanType := false
        plainBooleanTests := false
        numberedPlaceholders := true }
    lexicon :=
      { standard.lexicon with
        placeholder := "@p"
        trueText := "1"
        falseText := "0"
        timePattern := "%Y-%m-%d %H:%M:%S%.f"
        blobOpening := "0x"
        blobClosing := "" }
    keywords :=
      { standard.keywords with
        recursive := ""
        truncate := "TRUNCATE TABLE"
        cascade := none
        restrict := none
        restartIdentity := none
        nullsFirst := none
        nullsLast := none
        noWait := none
        skipLocked := none }
    operators :=
      { comparison := fun
          | .likeAnyCase | .notLikeAnyCase => none
          | .pattern | .notPattern | .patternAnyCase | .notPatternAnyCase => none
          | other => standard.operators.comparison other
        bitwise := fun
          | .xor => some "^"
          | .shiftLeft | .shiftRight => none
          | other => standard.operators.bitwise other
        join := fun
          | .natural => none
          | other => standard.operators.join other
        compound := fun
          | .intersectAll | .exceptAll => none
          | other => standard.operators.compound other
        lock := fun _ => none }
    orders :=
      { select :=
          [.commonTables, .selectWithLimit, .sources, .joins, .conditions, .groups,
            .groupConditions, .compounds, .orderWithOffsetFetch]
        insert := [.commonTables, .insertOpening, .insertTable, .insertValues]
        update :=
          [.commonTables, .updateOpening, .updateTables, .updateAssignments, .updateSources,
            .conditions]
        delete := [.commonTables, .deleteOpening, .sources, .conditions]
        truncate := [.truncation] } }

end Dialect

end SqlDialects
