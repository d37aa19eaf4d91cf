import SqlDialects.Dialect.Standard

/-!
The MySQL dialect: backquoted identifiers, backslash escapes, `INSERT IGNORE` and
`ON DUPLICATE KEY UPDATE` in place of conflict targets, and the tables of an update side by side.
-/

namespace SqlDialects

namespace Dialect

def mySql : Dialect :=
  { standard with
    capabilities :=
      { standard.capabilities with
        returning := false
        conflictTarget := false
        conflictCondition := false
        insertIgnore := true
        distinctOn := false }
    conventions := { standard.conventions with furtherTablesInFrom := false }
    lexicon :=
      { standard.lexicon with
        identifierQuote := '\x60'
        escapes := .ofList
          [('\'', "\\'"), ('"', "\\\""), ('\\', "\\\\"), ('\n', "\\n"), ('\r', "\\r"),
            ('\x00', "\\0"), ('\x1a', "\\Z")]
        timePattern := "%Y-%m-%d %H:%M:%S%.6f"
        excludedOpening := "VALUES("
        excludedClosing := ")" }
    keywords :=
      { standard.keywords with
        insertIgnore := "INSERT IGNORE INTO"
        defaultValues := " VALUES ()"
        onConflict := ""
        doNothing := ""
        doUpdate := " ON DUPLICATE KEY UPDATE "
        cascade := none
        restrict := none
        restartIdentity := none
        nullsFirst := none
        nullsLast := none }
    operators :=
      { standard.operators with
        comparison := fun
          | .like => some "LIKE BINARY"
          | .notLike => some "NOT LIKE BINARY"
          | .likeAnyCase => some "LIKE"
          | .notLikeAnyCase => some "NOT LIKE"
          | .pattern => some "REGEXP BINARY"
          | .notPattern => some "NOT REGEXP BINARY"
          | .patternAnyCase => some "REGEXP"
          | .notPatternAnyCase => some "NOT REGEXP"
          | other => standard.operators.comparison other
        bitwise := fun
          | .xor => some "^"
          | other => standard.operators.bitwise other
        join := fun
          | .full => none
          | other => standard.operators.join other
        lock := fun
          | .noKeyUpdate | .keyShare => none
          | other => standard.operators.lock other } }

end Dialect

end SqlDialects
