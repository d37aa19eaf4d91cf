import SqlDialects.Dialect

/-!
The standard dialect: double-quoted identifiers, question marks as placeholders, and every feature
supported. The other bundled dialects say how they differ from it.
-/

namespace SqlDialects

namespace Dialect

def standard : Dialect where
  capabilities :=
    { returning := true
      onConflict := true
      conflictTarget := true
      conflictCondition := true
      insertIgnore := false
      commonTables := true
      recursiveTables := true
      distinctOn := true
      windows := true
      limitOnUpdate := true
      orderOnUpdate := true
      limitOnDelete := true
      orderOnDelete := true
      furtherTables := true }
  conventions :=
    { conflictUpdateNeedsTarget := false
      furtherTablesInFrom := true
      compoundsInParentheses := true
      booleanType := true
      plainBooleanTests := true
      quotedIdentifiers := true
      numberedPlaceholders := false }
  lexicon :=
    { identifierQuote := '"'
      textQuote := '\''
      placeholder := "?"
      escapes := .ofList [('\'', "''")]
      nullText := "NULL"
      trueText := "TRUE"
      falseText := "FALSE"
      timePattern := "%Y-%m-%dT%H:%M:%S%.f%:z"
      blobOpening := "X'"
      blobClosing := "'"
      emptyTuple := "(NULL)"
      excludedOpening := "EXCLUDED."
      excludedClosing := "" }
  keywords :=
    { commonTables := "WITH "
      recursive := "RECURSIVE "
      select := "SELECT"
      distinct := " DISTINCT"
      insert := "INSERT INTO"
      insertIgnore := "INSERT IGNORE INTO"
      update := "UPDATE"
      delete := "DELETE"
      truncate := "TRUNCATE"
      defaultValues := " DEFAULT VALUES"
      onConflict := " ON CONFLICT"
      doNothing := " DO NOTHING"
      doUpdate := " DO UPDATE SET "
      returning := " RETURNING "
      cascade := some " CASCADE"
      restrict := some " RESTRICT"
      restartIdentity := some " RESTART IDENTITY"
      nullsFirst := some " NULLS FIRST"
      nullsLast := some " NULLS LAST"
      noWait := some " NOWAIT"
      skipLocked := some " SKIP LOCKED" }
  operators :=
    { comparison := fun
        | .equal => some "="
        | .notEqual => some "!="
        | .is => some "IS"
        | .isNot => some "IS NOT"
        | .greater => some ">"
        | .greaterOrEqual => some ">="
        | .less => some "<"
        | .lessOrEqual => some "<="
        | .isIn => some "IN"
        | .isNotIn => some "NOT IN"
        | .like => some "LIKE"
        | .notLike => some "NOT LIKE"
        | .likeAnyCase => some "ILIKE"
        | .notLikeAnyCase => some "NOT ILIKE"
        | .pattern => some "~"
        | .notPattern => some "!~"
        | .patternAnyCase => some "~*"
        | .notPatternAnyCase => some "!~*"
      bitwise := fun
        | .and => some "&"
        | .or => some "|"
        | .xor => some "#"
        | .shiftLeft => some "<<"
        | .shiftRight => some ">>"
        | .invert => some "~"
      join := fun
        | .inner => some " INNER JOIN "
        | .left => some " LEFT JOIN "
        | .right => some " RIGHT JOIN "
        | .full => some " FULL JOIN "
        | .cross => some " CROSS JOIN "
        | .natural => some " NATURAL JOIN "
      compound := fun
        | .union => some " UNION "
        | .unionAll => some " UNION ALL "
        | .intersect => some " INTERSECT "
        | .intersectAll => some " INTERSECT ALL "
        | .except => some " EXCEPT "
        | .exceptAll => some " EXCEPT ALL "
      lock := fun
        | .update => some " FOR UPDATE"
        | .noKeyUpdate => some " FOR NO KEY UPDATE"
        | .share => some " FOR SHARE"
        | .keyShare => some " FOR KEY SHARE" }
  orders :=
    { select :=
        [.commonTables, .select, .sources, .joins, .conditions, .groups, .groupConditions, .windows,
          .compounds, .order, .limit, .offset, .lock]
      insert :=
        [.commonTables, .insertOpening, .insertTable, .insertValues, .conflict, .returning]
      update :=
        [.commonTables, .updateOpening, .updateTables, .updateAssignments, .updateSources,
          .conditions, .order, .limit, .returning]
      delete :=
        [.commonTables, .deleteOpening, .sources, .conditions, .order, .limit, .returning]
      truncate := [.truncation] }

end Dialect

end SqlDialects
