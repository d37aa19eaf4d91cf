import SqlDialects.Feature
import SqlDialects.Identifier
import SqlDialects.Text.Quoted
import SqlDialects.Value

/-!
Why a statement cannot be compiled. A failure of a dialect tells the name that the dialect goes by.
-/

namespace SqlDialects

/-- What is wrong with a statement under every dialect that gets so far. -/
inductive Defect where
  | identifier (identifier : Identifier) (flaw : Identifier.Flaw)
  | emptyConditions
  | emptyExcludedColumn
  | missingLeftOperand (operator : BitOperator)
  | tooFewArguments (sql : String)
  | tooManyArguments (sql : String)
  | emptyFunctionName
  | nonFinite (number : Binary64)
  | rowCount (rows : Nat)
  | offsetWithoutOrder
  | unnamedWindow
  | joinCondition (kind : JoinKind)
  | emptyUsing
  | missingTable (kind : StatementKind)
  | columnsWithoutValues
  | columnsBesideRecords
  | noRows
  | emptyRow (row : Nat)
  | rowWidth (row values columns : Nat)
  | emptyFirstRecord
  | unevenRecord (record : Nat)
  | duplicateColumn (column : String)
  | noAssignments
  | noConflictAssignments
  | missingConflictTarget
  | emptyConflictColumn
deriving DecidableEq

/-- What is wrong with a dialect. -/
inductive Misconfiguration where
  | misplaced (fragment : Fragment) (kind : StatementKind)
  | neverWritten (clause : Clause) (kind : StatementKind)
  | timePattern (pattern : String)
deriving DecidableEq

inductive Failure where
  | unknownDialect (dialect : String)
  | unsupported (feature : Feature) (dialect : String)
  | invalid (defect : Defect)
  | unescapable (character : Char) (dialect : String)
  | misconfigured (cause : Misconfiguration) (dialect : String)
deriving DecidableEq

namespace Defect

def identifierMessage (identifier : Identifier) : Identifier.Flaw → String
  | .partCount => "identifier " ++ identifier.display ++ " must have between 1 and 3 parts"
  | .emptyPart => "identifier " ++ identifier.display ++ " has an empty part"
  | .starBeforeLast => "identifier " ++ identifier.display ++ " has `*` before its last part"

def message : Defect → String
  | .identifier name flaw => identifierMessage name flaw
  | .emptyConditions => "empty condition list"
  | .emptyExcludedColumn => "excluded column name is empty"
  | .missingLeftOperand operator => operator.name ++ " needs a left operand"
  | .tooFewArguments sql => "raw SQL " ++ Text.quotedText sql ++ " has more `?` than arguments"
  | .tooManyArguments sql => "raw SQL " ++ Text.quotedText sql ++ " has more arguments than `?`"
  | .emptyFunctionName => "function name is empty"
  | .nonFinite number => "non-finite float " ++ number.text
  | .rowCount rows => "row count " ++ toString rows ++ " does not fit in i64"
  | .offsetWithoutOrder => "OFFSET ... FETCH requires an ORDER BY"
  | .unnamedWindow => "a WINDOW clause entry needs a name"
  | .joinCondition kind => kind.name ++ " does not take a condition"
  | .emptyUsing => "USING requires at least one column"
  | .missingTable kind => kind.keyword ++ " requires a table"
  | .columnsWithoutValues => "an INSERT with a column list needs values"
  | .columnsBesideRecords => "an INSERT of records takes its columns from the records"
  | .noRows => "INSERT has no rows"
  | .emptyRow row => "row " ++ toString row ++ " is empty"
  | .rowWidth row values columns =>
      "row " ++ toString row ++ " has " ++ toString values ++ " values for " ++ toString columns
        ++ " columns"
  | .emptyFirstRecord => "record 0 has no columns"
  | .unevenRecord record =>
      "record " ++ toString record ++ " does not set the same columns as record 0"
  | .duplicateColumn column => "column \"" ++ column ++ "\" is set more than once"
  | .noAssignments => "UPDATE requires at least one column to set"
  | .noConflictAssignments => "DO UPDATE requires at least one column to set"
  | .missingConflictTarget => "DO UPDATE requires a conflict target"
  | .emptyConflictColumn => "conflict target column name is empty"

end Defect

namespace Misconfiguration

def message : Misconfiguration → String
  | .misplaced fragment kind => fragment.key ++ " is not a " ++ kind.name ++ " fragment"
  | .neverWritten clause kind => "the " ++ kind.name ++ " order never renders " ++ clause.name
  | .timePattern pattern => "invalid time format " ++ Text.quotedText pattern

end Misconfiguration

namespace Failure

def message : Failure → String
  | .unknownDialect dialect => "dialect not found: " ++ dialect
  | .unsupported feature dialect =>
      feature.name ++ " is not supported by the " ++ dialect ++ " dialect"
  | .invalid defect => "invalid expression: " ++ defect.message
  | .unescapable character dialect =>
      "character " ++ Text.quotedSymbol character ++ " cannot be escaped by the " ++ dialect
        ++ " dialect"
  | .misconfigured cause dialect =>
      "invalid dialect configuration for " ++ dialect ++ ": " ++ cause.message

end Failure

end SqlDialects
