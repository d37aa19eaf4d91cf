import SqlDialects.Draft.Condition
import SqlDialects.Draft.Name
import SqlDialects.Draft.Select

/-!
Drafts of expressions and queries, by recursion on their structure. Comparisons and ranges take
parentheses when nested inside another operator, and bitwise operations always do.
-/

namespace SqlDialects

open Draft

namespace Draft

/-- Raw text, cut at its question marks, with an argument for each of them. -/
def raw (sql : String) : List String → List Draft → Draft
  | [], [] => []
  | [], _ :: _ => invalid (.tooManyArguments sql)
  | [last], [] => ofText last
  | [last], _ :: _ => ofText last ++ invalid (.tooManyArguments sql)
  | piece :: _ :: _, [] => ofText piece ++ invalid (.tooFewArguments sql)
  | piece :: next :: rest, argument :: arguments =>
      ofText piece ++ argument ++ raw sql (next :: rest) arguments

def call (name : String) (arguments : List Draft) (distinct : Bool) : Draft :=
  if name.isEmpty then invalid .emptyFunctionName
  else
    enclosed (name ++ "(")
      ((if distinct then ofText "DISTINCT " else []) ++ commaSeparated arguments) ")"

def columns (columns : List Draft) : Draft :=
  ofText " " ++ if columns.isEmpty then ofText "*" else commaSeparated columns

def groups (keys : List Draft) : Draft :=
  ofText " GROUP BY " ++ commaSeparated keys

def order (keys : List Draft) : Draft :=
  ofText " ORDER BY " ++ commaSeparated keys

def sources (sources : List Draft) : Draft :=
  ofText " FROM " ++ commaSeparated sources

def whereClause (items : List Condition) : Draft :=
  ofText " WHERE " ++ conditions .and false items

def havingClause (items : List Condition) : Draft :=
  ofText " HAVING " ++ conditions .and false items

inductive JoinPart where
  | none
  | on (condition : Draft)
  | using (columns : List String)

end Draft

namespace Dialect

def tupleDraft (dialect : Dialect) (items : List Draft) : Draft :=
  if items.isEmpty then ofText dialect.lexicon.emptyTuple
  else parenthesized (commaSeparated items)

def excludedDraft (dialect : Dialect) (column : String) : Draft :=
  if column.isEmpty then invalid .emptyExcludedColumn
  else
    enclosed dialect.lexicon.excludedOpening (dialect.nameDraft column)
      dialect.lexicon.excludedClosing

/-- The inside of a window: the extended window, the partition and the order, as far as given. -/
def windowDraft (dialect : Dialect) (parent : Option String) (partition order : List Draft) :
    Draft :=
  let parentDraft := parent.toList.map dialect.nameDraft
  let partitionDraft :=
    if partition.isEmpty then [] else [ofText "PARTITION BY " ++ commaSeparated partition]
  let keysDraft := if order.isEmpty then [] else [ofText "ORDER BY " ++ commaSeparated order]
  separated " " (parentDraft ++ partitionDraft ++ keysDraft)

def namedWindowDraft (dialect : Dialect) (name : Option String) (body : Draft) : Draft :=
  match name with
  | some name => dialect.nameDraft name ++ enclosed " AS (" body ")"
  | none => invalid .unnamedWindow

def joinPartDraft (dialect : Dialect) (kind : JoinKind) (part : JoinPart) : Draft :=
  match part with
  | .none => []
  | .on condition =>
      if kind.takesCondition then ofText " ON " ++ condition else invalid (.joinCondition kind)
  | .using columns =>
      if kind.takesCondition then
        if columns.isEmpty then invalid .emptyUsing
        else enclosed " USING (" (dialect.nameListDraft columns) ")"
      else invalid (.joinCondition kind)

def commonTableDraft (dialect : Dialect) (name : String) (query : Draft) : Draft :=
  dialect.nameDraft name ++ enclosed " AS (" query ")"

end Dialect

namespace NamedDialect

def nullsDraft (dialect : NamedDialect) : Option NullsPlacement → Draft
  | none => []
  | some .first => spelling dialect.name .nullsFirst dialect.keywords.nullsFirst
  | some .last => spelling dialect.name .nullsLast dialect.keywords.nullsLast

def bitwiseDraft (dialect : NamedDialect) (operator : BitOperator) (left? : Option Draft)
    (right : Draft) : Draft :=
  match dialect.operators.bitwise operator with
  | none => unsupported dialect.name (.bitwise operator)
  | some text =>
      parenthesized <|
        if operator = .invert then ofText text ++ right
        else
          match left? with
          | some left => left ++ ofText (" " ++ text ++ " ") ++ right
          | none => invalid (.missingLeftOperand operator)

def windowsDraft (dialect : NamedDialect) (windows : List Draft) : Draft :=
  demand dialect.name dialect.capabilities.windows (.clause .windows) ++ ofText " WINDOW "
    ++ commaSeparated windows

def joinDraft (dialect : NamedDialect) (kind : JoinKind) (source : Draft) (part : JoinPart) :
    Draft :=
  spelling dialect.name (.join kind) (dialect.operators.join kind) ++ source
    ++ dialect.joinPartDraft kind part

def commonTablesDraft (dialect : NamedDialect) (recursive : Bool) (tables : List Draft) : Draft :=
  demand dialect.name dialect.capabilities.commonTables (.clause .commonTables)
    ++ ofText dialect.keywords.commonTables
    ++ (if recursive then
          demand dialect.name dialect.capabilities.recursiveTables .recursiveTables
            ++ ofText dialect.keywords.recursive
        else [])
    ++ commaSeparated tables ++ ofText " "

def compoundDraft (dialect : NamedDialect) (kind : CompoundKind) (query : Draft) : Draft :=
  spelling dialect.name (.compound kind) (dialect.operators.compound kind)
    ++ parenthesizedIf dialect.conventions.compoundsInParentheses query

def distinctOnDraft (dialect : NamedDialect) (columns : List Draft) : Draft :=
  demand dialect.name dialect.capabilities.distinctOn .distinctOn
    ++ enclosed (dialect.keywords.distinct ++ " ON (") (commaSeparated columns) ")"

end NamedDialect

mutual

/-- An expression at the top of a clause, or nested inside an operator. -/
def Expr.draft (dialect : NamedDialect) : Expr → Bool → Draft
  | .identifier identifier, _ => dialect.identifierDraft identifier
  | .literal value, _ => dialect.valueDraft value
  | .raw sql arguments, _ =>
      Draft.raw sql (Text.pieces '?' sql) (expressionDrafts dialect true arguments)
  | .aliased expr name, _ =>
      expr.draft dialect true ++ ofText " AS " ++ dialect.identifierDraft name
  | .comparison operator left right, nested =>
      parenthesizedIf nested
        (dialect.comparisonDraft operator (left.draft dialect true) right.boolean?
          (right.draft dialect true))
  | .bitwise operator left right, _ =>
      dialect.bitwiseDraft operator (some (left.draft dialect true)) (right.draft dialect true)
  | .rightBitwise operator right, _ =>
      dialect.bitwiseDraft operator none (right.draft dialect true)
  | .range test expr low high, nested =>
      parenthesizedIf nested
        (Draft.range test (expr.draft dialect true) (low.draft dialect true)
          (high.draft dialect true))
  | .conditions connective items, nested =>
      .conditions connective nested (conditionItems dialect items)
  | .tuple items, _ => dialect.tupleDraft (expressionDrafts dialect false items)
  | .ordered expr direction nulls, _ =>
      expr.draft dialect true ++ ofText direction.text ++ dialect.nullsDraft nulls
  | .cast expr type, _ => enclosed "CAST(" (expr.draft dialect false) (" AS " ++ type ++ ")")
  | .function name arguments distinct window, _ =>
      Draft.call name (expressionDrafts dialect false arguments) distinct ++ window.draft dialect
  | .subquery query, _ => parenthesized (query.draft dialect)
  | .not expr, nested =>
      parenthesizedIf nested (enclosed "NOT (" (expr.draft dialect false) ")")
  | .filter filter, nested => filter.draft dialect nested
  | .excluded column, _ => dialect.excludedDraft column
  | .default, _ => ofText "DEFAULT"

def expressionDrafts (dialect : NamedDialect) (nested : Bool) : List Expr → List Draft
  | [] => []
  | expr :: rest => expr.draft dialect nested :: expressionDrafts dialect nested rest

def conditionItems (dialect : NamedDialect) : List Expr → List Draft.Condition
  | [] => []
  | expr :: rest =>
      ⟨expr.isEmptyCondition, expr.isConditionList, expr.draft dialect⟩
        :: conditionItems dialect rest

def FilterTest.draft (dialect : NamedDialect) (column : Draft) : FilterTest → Draft
  | .comparison operator value =>
      dialect.comparisonDraft (operator.settle value.isNullOrBoolean) column value.boolean?
        (value.draft dialect true)
  | .range test low high =>
      Draft.range test column (low.draft dialect true) (high.draft dialect true)

def filterTestItems (dialect : NamedDialect) (column : Draft) :
    List FilterTest → List Draft.Condition
  | [] => []
  | test :: rest =>
      ⟨false, false, fun nested => parenthesizedIf nested (test.draft dialect column)⟩
        :: filterTestItems dialect column rest

/-- An entry with other than one test is a list of its own. -/
def FilterEntry.item (dialect : NamedDialect) : FilterEntry → Draft.Condition
  | .value column operand =>
      ⟨false, false, fun nested =>
        parenthesizedIf nested
          (dialect.comparisonDraft (operand.filterComparison.settle operand.isNullOrBoolean)
            (dialect.identifierDraft (.parse column)) operand.boolean?
            (operand.draft dialect true))⟩
  | .tests column tests =>
      ⟨tests.isEmpty, tests.length ≠ 1, fun nested =>
        .conditions .or nested
          (filterTestItems dialect (dialect.identifierDraft (.parse column)) tests)⟩

def filterEntryItems (dialect : NamedDialect) : List FilterEntry → List Draft.Condition
  | [] => []
  | entry :: rest => entry.item dialect :: filterEntryItems dialect rest

def Filter.draft (dialect : NamedDialect) : Filter → Bool → Draft
  | ⟨any, entries⟩, nested =>
      .conditions (if any then .or else .and) nested (filterEntryItems dialect entries)

def Window.draft (dialect : NamedDialect) : Window → Draft
  | ⟨_, parent, partitionBy, orderBy⟩ =>
      dialect.windowDraft parent (expressionDrafts dialect false partitionBy)
        (expressionDrafts dialect false orderBy)

def Over.draft (dialect : NamedDialect) : Over → Draft
  | .absent => []
  | .named name =>
      demand dialect.name dialect.capabilities.windows .windowFunctions ++ ofText " OVER "
        ++ dialect.nameDraft name
  | .inline window =>
      demand dialect.name dialect.capabilities.windows .windowFunctions ++ ofText " OVER "
        ++ parenthesized (window.draft dialect)

def namedWindowDrafts (dialect : NamedDialect) : List Window → List Draft
  | [] => []
  | ⟨name, parent, partitionBy, orderBy⟩ :: rest =>
      dialect.namedWindowDraft name
        (dialect.windowDraft parent (expressionDrafts dialect false partitionBy)
          (expressionDrafts dialect false orderBy))
        :: namedWindowDrafts dialect rest

def JoinCondition.part (dialect : NamedDialect) : JoinCondition → JoinPart
  | .none => .none
  | .on condition => .on (condition.draft dialect false)
  | .using columns => .using columns

def Join.draft (dialect : NamedDialect) : Join → Draft
  | ⟨kind, source, condition⟩ =>
      dialect.joinDraft kind (source.draft dialect false) (condition.part dialect)

def joinDrafts (dialect : NamedDialect) : List Join → Draft
  | [] => []
  | join :: rest => join.draft dialect ++ joinDrafts dialect rest

def CommonTable.draft (dialect : NamedDialect) : CommonTable → Draft
  | ⟨name, query⟩ => dialect.commonTableDraft name (query.draft dialect)

def commonTableDrafts (dialect : NamedDialect) : List CommonTable → List Draft
  | [] => []
  | table :: rest => table.draft dialect :: commonTableDrafts dialect rest

def CommonTables.draft (dialect : NamedDialect) : CommonTables → Draft
  | ⟨recursive, tables⟩ => dialect.commonTablesDraft recursive (commonTableDrafts dialect tables)

def Compound.draft (dialect : NamedDialect) : Compound → Draft
  | ⟨kind, query⟩ => dialect.compoundDraft kind (query.draft dialect)

def compoundDrafts (dialect : NamedDialect) : List Compound → Draft
  | [] => []
  | compound :: rest => compound.draft dialect ++ compoundDrafts dialect rest

def Distinct.draft (dialect : NamedDialect) : Distinct → Draft
  | .none => []
  | .all => ofText dialect.keywords.distinct
  | .on columns => dialect.distinctOnDraft (expressionDrafts dialect false columns)

def Select.draft (dialect : NamedDialect) : Select → Draft
  | ⟨commonTables, distinct, columns, sources, joins, conditions, groupBy, groupConditions, windows,
      compounds, orderBy, limit, offset, lock⟩ =>
    SelectParts.draft
      { carried := Select.carried
          ⟨commonTables, distinct, columns, sources, joins, conditions, groupBy, groupConditions,
            windows, compounds, orderBy, limit, offset, lock⟩
        hasOffset := offset.isSome
        commonTables := commonTables.draft dialect
        opening := ofText dialect.keywords.select ++ distinct.draft dialect
        columns := Draft.columns (expressionDrafts dialect false columns)
        sources := Draft.sources (expressionDrafts dialect false sources)
        joins := joinDrafts dialect joins
        conditions := whereClause (conditionItems dialect conditions)
        groups := Draft.groups (expressionDrafts dialect false groupBy)
        groupConditions := havingClause (conditionItems dialect groupConditions)
        windows := dialect.windowsDraft (namedWindowDrafts dialect windows)
        compounds := compoundDrafts dialect compounds
        order := Draft.order (expressionDrafts dialect false orderBy)
        limit := Draft.rows limit
        offset := Draft.rows offset
        lock := dialect.lockDraft lock }
      dialect.name dialect.orders.select

end

theorem expressionDrafts_eq_map (dialect : NamedDialect) (nested : Bool) (exprs : List Expr) :
    expressionDrafts dialect nested exprs = exprs.map (fun expr => expr.draft dialect nested) := by
  induction exprs with
  | nil => rfl
  | cons expr rest ih => simp [expressionDrafts, ih]

theorem conditionItems_eq_map (dialect : NamedDialect) (exprs : List Expr) :
    conditionItems dialect exprs =
      exprs.map fun expr =>
        ⟨expr.isEmptyCondition, expr.isConditionList, expr.draft dialect⟩ := by
  induction exprs with
  | nil => rfl
  | cons expr rest ih => simp [conditionItems, ih]

theorem filterTestItems_eq_map (dialect : NamedDialect) (column : Draft) (tests : List FilterTest) :
    filterTestItems dialect column tests =
      tests.map fun test =>
        ⟨false, false, fun nested => parenthesizedIf nested (test.draft dialect column)⟩ := by
  induction tests with
  | nil => rfl
  | cons test rest ih => simp [filterTestItems, ih]

theorem filterEntryItems_eq_map (dialect : NamedDialect) (entries : List FilterEntry) :
    filterEntryItems dialect entries = entries.map (FilterEntry.item dialect) := by
  induction entries with
  | nil => rfl
  | cons entry rest ih => simp [filterEntryItems, ih]

theorem namedWindowDrafts_eq_map (dialect : NamedDialect) (windows : List Window) :
    namedWindowDrafts dialect windows =
      windows.map fun window => dialect.namedWindowDraft window.name (window.draft dialect) := by
  induction windows with
  | nil => rfl
  | cons window rest ih =>
      obtain ⟨name, parent, partitionBy, orderBy⟩ := window
      simp [namedWindowDrafts, Window.draft, ih]

theorem joinDrafts_eq_flatMap (dialect : NamedDialect) (joins : List Join) :
    joinDrafts dialect joins = joins.flatMap (Join.draft dialect) := by
  induction joins with
  | nil => rfl
  | cons join rest ih => simp [joinDrafts, ih]

theorem commonTableDrafts_eq_map (dialect : NamedDialect) (tables : List CommonTable) :
    commonTableDrafts dialect tables = tables.map (CommonTable.draft dialect) := by
  induction tables with
  | nil => rfl
  | cons table rest ih => simp [commonTableDrafts, ih]

theorem compoundDrafts_eq_flatMap (dialect : NamedDialect) (compounds : List Compound) :
    compoundDrafts dialect compounds = compounds.flatMap (Compound.draft dialect) := by
  induction compounds with
  | nil => rfl
  | cons compound rest ih => simp [compoundDrafts, ih]

end SqlDialects
