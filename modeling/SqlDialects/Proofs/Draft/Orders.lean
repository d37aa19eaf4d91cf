import SqlDialects.Proofs.Draft.Kinds
import SqlDialects.Proofs.Queries

/-!
What the fragment orders of a dialect have to do with a draft: the orders of the statement's own
kind, and those of the queries that are nested in it.
-/

namespace SqlDialects

open Draft

namespace NamedDialect

def withOrders (dialect : NamedDialect) (orders : FragmentOrders) : NamedDialect :=
  { dialect with orders := orders }

@[simp] theorem withOrders_name (dialect : NamedDialect) (orders : FragmentOrders) :
    (dialect.withOrders orders).name = dialect.name := rfl

@[simp] theorem withOrders_capabilities (dialect : NamedDialect) (orders : FragmentOrders) :
    (dialect.withOrders orders).capabilities = dialect.capabilities := rfl

@[simp] theorem withOrders_conventions (dialect : NamedDialect) (orders : FragmentOrders) :
    (dialect.withOrders orders).conventions = dialect.conventions := rfl

@[simp] theorem withOrders_keywords (dialect : NamedDialect) (orders : FragmentOrders) :
    (dialect.withOrders orders).keywords = dialect.keywords := rfl

end NamedDialect

variable {dialect : NamedDialect} {orders : FragmentOrders}

/-- Queries for which other orders make no difference, whatever their clauses hold. -/
def Select.Indifferent (dialect : NamedDialect) (orders : FragmentOrders) (query : Select) : Prop :=
  ∀ parts : SelectParts, parts.carried = query.carried →
    parts.draft dialect.name orders.select = parts.draft dialect.name dialect.orders.select

theorem Select.draft_withOrders {query : Select} (indifferent : query.Indifferent dialect orders)
    (same : query.parts (dialect.withOrders orders) = query.parts dialect) :
    query.draft (dialect.withOrders orders) = query.draft dialect := by
  rw [draft_eq_parts, draft_eq_parts, same]
  exact indifferent (query.parts dialect) rfl

mutual

theorem Expr.draft_withOrders : ∀ (expr : Expr) (nested : Bool),
    (∀ query ∈ expr.queries, query.Indifferent dialect orders) →
      expr.draft (dialect.withOrders orders) nested = expr.draft dialect nested
  | .identifier _, _, _ => rfl
  | .literal _, _, _ => rfl
  | .raw sql arguments, _, each => by
      rw [Expr.draft, Expr.draft, expressionDrafts_withOrders arguments true each]
  | .aliased expr name, _, each => by
      rw [Expr.draft, Expr.draft, expr.draft_withOrders true each]
      rfl
  | .comparison operator left right, nested, each => by
      simp only [Expr.queries, List.forall_mem_append] at each
      rw [Expr.draft, Expr.draft, left.draft_withOrders true each.1,
        right.draft_withOrders true each.2]
      rfl
  | .bitwise operator left right, _, each => by
      simp only [Expr.queries, List.forall_mem_append] at each
      rw [Expr.draft, Expr.draft, left.draft_withOrders true each.1,
        right.draft_withOrders true each.2]
      rfl
  | .rightBitwise operator right, _, each => by
      rw [Expr.draft, Expr.draft, right.draft_withOrders true each]
      rfl
  | .range test expr low high, nested, each => by
      simp only [Expr.queries, List.forall_mem_append] at each
      rw [Expr.draft, Expr.draft, expr.draft_withOrders true each.1,
        low.draft_withOrders true each.2.1, high.draft_withOrders true each.2.2]
  | .conditions connective items, nested, each => by
      rw [Expr.draft, Expr.draft, conditionItems_withOrders items each]
  | .tuple items, _, each => by
      rw [Expr.draft, Expr.draft, expressionDrafts_withOrders items false each]
      rfl
  | .ordered expr direction nulls, _, each => by
      rw [Expr.draft, Expr.draft, expr.draft_withOrders true each]
      rfl
  | .cast expr type, _, each => by
      rw [Expr.draft, Expr.draft, expr.draft_withOrders false each]
  | .function name arguments distinct window, _, each => by
      simp only [Expr.queries, List.forall_mem_append] at each
      rw [Expr.draft, Expr.draft, expressionDrafts_withOrders arguments false each.1,
        window.draft_withOrders each.2]
  | .subquery query, _, each => by
      rw [Expr.draft, Expr.draft, Select.draft_withOrders (each query query.mem_queries)
        (query.parts_withOrders each)]
  | .not expr, nested, each => by
      rw [Expr.draft, Expr.draft, expr.draft_withOrders false each]
  | .filter filter, nested, each => filter.draft_withOrders nested each
  | .excluded _, _, _ => rfl
  | .default, _, _ => rfl

theorem expressionDrafts_withOrders : ∀ (exprs : List Expr) (nested : Bool),
    (∀ query ∈ exprQueries exprs, query.Indifferent dialect orders) →
      expressionDrafts (dialect.withOrders orders) nested exprs =
        expressionDrafts dialect nested exprs
  | [], _, _ => rfl
  | expr :: rest, nested, each => by
      simp only [exprQueries, List.forall_mem_append] at each
      rw [expressionDrafts, expressionDrafts, expr.draft_withOrders nested each.1,
        expressionDrafts_withOrders rest nested each.2]

theorem conditionItems_withOrders : ∀ exprs : List Expr,
    (∀ query ∈ exprQueries exprs, query.Indifferent dialect orders) →
      conditionItems (dialect.withOrders orders) exprs = conditionItems dialect exprs
  | [], _ => rfl
  | expr :: rest, each => by
      simp only [exprQueries, List.forall_mem_append] at each
      have same : expr.draft (dialect.withOrders orders) = expr.draft dialect :=
        funext fun nested => expr.draft_withOrders nested each.1
      rw [conditionItems, conditionItems, same, conditionItems_withOrders rest each.2]

theorem FilterTest.draft_withOrders : ∀ (test : FilterTest) (column : Draft),
    (∀ query ∈ test.queries, query.Indifferent dialect orders) →
      test.draft (dialect.withOrders orders) column = test.draft dialect column
  | .comparison operator value, column, each => by
      rw [FilterTest.draft, FilterTest.draft, value.draft_withOrders true each]
      rfl
  | .range test low high, column, each => by
      simp only [FilterTest.queries, List.forall_mem_append] at each
      rw [FilterTest.draft, FilterTest.draft, low.draft_withOrders true each.1,
        high.draft_withOrders true each.2]

theorem filterTestItems_withOrders : ∀ (tests : List FilterTest) (column : Draft),
    (∀ query ∈ filterTestQueries tests, query.Indifferent dialect orders) →
      filterTestItems (dialect.withOrders orders) column tests =
        filterTestItems dialect column tests
  | [], _, _ => rfl
  | test :: rest, column, each => by
      simp only [filterTestQueries, List.forall_mem_append] at each
      rw [filterTestItems, filterTestItems, test.draft_withOrders column each.1,
        filterTestItems_withOrders rest column each.2]

theorem FilterEntry.item_withOrders : ∀ entry : FilterEntry,
    (∀ query ∈ entry.queries, query.Indifferent dialect orders) →
      entry.item (dialect.withOrders orders) = entry.item dialect
  | .value column operand, each => by
      rw [FilterEntry.item, FilterEntry.item, operand.draft_withOrders true each]
      rfl
  | .tests column tests, each => by
      rw [FilterEntry.item, FilterEntry.item, filterTestItems_withOrders tests _ each]
      rfl

theorem filterEntryItems_withOrders : ∀ entries : List FilterEntry,
    (∀ query ∈ filterEntryQueries entries, query.Indifferent dialect orders) →
      filterEntryItems (dialect.withOrders orders) entries = filterEntryItems dialect entries
  | [], _ => rfl
  | entry :: rest, each => by
      simp only [filterEntryQueries, List.forall_mem_append] at each
      rw [filterEntryItems, filterEntryItems, entry.item_withOrders each.1,
        filterEntryItems_withOrders rest each.2]

theorem Filter.draft_withOrders : ∀ (filter : Filter) (nested : Bool),
    (∀ query ∈ filter.queries, query.Indifferent dialect orders) →
      filter.draft (dialect.withOrders orders) nested = filter.draft dialect nested
  | ⟨any, entries⟩, nested, each => by
      rw [Filter.draft, Filter.draft, filterEntryItems_withOrders entries each]

theorem Window.draft_withOrders : ∀ window : Window,
    (∀ query ∈ window.queries, query.Indifferent dialect orders) →
      window.draft (dialect.withOrders orders) = window.draft dialect
  | ⟨_, parent, partitionBy, orderBy⟩, each => by
      simp only [Window.queries, List.forall_mem_append] at each
      rw [Window.draft, Window.draft, expressionDrafts_withOrders partitionBy false each.1,
        expressionDrafts_withOrders orderBy false each.2]
      rfl

theorem Over.draft_withOrders : ∀ window : Over,
    (∀ query ∈ window.queries, query.Indifferent dialect orders) →
      window.draft (dialect.withOrders orders) = window.draft dialect
  | .absent, _ => rfl
  | .named _, _ => rfl
  | .inline window, each => by
      rw [Over.draft, Over.draft, window.draft_withOrders each]
      rfl

theorem namedWindowDrafts_withOrders : ∀ windows : List Window,
    (∀ query ∈ windowQueries windows, query.Indifferent dialect orders) →
      namedWindowDrafts (dialect.withOrders orders) windows = namedWindowDrafts dialect windows
  | [], _ => rfl
  | ⟨name, parent, partitionBy, orderBy⟩ :: rest, each => by
      simp only [windowQueries, Window.queries, List.forall_mem_append] at each
      rw [namedWindowDrafts, namedWindowDrafts,
        expressionDrafts_withOrders partitionBy false each.1.1,
        expressionDrafts_withOrders orderBy false each.1.2,
        namedWindowDrafts_withOrders rest each.2]
      rfl

theorem JoinCondition.part_withOrders : ∀ condition : JoinCondition,
    (∀ query ∈ condition.queries, query.Indifferent dialect orders) →
      condition.part (dialect.withOrders orders) = condition.part dialect
  | .none, _ => rfl
  | .on condition, each => by
      rw [JoinCondition.part, JoinCondition.part, condition.draft_withOrders false each]
  | .using _, _ => rfl

theorem Join.draft_withOrders : ∀ join : Join,
    (∀ query ∈ join.queries, query.Indifferent dialect orders) →
      join.draft (dialect.withOrders orders) = join.draft dialect
  | ⟨kind, source, condition⟩, each => by
      simp only [Join.queries, List.forall_mem_append] at each
      rw [Join.draft, Join.draft, source.draft_withOrders false each.1,
        condition.part_withOrders each.2]
      rfl

theorem joinDrafts_withOrders : ∀ joins : List Join,
    (∀ query ∈ joinQueries joins, query.Indifferent dialect orders) →
      joinDrafts (dialect.withOrders orders) joins = joinDrafts dialect joins
  | [], _ => rfl
  | join :: rest, each => by
      simp only [joinQueries, List.forall_mem_append] at each
      rw [joinDrafts, joinDrafts, join.draft_withOrders each.1, joinDrafts_withOrders rest each.2]

theorem CommonTable.draft_withOrders : ∀ table : CommonTable,
    (∀ query ∈ table.queries, query.Indifferent dialect orders) →
      table.draft (dialect.withOrders orders) = table.draft dialect
  | ⟨name, query⟩, each => by
      rw [CommonTable.draft, CommonTable.draft,
        Select.draft_withOrders (each query query.mem_queries) (query.parts_withOrders each)]
      rfl

theorem commonTableDrafts_withOrders : ∀ tables : List CommonTable,
    (∀ query ∈ commonTableQueries tables, query.Indifferent dialect orders) →
      commonTableDrafts (dialect.withOrders orders) tables = commonTableDrafts dialect tables
  | [], _ => rfl
  | table :: rest, each => by
      simp only [commonTableQueries, List.forall_mem_append] at each
      rw [commonTableDrafts, commonTableDrafts, table.draft_withOrders each.1,
        commonTableDrafts_withOrders rest each.2]

theorem CommonTables.draft_withOrders : ∀ tables : CommonTables,
    (∀ query ∈ tables.queries, query.Indifferent dialect orders) →
      tables.draft (dialect.withOrders orders) = tables.draft dialect
  | ⟨recursive, tables⟩, each => by
      rw [CommonTables.draft, CommonTables.draft, commonTableDrafts_withOrders tables each]
      rfl

theorem Compound.draft_withOrders : ∀ compound : Compound,
    (∀ query ∈ compound.queries, query.Indifferent dialect orders) →
      compound.draft (dialect.withOrders orders) = compound.draft dialect
  | ⟨kind, query⟩, each => by
      rw [Compound.draft, Compound.draft, Select.draft_withOrders (each query query.mem_queries)
        (query.parts_withOrders each)]
      rfl

theorem compoundDrafts_withOrders : ∀ compounds : List Compound,
    (∀ query ∈ compoundQueries compounds, query.Indifferent dialect orders) →
      compoundDrafts (dialect.withOrders orders) compounds = compoundDrafts dialect compounds
  | [], _ => rfl
  | compound :: rest, each => by
      simp only [compoundQueries, List.forall_mem_append] at each
      rw [compoundDrafts, compoundDrafts, compound.draft_withOrders each.1,
        compoundDrafts_withOrders rest each.2]

theorem Distinct.draft_withOrders : ∀ distinct : Distinct,
    (∀ query ∈ distinct.queries, query.Indifferent dialect orders) →
      distinct.draft (dialect.withOrders orders) = distinct.draft dialect
  | .none, _ => rfl
  | .all, _ => rfl
  | .on columns, each => by
      rw [Distinct.draft, Distinct.draft, expressionDrafts_withOrders columns false each]
      rfl

theorem Select.parts_withOrders : ∀ query : Select,
    (∀ nested ∈ query.queries, nested.Indifferent dialect orders) →
      query.parts (dialect.withOrders orders) = query.parts dialect
  | ⟨commonTables, distinct, columns, sources, joins, conditions, groupBy, groupConditions, windows,
      compounds, orderBy, limit, offset, lock⟩, each => by
    simp only [Select.queries, List.forall_mem_cons, List.forall_mem_append] at each
    obtain ⟨_, commonTablesEach, distinctEach, columnsEach, sourcesEach, joinsEach, conditionsEach,
      groupsEach, groupConditionsEach, windowsEach, compoundsEach, orderEach⟩ := each
    simp only [Select.parts, commonTables.draft_withOrders commonTablesEach,
      distinct.draft_withOrders distinctEach, expressionDrafts_withOrders columns false columnsEach,
      expressionDrafts_withOrders sources false sourcesEach, joinDrafts_withOrders joins joinsEach,
      conditionItems_withOrders conditions conditionsEach,
      expressionDrafts_withOrders groupBy false groupsEach,
      conditionItems_withOrders groupConditions groupConditionsEach,
      namedWindowDrafts_withOrders windows windowsEach,
      compoundDrafts_withOrders compounds compoundsEach,
      expressionDrafts_withOrders orderBy false orderEach]
    rfl

end

namespace Record

theorem entry_draft_withOrders {record : Record}
    (each : ∀ query ∈ record.queries, query.Indifferent dialect orders)
    {entry : String × Expr} (member : entry ∈ record.entries) (nested : Bool) :
    entry.2.draft (dialect.withOrders orders) nested = entry.2.draft dialect nested := by
  apply Expr.draft_withOrders
  intro query inside
  exact each query (List.mem_flatMap.mpr ⟨entry, member, inside⟩)

theorem alignedDrafts_withOrders {record : Record}
    (each : ∀ query ∈ record.queries, query.Indifferent dialect orders) (columns : List String) :
    record.alignedDrafts (dialect.withOrders orders) columns =
      record.alignedDrafts dialect columns := by
  unfold alignedDrafts
  apply List.map_congr_left
  intro column _
  cases found : record.find? column with
  | none => rfl
  | some value =>
      obtain ⟨entry, located, rfl⟩ := Option.map_eq_some_iff.mp found
      exact entry_draft_withOrders each (List.mem_of_find?_eq_some located) false

end Record

namespace NamedDialect

theorem identifierDraft_withOrders (identifier : Identifier) :
    (dialect.withOrders orders).identifierDraft identifier =
      dialect.identifierDraft identifier := rfl

theorem assignmentsDraft_withOrders {assignments : Record}
    (each : ∀ query ∈ assignments.queries, query.Indifferent dialect orders) :
    (dialect.withOrders orders).assignmentsDraft assignments =
      dialect.assignmentsDraft assignments := by
  have entries : (assignments.entries.map fun entry =>
      (dialect.withOrders orders).identifierDraft (.parse entry.1) ++ ofText " = "
        ++ entry.2.draft (dialect.withOrders orders) false) =
      assignments.entries.map fun entry =>
        dialect.identifierDraft (.parse entry.1) ++ ofText " = "
          ++ entry.2.draft dialect false := by
    apply List.map_congr_left
    intro entry member
    rw [identifierDraft_withOrders, Record.entry_draft_withOrders each member]
  rw [assignmentsDraft, assignmentsDraft, entries]

theorem returningDraft_withOrders {columns : List Expr}
    (each : ∀ query ∈ exprQueries columns, query.Indifferent dialect orders) :
    (dialect.withOrders orders).returningDraft columns = dialect.returningDraft columns := by
  rw [returningDraft, returningDraft, expressionDrafts_withOrders columns false each]
  rfl

theorem rowDrafts_withOrders {rows : List (List Expr)}
    (each : ∀ query ∈ rows.flatMap exprQueries, query.Indifferent dialect orders) :
    rows.map (expressionDrafts (dialect.withOrders orders) false) =
      rows.map (expressionDrafts dialect false) := by
  apply List.map_congr_left
  intro row member
  apply expressionDrafts_withOrders
  intro query inside
  exact each query (List.mem_flatMap.mpr ⟨row, member, inside⟩)

theorem recordDrafts_withOrders {records : List Record}
    (each : ∀ query ∈ records.flatMap Record.queries, query.Indifferent dialect orders)
    (columns : List String) :
    records.map (fun record => record.alignedDrafts (dialect.withOrders orders) columns) =
      records.map fun record => record.alignedDrafts dialect columns := by
  apply List.map_congr_left
  intro record member
  apply Record.alignedDrafts_withOrders
  intro query inside
  exact each query (List.mem_flatMap.mpr ⟨record, member, inside⟩)

theorem insertSourceDraft_withOrders {columns : List Expr} {source : InsertSource}
    (columnsEach : ∀ query ∈ exprQueries columns, query.Indifferent dialect orders)
    (sourceEach : ∀ query ∈ source.queries, query.Indifferent dialect orders) :
    (dialect.withOrders orders).insertSourceDraft columns source =
      dialect.insertSourceDraft columns source := by
  cases source with
  | defaultValues => rfl
  | rows cells =>
      rw [insertSourceDraft, insertSourceDraft, rowsSourceDraft, rowsSourceDraft,
        expressionDrafts_withOrders columns false columnsEach, rowDrafts_withOrders sourceEach]
  | records given =>
      unfold insertSourceDraft recordsSourceDraft
      cases given with
      | nil => rfl
      | cons first rest =>
          simp only [recordDrafts_withOrders sourceEach]
          rfl
  | query select =>
      rw [insertSourceDraft, insertSourceDraft,
        expressionDrafts_withOrders columns false columnsEach,
        Select.draft_withOrders (sourceEach select select.mem_queries)
          (select.parts_withOrders sourceEach)]

theorem conflictDraft_withOrders {conflict : Conflict}
    (each : ∀ query ∈ conflict.queries, query.Indifferent dialect orders) :
    (dialect.withOrders orders).conflictDraft conflict = dialect.conflictDraft conflict := by
  have action : (dialect.withOrders orders).conflictActionDraft conflict.action =
      dialect.conflictActionDraft conflict.action := by
    unfold Conflict.queries at each
    cases written : conflict.action with
    | nothing => rfl
    | update assignments condition =>
        simp only [written, List.forall_mem_append] at each
        obtain ⟨assignmentsEach, conditionEach⟩ := each
        simp only [conflictActionDraft, assignmentsDraft_withOrders assignmentsEach]
        cases condition with
        | none => rfl
        | some condition =>
            rw [Option.elim_some] at conditionEach
            simp only [condition.draft_withOrders false conditionEach]
            rfl
  rw [conflictDraft, conflictDraft, action]
  rfl

end NamedDialect

theorem Insert.portion?_withOrders {insertion : Insert} {table : Expr}
    (named : insertion.table = some table)
    (each : ∀ query ∈ (Statement.insert insertion).queries, query.Indifferent dialect orders) :
    insertion.portion? (dialect.withOrders orders) table = insertion.portion? dialect table := by
  simp only [Statement.queries, List.forall_mem_append, named, Option.elim_some] at each
  obtain ⟨commonTablesEach, tableEach, columnsEach, sourceEach, conflictEach, returningEach⟩ := each
  have conflict : insertion.conflict.map (dialect.withOrders orders).conflictDraft =
      insertion.conflict.map dialect.conflictDraft := by
    cases given : insertion.conflict with
    | none => rw [Option.map_none, Option.map_none]
    | some conflict =>
        rw [given, Option.elim_some] at conflictEach
        rw [Option.map_some, Option.map_some, NamedDialect.conflictDraft_withOrders conflictEach]
  have opening : insertion.openingDraft (dialect.withOrders orders) =
      insertion.openingDraft dialect := rfl
  funext fragment pending
  simp only [portion?, insertion.commonTables.draft_withOrders commonTablesEach, opening,
    table.draft_withOrders false tableEach,
    NamedDialect.insertSourceDraft_withOrders columnsEach sourceEach, conflict,
    NamedDialect.returningDraft_withOrders returningEach]

theorem Update.portion?_withOrders {change : Update} {table : Expr}
    (named : change.table = some table)
    (each : ∀ query ∈ (Statement.update change).queries, query.Indifferent dialect orders) :
    change.portion? (dialect.withOrders orders) table = change.portion? dialect table := by
  simp only [Statement.queries, List.forall_mem_append, named, Option.elim_some] at each
  obtain ⟨commonTablesEach, tableEach, assignmentsEach, furtherEach, conditionsEach, orderEach,
    returningEach⟩ := each
  funext fragment pending
  simp only [portion?, tables, tableDraft, furtherTablesDraft, assignmentsDraft,
    change.commonTables.draft_withOrders commonTablesEach, table.draft_withOrders false tableEach,
    NamedDialect.assignmentsDraft_withOrders assignmentsEach,
    expressionDrafts_withOrders change.furtherTables false furtherEach,
    conditionItems_withOrders change.conditions conditionsEach,
    expressionDrafts_withOrders change.orderBy false orderEach,
    NamedDialect.returningDraft_withOrders returningEach, NamedDialect.withOrders_name,
    NamedDialect.withOrders_capabilities, NamedDialect.withOrders_conventions,
    NamedDialect.withOrders_keywords]

theorem Delete.portion?_withOrders {deletion : Delete} {table : Expr}
    (named : deletion.table = some table)
    (each : ∀ query ∈ (Statement.delete deletion).queries, query.Indifferent dialect orders) :
    deletion.portion? (dialect.withOrders orders) table = deletion.portion? dialect table := by
  simp only [Statement.queries, List.forall_mem_append, named, Option.elim_some] at each
  obtain ⟨commonTablesEach, tableEach, conditionsEach, orderEach, returningEach⟩ := each
  funext fragment pending
  simp only [portion?, deletion.commonTables.draft_withOrders commonTablesEach,
    table.draft_withOrders false tableEach,
    conditionItems_withOrders deletion.conditions conditionsEach,
    expressionDrafts_withOrders deletion.orderBy false orderEach,
    NamedDialect.returningDraft_withOrders returningEach, NamedDialect.withOrders_name,
    NamedDialect.withOrders_capabilities, NamedDialect.withOrders_keywords]

theorem Truncate.portion?_withOrders {emptying : Truncate}
    (each : ∀ query ∈ exprQueries emptying.tables, query.Indifferent dialect orders) :
    emptying.portion? (dialect.withOrders orders) = emptying.portion? dialect := by
  funext fragment pending
  simp only [portion?, wholeDraft, expressionDrafts_withOrders emptying.tables false each]
  rfl

namespace Statement

theorem portion?_withOrders (statement : Statement)
    (each : ∀ query ∈ statement.queries, query.Indifferent dialect orders) :
    statement.portion? (dialect.withOrders orders) = statement.portion? dialect := by
  cases statement with
  | select query =>
      funext fragment pending
      simp only [portion?, query.parts_withOrders each]
  | insert insertion =>
      cases named : insertion.table with
      | none => simp [funext_iff, portion?, named]
      | some table =>
          rw [portion?_insert named, portion?_insert named, Insert.portion?_withOrders named each]
  | update change =>
      cases named : change.table with
      | none => simp [funext_iff, portion?, named]
      | some table =>
          rw [portion?_update named, portion?_update named, Update.portion?_withOrders named each]
  | delete deletion =>
      cases named : deletion.table with
      | none => simp [funext_iff, portion?, named]
      | some table =>
          rw [portion?_delete named, portion?_delete named, Delete.portion?_withOrders named each]
  | truncate emptying =>
      funext fragment pending
      simp only [portion?, Truncate.portion?_withOrders each]

theorem draft_withOrders (statement : Statement)
    (each : ∀ query ∈ statement.queries, query.Indifferent dialect orders)
    (same : statement.hasTable →
      assemble dialect.name statement.kind (statement.portion? dialect)
          ((dialect.withOrders orders).order statement.kind) statement.carried =
        assemble dialect.name statement.kind (statement.portion? dialect)
          (dialect.order statement.kind) statement.carried) :
    statement.draft (dialect.withOrders orders) = statement.draft dialect := by
  cases named : statement.hasTable with
  | false => rw [draft_of_no_table _ named, draft_of_no_table _ named]
  | true =>
      rw [draft_eq_assemble _ named, draft_eq_assemble _ named, statement.portion?_withOrders each,
        NamedDialect.withOrders_name, same named]

end Statement

end SqlDialects
