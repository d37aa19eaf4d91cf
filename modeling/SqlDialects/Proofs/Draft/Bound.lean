import SqlDialects.Proofs.Bindable
import SqlDialects.Proofs.Draft.Clauses

/-!
The values in the clean draft of an expression or a query are those that it has to bind.
-/

namespace SqlDialects

open Draft

variable {dialect : NamedDialect}

/-- Expressions whose clean drafts hold what the expressions have to bind. -/
def Bound (dialect : NamedDialect) (expr : Expr) : Prop :=
  ∀ nested, (expr.draft dialect nested).Clean →
    (expr.draft dialect nested).values.Perm (expr.bindable dialect.bindsBooleanTests)

theorem values_expressionDrafts {exprs : List Expr} (each : ∀ expr ∈ exprs, Bound dialect expr)
    {nested : Bool} (clean : ∀ draft ∈ expressionDrafts dialect nested exprs, draft.Clean) :
    ((expressionDrafts dialect nested exprs).flatMap values).Perm
      (bindableExprs dialect.bindsBooleanTests exprs) := by
  rw [expressionDrafts_eq_map, List.forall_mem_map] at clean
  rw [expressionDrafts_eq_map, bindableExprs_eq_flatMap, List.flatMap_map]
  exact flatMap_values (fun expr member => each expr member nested) clean

theorem yields_conditionItem {expr : Expr} (bound : Bound dialect expr) :
    Condition.Yields ⟨expr.isEmptyCondition, expr.isConditionList, expr.draft dialect⟩
      (expr.bindable dialect.bindsBooleanTests) where
  empty := expr.bindable_of_isEmptyCondition dialect.bindsBooleanTests
  draft := bound

theorem values_conditionItems {exprs : List Expr} (each : ∀ expr ∈ exprs, Bound dialect expr)
    {connective : Connective} {nested : Bool}
    (clean : (conditions connective nested (conditionItems dialect exprs)).Clean) :
    (conditions connective nested (conditionItems dialect exprs)).values.Perm
      (bindableExprs dialect.bindsBooleanTests exprs) := by
  rw [conditionItems_eq_map] at clean ⊢
  rw [bindableExprs_eq_flatMap]
  exact values_conditions (fun expr member => yields_conditionItem (each expr member)) clean

theorem Expr.bindable_of_boolean? {expr : Expr} {truth : Bool}
    (known : expr.boolean? = some truth) (bindsTests : Bool) :
    expr.bindable bindsTests = [.boolean truth] := by
  rw [Expr.eq_of_boolean? known]
  simp [Expr.bindable, Value.isNull]

theorem values_comparison {comparison : Comparison} {left : Draft} {leftValues : List Value}
    {operand : Expr} (leftBound : left.Clean → left.values.Perm leftValues)
    (bound : Bound dialect operand)
    (clean : (dialect.comparisonDraft comparison left operand.boolean?
      (operand.draft dialect true)).Clean) :
    (dialect.comparisonDraft comparison left operand.boolean?
        (operand.draft dialect true)).values.Perm
      (leftValues ++ comparison.operandValues dialect.bindsBooleanTests operand.boolean?
        (operand.bindable dialect.bindsBooleanTests)) :=
  dialect.values_comparisonDraft leftBound (bound true)
    (fun _ known => Expr.bindable_of_boolean? known _) clean

theorem values_windowsDraft {windows : List Window}
    (each : ∀ window ∈ windows, (window.draft dialect).Clean →
      (window.draft dialect).values.Perm (window.bindable dialect.bindsBooleanTests))
    (clean : (dialect.windowsDraft (namedWindowDrafts dialect windows)).Clean) :
    (dialect.windowsDraft (namedWindowDrafts dialect windows)).values.Perm
      (bindableWindows dialect.bindsBooleanTests windows) := by
  have named : ∀ window ∈ windows,
      (dialect.namedWindowDraft window.name (window.draft dialect)).Clean →
        (dialect.namedWindowDraft window.name (window.draft dialect)).values.Perm
          (window.bindable dialect.bindsBooleanTests) := by
    intro window member windowClean
    rw [NamedDialect.clean_namedWindowDraft] at windowClean
    rw [dialect.values_namedWindowDraft windowClean.1]
    exact each window member windowClean.2
  simp only [NamedDialect.windowsDraft, namedWindowDrafts_eq_map, clean_append,
    clean_commaSeparated,
    List.forall_mem_map] at clean
  simpa [NamedDialect.windowsDraft, namedWindowDrafts_eq_map, bindableWindows_eq_flatMap,
    List.flatMap_map] using flatMap_values named clean.2

namespace Select

def clauseBindable (bindsTests : Bool) (select : Select) : Clause → List Value
  | .commonTables => select.commonTables.bindable bindsTests
  | .columns => select.distinct.bindable bindsTests ++ bindableExprs bindsTests select.columns
  | .sources => bindableExprs bindsTests select.sources
  | .joins => bindableJoins bindsTests select.joins
  | .conditions => bindableExprs bindsTests select.conditions
  | .groups => bindableExprs bindsTests select.groupBy
  | .groupConditions => bindableExprs bindsTests select.groupConditions
  | .windows => bindableWindows bindsTests select.windows
  | .compounds => bindableCompounds bindsTests select.compounds
  | .order => bindableExprs bindsTests select.orderBy
  | .limit => boundRows select.limit
  | .offset => boundRows select.offset
  | _ => []

theorem bindable_eq_flatMap_carried (bindsTests : Bool) (select : Select) :
    select.bindable bindsTests = select.carried.flatMap (select.clauseBindable bindsTests) := by
  unfold carried
  rw [flatMap_carriedClauses]
  · cases select
    simp [bindable, clauseBindable]
  · simp +contextual [clauseBindable, bindableExprs, bindableJoins, bindableWindows,
      bindableCompounds, boundRows, CommonTables.bindable_of_isEmpty,
      bindableExprs_of_allEmptyConditions]

end Select

mutual

theorem Expr.bound : ∀ expr : Expr, Bound dialect expr
  | .identifier identifier, _, _ => by simp [Expr.draft, Expr.bindable]
  | .literal value, _, clean => by
      rw [Expr.draft, dialect.values_valueDraft clean, Expr.bindable]
  | .raw sql arguments, _, clean => by
      rw [Expr.draft] at clean ⊢
      obtain ⟨each, same⟩ := values_raw clean
      rw [same]
      exact values_expressionDrafts (bound_of_mem arguments) each
  | .aliased expr name, _, clean => by
      simp only [Expr.draft, clean_append] at clean
      simpa [Expr.draft, Expr.bindable] using expr.bound true clean.1.1
  | .comparison operator left right, nested, clean => by
      simp only [Expr.draft, clean_parenthesizedIf, values_parenthesizedIf] at clean ⊢
      exact values_comparison (left.bound true) right.bound clean
  | .bitwise operator left right, _, clean => by
      have leftBound := left.bound true
      exact dialect.values_bitwiseDraft (by simpa using leftBound) (right.bound true) clean
  | .rightBitwise operator right, _, clean => by
      have none : ∀ left ∈ (none : Option Draft), left.Clean → left.values.Perm [] := by simp
      simpa [Expr.draft, Expr.bindable] using
        dialect.values_bitwiseDraft none (right.bound true) clean
  | .range test expr low high, nested, clean => by
      simp only [Expr.draft, clean_parenthesizedIf, values_parenthesizedIf, clean_range,
        values_range] at clean ⊢
      obtain ⟨exprClean, lowClean, highClean⟩ := clean
      exact ((expr.bound true exprClean).append (low.bound true lowClean)).append
        (high.bound true highClean)
  | .conditions connective items, nested, clean => values_conditionItems (bound_of_mem items) clean
  | .tuple items, _, clean => by
      simp only [Expr.draft, NamedDialect.clean_tupleDraft,
        NamedDialect.values_tupleDraft] at clean ⊢
      exact values_expressionDrafts (bound_of_mem items) clean
  | .ordered expr direction nulls, _, clean => by
      simp only [Expr.draft, clean_append] at clean
      simpa [Expr.draft, Expr.bindable] using expr.bound true clean.1.1
  | .cast expr type, _, clean => by
      simp only [Expr.draft, clean_enclosed, values_enclosed] at clean ⊢
      exact expr.bound false clean
  | .function name arguments distinct window, _, clean => by
      simp only [Expr.draft, clean_append, clean_call] at clean
      obtain ⟨⟨named, each⟩, windowClean⟩ := clean
      rw [Expr.draft, values_append, values_call named]
      exact (values_expressionDrafts (bound_of_mem arguments) each).append
        (window.bound windowClean)
  | .subquery query, _, clean => by
      simp only [Expr.draft, clean_parenthesized, values_parenthesized] at clean ⊢
      exact query.bound clean
  | .not expr, nested, clean => by
      simp only [Expr.draft, clean_parenthesizedIf, values_parenthesizedIf, clean_enclosed,
        values_enclosed] at clean ⊢
      exact expr.bound false clean
  | .filter filter, nested, clean => filter.bound nested clean
  | .excluded column, _, _ => by simp [Expr.draft, Expr.bindable]
  | .default, _, _ => by simp [Expr.draft, Expr.bindable]

theorem bound_of_mem : ∀ exprs : List Expr, ∀ expr ∈ exprs, Bound dialect expr
  | [] => by simp
  | expr :: rest => by simpa using And.intro expr.bound (bound_of_mem rest)

theorem FilterTest.bound : ∀ (test : FilterTest) {column : Draft}, column.values = [] →
    (test.draft dialect column).Clean →
      (test.draft dialect column).values.Perm (test.bindable dialect.bindsBooleanTests)
  | .comparison operator value, column, silent, clean => by
      have columnBound : column.Clean → column.values.Perm [] := by simp [silent]
      exact values_comparison columnBound value.bound clean
  | .range test low high, column, silent, clean => by
      simp only [FilterTest.draft, clean_range] at clean
      obtain ⟨_, lowClean, highClean⟩ := clean
      simpa [FilterTest.draft, FilterTest.bindable, silent] using
        (low.bound true lowClean).append (high.bound true highClean)

theorem filterTestItems_bound : ∀ (tests : List FilterTest) {column : Draft}, column.values = [] →
    ∀ test ∈ tests,
      Condition.Yields
        ⟨false, false, fun nested => parenthesizedIf nested (test.draft dialect column)⟩
        (test.bindable dialect.bindsBooleanTests)
  | [], _, _ => by simp
  | test :: rest, column, silent => by
      have first : Condition.Yields
          ⟨false, false, fun nested => parenthesizedIf nested (test.draft dialect column)⟩
          (test.bindable dialect.bindsBooleanTests) :=
        ⟨by simp, by simpa using test.bound silent⟩
      simpa using And.intro first (filterTestItems_bound rest silent)

theorem FilterEntry.bound : ∀ entry : FilterEntry,
    (entry.item dialect).Yields (entry.bindable dialect.bindsBooleanTests)
  | .value column operand => by
      refine ⟨by simp [FilterEntry.item], ?_⟩
      intro nested clean
      simp only [FilterEntry.item, clean_parenthesizedIf, values_parenthesizedIf] at clean ⊢
      have columnBound : (dialect.identifierDraft (.parse column)).Clean →
          (dialect.identifierDraft (.parse column)).values.Perm [] := by simp
      exact values_comparison columnBound operand.bound clean
  | .tests column tests => by
      refine ⟨?_, ?_⟩
      · intro empty
        have none : tests = [] := by simpa [FilterEntry.item] using empty
        rw [none]
        rfl
      · intro nested clean
        simp only [FilterEntry.item, filterTestItems_eq_map] at clean ⊢
        rw [FilterEntry.bindable, bindableFilterTests_eq_flatMap]
        exact values_conditions (filterTestItems_bound tests (by simp)) clean

theorem filterEntryItems_bound : ∀ entries : List FilterEntry, ∀ entry ∈ entries,
    (entry.item dialect).Yields (entry.bindable dialect.bindsBooleanTests)
  | [] => by simp
  | entry :: rest => by simpa using And.intro entry.bound (filterEntryItems_bound rest)

theorem Filter.bound : ∀ (filter : Filter) (nested : Bool), (filter.draft dialect nested).Clean →
    (filter.draft dialect nested).values.Perm (filter.bindable dialect.bindsBooleanTests)
  | ⟨any, entries⟩, nested, clean => by
      rw [Filter.draft, filterEntryItems_eq_map] at clean ⊢
      rw [Filter.bindable, bindableFilterEntries_eq_flatMap]
      exact values_conditions (filterEntryItems_bound entries) clean

theorem Window.bound : ∀ window : Window, (window.draft dialect).Clean →
    (window.draft dialect).values.Perm (window.bindable dialect.bindsBooleanTests)
  | ⟨_, parent, partitionBy, orderBy⟩, clean => by
      simp only [Window.draft, NamedDialect.clean_windowDraft,
        NamedDialect.values_windowDraft] at clean ⊢
      exact (values_expressionDrafts (bound_of_mem partitionBy) clean.1).append
        (values_expressionDrafts (bound_of_mem orderBy) clean.2)

theorem windows_bound : ∀ windows : List Window, ∀ window ∈ windows, (window.draft dialect).Clean →
    (window.draft dialect).values.Perm (window.bindable dialect.bindsBooleanTests)
  | [] => by simp
  | window :: rest => by simpa using And.intro window.bound (windows_bound rest)

theorem Over.bound : ∀ window : Over, (window.draft dialect).Clean →
    (window.draft dialect).values.Perm (window.bindable dialect.bindsBooleanTests)
  | .absent, _ => by simp [Over.draft, Over.bindable]
  | .named name, _ => by simp [Over.draft, Over.bindable]
  | .inline window, clean => by
      simp only [Over.draft, clean_append, clean_parenthesized] at clean
      simpa [Over.draft, Over.bindable] using window.bound clean.2

theorem JoinCondition.bound : ∀ (condition : JoinCondition) (kind : JoinKind),
    (dialect.joinPartDraft kind (condition.part dialect)).Clean →
      (dialect.joinPartDraft kind (condition.part dialect)).values.Perm
        (condition.bindable dialect.bindsBooleanTests)
  | .none, _, _ => by simp [JoinCondition.part, Dialect.joinPartDraft, JoinCondition.bindable]
  | .on condition, kind, clean => by
      simp only [JoinCondition.part, Dialect.joinPartDraft] at clean ⊢
      cases takes : kind.takesCondition with
      | true =>
          simp only [takes, if_true, clean_append] at clean
          simpa [takes, JoinCondition.bindable] using condition.bound false clean.2
      | false => simp [takes] at clean
  | .using columns, kind, _ => by
      simp only [JoinCondition.part, Dialect.joinPartDraft]
      split
      · split <;> simp [JoinCondition.bindable]
      · simp [JoinCondition.bindable]

theorem Join.bound : ∀ join : Join, (join.draft dialect).Clean →
    (join.draft dialect).values.Perm (join.bindable dialect.bindsBooleanTests)
  | ⟨kind, source, condition⟩, clean => by
      simp only [Join.draft, NamedDialect.joinDraft, clean_append] at clean
      simpa [Join.draft, NamedDialect.joinDraft, Join.bindable] using
        (source.bound false clean.1.2).append (condition.bound kind clean.2)

theorem joins_bound : ∀ joins : List Join, ∀ join ∈ joins, (join.draft dialect).Clean →
    (join.draft dialect).values.Perm (join.bindable dialect.bindsBooleanTests)
  | [] => by simp
  | join :: rest => by simpa using And.intro join.bound (joins_bound rest)

theorem CommonTable.bound : ∀ table : CommonTable, (table.draft dialect).Clean →
    (table.draft dialect).values.Perm (table.bindable dialect.bindsBooleanTests)
  | ⟨name, query⟩, clean => by
      simp only [CommonTable.draft, Dialect.commonTableDraft, clean_append, clean_enclosed] at clean
      simpa [CommonTable.draft, Dialect.commonTableDraft, CommonTable.bindable]
        using query.bound clean.2

theorem commonTables_bound : ∀ tables : List CommonTable, ∀ table ∈ tables,
    (table.draft dialect).Clean →
      (table.draft dialect).values.Perm (table.bindable dialect.bindsBooleanTests)
  | [] => by simp
  | table :: rest => by simpa using And.intro table.bound (commonTables_bound rest)

theorem CommonTables.bound : ∀ tables : CommonTables, (tables.draft dialect).Clean →
    (tables.draft dialect).values.Perm (tables.bindable dialect.bindsBooleanTests)
  | ⟨recursive, tables⟩, clean => by
      rw [CommonTables.draft, commonTableDrafts_eq_map] at clean ⊢
      simp only [NamedDialect.commonTablesDraft, clean_append, clean_commaSeparated,
        List.forall_mem_map] at clean
      have joined := flatMap_values (commonTables_bound tables) clean.1.2
      rw [CommonTables.bindable, bindableCommonTables_eq_flatMap]
      cases recursive <;> simpa [NamedDialect.commonTablesDraft, List.flatMap_map] using joined

theorem Compound.bound : ∀ compound : Compound, (compound.draft dialect).Clean →
    (compound.draft dialect).values.Perm (compound.bindable dialect.bindsBooleanTests)
  | ⟨kind, query⟩, clean => by
      simp only [Compound.draft, NamedDialect.compoundDraft, clean_append,
        clean_parenthesizedIf] at clean
      simpa [Compound.draft, NamedDialect.compoundDraft, Compound.bindable] using
        query.bound clean.2

theorem compounds_bound : ∀ compounds : List Compound, ∀ compound ∈ compounds,
    (compound.draft dialect).Clean →
      (compound.draft dialect).values.Perm (compound.bindable dialect.bindsBooleanTests)
  | [] => by simp
  | compound :: rest => by simpa using And.intro compound.bound (compounds_bound rest)

theorem Distinct.bound : ∀ distinct : Distinct, (distinct.draft dialect).Clean →
    (distinct.draft dialect).values.Perm (distinct.bindable dialect.bindsBooleanTests)
  | .none, _ => by simp [Distinct.draft, Distinct.bindable]
  | .all, _ => by simp [Distinct.draft, Distinct.bindable]
  | .on columns, clean => by
      simp only [Distinct.draft, NamedDialect.distinctOnDraft, clean_append, clean_enclosed,
        clean_commaSeparated] at clean
      simpa [Distinct.draft, NamedDialect.distinctOnDraft, Distinct.bindable] using
        values_expressionDrafts (bound_of_mem columns) clean.2

theorem Select.bound : ∀ query : Select, (query.draft dialect).Clean →
    (query.draft dialect).values.Perm (query.bindable dialect.bindsBooleanTests)
  | ⟨commonTables, distinct, columns, sources, joins, conditions, groupBy, groupConditions, windows,
      compounds, orderBy, limit, offset, lock⟩, clean => by
    rw [Select.bindable_eq_flatMap_carried]
    rw [Select.draft] at clean ⊢
    refine values_assemble (SelectParts.conserves_portion? _) ?_ clean
    intro clause clauseClean
    cases clause
    case commonTables => exact commonTables.bound clauseClean
    case columns =>
      simp only [SelectParts.clauseDraft, clean_append, clean_columns] at clauseClean
      simpa [SelectParts.clauseDraft, Select.clauseBindable] using
        (distinct.bound clauseClean.1.2).append
          (values_expressionDrafts (bound_of_mem columns) clauseClean.2)
    case sources =>
      simp only [SelectParts.clauseDraft, Draft.sources, clean_append, clean_commaSeparated]
        at clauseClean
      simpa [SelectParts.clauseDraft, Draft.sources, Select.clauseBindable] using
        values_expressionDrafts (bound_of_mem sources) clauseClean.2
    case joins =>
      simp only [SelectParts.clauseDraft, joinDrafts_eq_flatMap, clean_flatMap] at clauseClean
      simpa [SelectParts.clauseDraft, joinDrafts_eq_flatMap, Select.clauseBindable,
        bindableJoins_eq_flatMap] using flatMap_values (joins_bound joins) clauseClean
    case conditions =>
      simp only [SelectParts.clauseDraft, whereClause, clean_append] at clauseClean
      simpa [SelectParts.clauseDraft, whereClause, Select.clauseBindable] using
        values_conditionItems (bound_of_mem conditions) clauseClean.2
    case groups =>
      simp only [SelectParts.clauseDraft, Draft.groups, clean_append, clean_commaSeparated]
        at clauseClean
      simpa [SelectParts.clauseDraft, Draft.groups, Select.clauseBindable] using
        values_expressionDrafts (bound_of_mem groupBy) clauseClean.2
    case groupConditions =>
      simp only [SelectParts.clauseDraft, havingClause, clean_append] at clauseClean
      simpa [SelectParts.clauseDraft, havingClause, Select.clauseBindable] using
        values_conditionItems (bound_of_mem groupConditions) clauseClean.2
    case windows => exact values_windowsDraft (windows_bound windows) clauseClean
    case compounds =>
      simp only [SelectParts.clauseDraft, compoundDrafts_eq_flatMap, clean_flatMap] at clauseClean
      simpa [SelectParts.clauseDraft, compoundDrafts_eq_flatMap, Select.clauseBindable,
        bindableCompounds_eq_flatMap] using flatMap_values (compounds_bound compounds) clauseClean
    case order =>
      simp only [SelectParts.clauseDraft, Draft.order, clean_append, clean_commaSeparated]
        at clauseClean
      simpa [SelectParts.clauseDraft, Draft.order, Select.clauseBindable] using
        values_expressionDrafts (bound_of_mem orderBy) clauseClean.2
    case limit =>
      rw [SelectParts.clauseDraft, values_rows clauseClean]
      rfl
    case offset =>
      rw [SelectParts.clauseDraft, values_rows clauseClean]
      rfl
    all_goals simp [SelectParts.clauseDraft, Select.clauseBindable]

end

end SqlDialects
