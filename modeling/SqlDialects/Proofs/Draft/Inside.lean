import SqlDialects.Proofs.Draft.Kinds
import SqlDialects.Proofs.Draft.Within
import SqlDialects.Proofs.Subterms

/-!
Everything that an expression or a query is made of stands, drafted for itself, within any clean
whole that the expression or the query stands within, by recursion on the syntax. Only conditions
that ask nothing are left out, and a test may spell out a literal boolean.
-/

namespace SqlDialects

open Draft

variable {dialect : NamedDialect} {whole : Draft}

/-- A query or an expression stands within a whole, unless nothing is drafted for it: a condition
that asks nothing, or a literal boolean that a test spells out. -/
def Subterm.Within (dialect : NamedDialect) (whole : Draft) : Subterm → Prop
  | .expr part =>
      part.isEmptyCondition ∨ part.boolean?.isSome ∨ ∃ nested, part.draft dialect nested <:+: whole
  | .query part => part.draft dialect <:+: whole

def AllWithin (dialect : NamedDialect) (whole : Draft) (subterms : List Subterm) : Prop :=
  ∀ subterm ∈ subterms, subterm.Within dialect whole

@[simp] theorem allWithin_nil : AllWithin dialect whole [] := by
  simp [AllWithin]

@[simp] theorem allWithin_cons (subterm : Subterm) (rest : List Subterm) :
    AllWithin dialect whole (subterm :: rest) ↔
      subterm.Within dialect whole ∧ AllWithin dialect whole rest :=
  List.forall_mem_cons

@[simp] theorem allWithin_append (first second : List Subterm) :
    AllWithin dialect whole (first ++ second) ↔
      AllWithin dialect whole first ∧ AllWithin dialect whole second :=
  List.forall_mem_append

@[simp] theorem allWithin_flatMap {α : Type} (items : List α) (subterms : α → List Subterm) :
    AllWithin dialect whole (items.flatMap subterms) ↔
      ∀ item ∈ items, AllWithin dialect whole (subterms item) := by
  constructor
  · intro all item member subterm inside
    exact all subterm (List.mem_flatMap.mpr ⟨item, member, inside⟩)
  · intro each subterm member
    obtain ⟨item, listed, inside⟩ := List.mem_flatMap.mp member
    exact each item listed subterm inside

theorem within_of_draft {expr : Expr} {nested : Bool}
    (inside : expr.draft dialect nested <:+: whole) : Subterm.Within dialect whole (.expr expr) :=
  .inr (.inr ⟨nested, inside⟩)

theorem within_of_drafts {exprs : List Expr} {nested : Bool}
    (inside : ∀ draft ∈ expressionDrafts dialect nested exprs, draft <:+: whole) :
    ∀ expr ∈ exprs, Subterm.Within dialect whole (.expr expr) := by
  rw [expressionDrafts_eq_map, List.forall_mem_map] at inside
  intro expr member
  exact within_of_draft (inside expr member)

theorem within_of_carried {exprs : List Expr} {nested : Bool}
    (inside : exprs.isEmpty = false →
      ∀ draft ∈ expressionDrafts dialect nested exprs, draft <:+: whole) :
    ∀ expr ∈ exprs, Subterm.Within dialect whole (.expr expr) := by
  intro expr member
  have given : exprs.isEmpty = false := by
    simpa using List.ne_nil_of_mem member
  exact within_of_drafts (inside given) expr member

theorem within_of_items (clean : whole.Clean) {exprs : List Expr} {connective : Connective}
    {nested : Bool}
    (inside : conditions connective nested (conditionItems dialect exprs) <:+: whole) :
    ∀ expr ∈ exprs, Subterm.Within dialect whole (.expr expr) := by
  rw [conditionItems_eq_map] at inside
  intro expr member
  rcases within_conditions clean inside _ (List.mem_map_of_mem member) with empty | drafted
  · exact .inl empty
  · exact .inr (.inr drafted)

theorem within_of_asking (clean : whole.Clean) {exprs : List Expr} {connective : Connective}
    {nested : Bool}
    (inside : allEmptyConditions exprs = false →
      conditions connective nested (conditionItems dialect exprs) <:+: whole) :
    ∀ expr ∈ exprs, Subterm.Within dialect whole (.expr expr) := by
  cases asking : allEmptyConditions exprs with
  | false => exact within_of_items clean (inside asking)
  | true =>
      rw [allEmptyConditions_eq_all, List.all_eq_true] at asking
      exact fun expr member => .inl (asking expr member)

theorem within_of_operand {comparison : Comparison} {left : Draft} {operand : Expr}
    (inside : dialect.comparisonDraft comparison left operand.boolean?
      (operand.draft dialect true) <:+: whole) :
    Subterm.Within dialect whole (.expr operand) := by
  have right := (NamedDialect.within_comparisonDraft inside).2
  cases known : operand.boolean? with
  | none => exact within_of_draft (right known)
  | some truth => exact .inr (.inl (by simp [known]))

/-- What a query within a whole says of its clauses. -/
structure Select.Within (dialect : NamedDialect) (whole : Draft) (query : Select) : Prop where
  commonTables : query.commonTables.isEmpty = false → query.commonTables.draft dialect <:+: whole
  distinct : query.distinct.draft dialect <:+: whole
  columns : ∀ expr ∈ query.columns, Subterm.Within dialect whole (.expr expr)
  sources : ∀ expr ∈ query.sources, Subterm.Within dialect whole (.expr expr)
  joins : ∀ join ∈ query.joins, join.draft dialect <:+: whole
  conditions : ∀ expr ∈ query.conditions, Subterm.Within dialect whole (.expr expr)
  groupBy : ∀ expr ∈ query.groupBy, Subterm.Within dialect whole (.expr expr)
  groupConditions : ∀ expr ∈ query.groupConditions, Subterm.Within dialect whole (.expr expr)
  windows : ∀ window ∈ query.windows, window.draft dialect <:+: whole
  compounds : ∀ compound ∈ query.compounds, compound.draft dialect <:+: whole
  orderBy : ∀ expr ∈ query.orderBy, Subterm.Within dialect whole (.expr expr)

theorem Select.within (clean : whole.Clean) {query : Select}
    (inside : query.draft dialect <:+: whole) : query.Within dialect whole := by
  have queryClean := clean_of_within clean inside
  rw [Select.draft_eq_parts] at inside queryClean
  have part : ∀ clause ∈ query.carried, ∀ core ∈ (query.parts dialect).cores clause,
      core <:+: whole := by
    intro clause member core listed
    exact (within_assemble (SelectParts.writesClauses _) queryClean clause member core
      listed).trans inside
  have clausePart : ∀ clause ∈ query.carried, clause ≠ .columns →
      (query.parts dialect).clauseDraft clause <:+: whole := by
    intro clause member different
    apply part clause member
    cases clause <;> first | exact absurd rfl different | exact List.mem_singleton.mpr rfl
  have opening := part .columns query.columns_mem_carried (query.parts dialect).opening
    (by simp [SelectParts.cores])
  have columns := part .columns query.columns_mem_carried (query.parts dialect).columns
    (by simp [SelectParts.cores])
  refine
    { commonTables := fun given =>
        clausePart .commonTables (by simp [carried, given]) (by simp)
      distinct := (within_append opening).2
      columns := within_of_drafts (within_columns columns)
      sources := within_of_carried fun given => within_separated
        (within_append (clausePart .sources (by simp [carried, given]) (by simp))).2
      joins := ?_
      conditions := within_of_asking clean fun asking =>
        (within_append (clausePart .conditions (by simp [carried, asking]) (by simp))).2
      groupBy := within_of_carried fun given => within_separated
        (within_append (clausePart .groups (by simp [carried, given]) (by simp))).2
      groupConditions := within_of_asking clean fun asking =>
        (within_append (clausePart .groupConditions (by simp [carried, asking]) (by simp))).2
      windows := ?_
      compounds := ?_
      orderBy := within_of_carried fun given => within_separated
        (within_append (clausePart .order (by simp [carried, given]) (by simp))).2 }
  · have clause := fun given => clausePart .joins (by simpa [carried] using given) (by simp)
    simp only [SelectParts.clauseDraft, Select.parts, joinDrafts_eq_flatMap] at clause
    exact fun join member => within_flatMap (clause (List.ne_nil_of_mem member)) join member
  · intro window member
    have clause := clausePart .windows (by simp [carried, List.ne_nil_of_mem member]) (by simp)
    have listed := within_separated (within_append clause).2
    rw [namedWindowDrafts_eq_map, List.forall_mem_map] at listed
    exact NamedDialect.within_namedWindowDraft clean (listed window member)
  · have clause := fun given => clausePart .compounds (by simpa [carried] using given) (by simp)
    simp only [SelectParts.clauseDraft, Select.parts, compoundDrafts_eq_flatMap] at clause
    exact fun compound member =>
      within_flatMap (clause (List.ne_nil_of_mem member)) compound member

mutual

theorem Expr.allWithin_of_isEmptyCondition : ∀ expr : Expr, expr.isEmptyCondition →
    AllWithin dialect whole expr.subterms
  | .conditions connective items, empty => by
      have inside := allWithin_of_allEmptyConditions items empty
      simpa [Expr.subterms, Subterm.Within, inside] using .inl empty
  | .filter ⟨any, entries⟩, empty => by
      have none : entries = [] := by simpa [Expr.isEmptyCondition] using empty
      simp [none, Expr.subterms, Filter.subterms, filterEntrySubterms, Subterm.Within,
        Expr.isEmptyCondition]
  | .identifier _, empty | .literal _, empty | .raw _ _, empty | .aliased _ _, empty
  | .comparison _ _ _, empty | .bitwise _ _ _, empty | .rightBitwise _ _, empty
  | .range _ _ _ _, empty | .tuple _, empty | .ordered _ _ _, empty | .cast _ _, empty
  | .function _ _ _ _, empty | .subquery _, empty | .not _, empty | .excluded _, empty
  | .default, empty => by simp [Expr.isEmptyCondition] at empty

theorem allWithin_of_allEmptyConditions : ∀ exprs : List Expr, allEmptyConditions exprs →
    AllWithin dialect whole (exprSubterms exprs)
  | [], _ => by simp [exprSubterms]
  | expr :: rest, empty => by
      simp only [allEmptyConditions, Bool.and_eq_true] at empty
      have first := expr.allWithin_of_isEmptyCondition empty.1
      have later := allWithin_of_allEmptyConditions rest empty.2
      simp [exprSubterms, first, later]

end

theorem Expr.allWithin_of_boolean? {expr : Expr} (known : expr.boolean?.isSome) :
    AllWithin dialect whole expr.subterms := by
  obtain ⟨truth, found⟩ := Option.isSome_iff_exists.mp known
  rw [Expr.eq_of_boolean? found]
  simp [Expr.subterms, Subterm.Within, Expr.boolean?, Value.boolean?]

theorem Expr.allWithin_of_within {expr : Expr}
    (below : ∀ {nested}, expr.draft dialect nested <:+: whole →
      AllWithin dialect whole expr.subterms)
    (inside : Subterm.Within dialect whole (.expr expr)) :
    AllWithin dialect whole expr.subterms := by
  rcases inside with empty | known | ⟨_, inside⟩
  · exact expr.allWithin_of_isEmptyCondition empty
  · exact expr.allWithin_of_boolean? known
  · exact below inside

theorem FilterEntry.within_tests (clean : whole.Clean) {column : String} {tests : List FilterTest}
    (drafted : (FilterEntry.item dialect (.tests column tests)).isEmpty ∨
      ∃ nested, (FilterEntry.item dialect (.tests column tests)).draft nested <:+: whole) :
    ∀ test ∈ tests, test.draft dialect (dialect.identifierDraft (.parse column)) <:+: whole := by
  simp only [FilterEntry.item, filterTestItems_eq_map] at drafted
  rcases drafted with empty | ⟨nested, inside⟩
  · have none : tests = [] := by simpa using empty
    simp [none]
  · intro test member
    rcases within_conditions clean inside _ (List.mem_map_of_mem member) with empty | ⟨inner, kept⟩
    · simp at empty
    · exact within_parenthesizedIf kept

theorem Filter.within_entries (clean : whole.Clean) {filter : Filter} {nested : Bool}
    (inside : filter.draft dialect nested <:+: whole) : ∀ entry ∈ filter.entries,
      (entry.item dialect).isEmpty ∨ ∃ inner, (entry.item dialect).draft inner <:+: whole := by
  obtain ⟨any, entries⟩ := filter
  rw [Filter.draft, filterEntryItems_eq_map] at inside
  intro entry member
  exact within_conditions clean inside _ (List.mem_map_of_mem member)

theorem CommonTables.within_tables {tables : CommonTables}
    (inside : tables.isEmpty = false → tables.draft dialect <:+: whole) :
    ∀ table ∈ tables.tables, table.draft dialect <:+: whole := by
  obtain ⟨recursive, tables⟩ := tables
  intro table member
  have clause := inside (by simpa [CommonTables.isEmpty] using List.ne_nil_of_mem member)
  have listed := within_separated (within_append (within_append clause).1).2
  rw [commonTableDrafts_eq_map, List.forall_mem_map] at listed
  exact listed table member

-- By recursion on the syntax. The whole stays the same all the way down: each case only finds the
-- drafts of the parts in the draft that stands within it.
mutual

theorem Expr.allWithin (clean : whole.Clean) : ∀ (expr : Expr) {nested : Bool},
    expr.draft dialect nested <:+: whole → AllWithin dialect whole expr.subterms
  | .identifier identifier, _, inside => by simpa [Expr.subterms] using within_of_draft inside
  | .literal value, _, inside => by simpa [Expr.subterms] using within_of_draft inside
  | .raw sql arguments, _, inside => by
      have each := exprs_allWithin clean arguments (within_of_drafts (within_raw clean inside))
      simpa [Expr.subterms, each] using within_of_draft inside
  | .aliased expr name, _, inside => by
      obtain ⟨led, _⟩ := within_append inside
      have below := expr.allWithin clean (within_append led).1
      simpa [Expr.subterms, below] using within_of_draft inside
  | .comparison operator left right, _, inside => by
      have body := within_parenthesizedIf inside
      have leftBelow := left.allWithin clean (NamedDialect.within_comparisonDraft body).1
      have rightBelow := right.allWithin_of_within (right.allWithin clean) (within_of_operand body)
      simpa [Expr.subterms, leftBelow, rightBelow] using within_of_draft inside
  | .bitwise operator left right, _, inside => by
      obtain ⟨rightInside, leftInside⟩ := NamedDialect.within_bitwiseDraft clean inside
      have rightBelow := right.allWithin clean rightInside
      by_cases inverts : operator = .invert
      · simpa [Expr.subterms, inverts, rightBelow] using within_of_draft inside
      · have leftBelow := left.allWithin clean (leftInside inverts _ rfl)
        simpa [Expr.subterms, inverts, leftBelow, rightBelow] using within_of_draft inside
  | .rightBitwise operator right, _, inside => by
      have below := right.allWithin clean (NamedDialect.within_bitwiseDraft clean inside).1
      simpa [Expr.subterms, below] using within_of_draft inside
  | .range test expr low high, _, inside => by
      obtain ⟨exprInside, lowInside, highInside⟩ := within_range (within_parenthesizedIf inside)
      have exprBelow := expr.allWithin clean exprInside
      have lowBelow := low.allWithin clean lowInside
      have highBelow := high.allWithin clean highInside
      simpa [Expr.subterms, exprBelow, lowBelow, highBelow] using within_of_draft inside
  | .conditions connective items, _, inside => by
      have each := exprs_allWithin clean items (within_of_items clean inside)
      simpa [Expr.subterms, each] using within_of_draft inside
  | .tuple items, _, inside => by
      have each := exprs_allWithin clean items
        (within_of_drafts (NamedDialect.within_tupleDraft inside))
      simpa [Expr.subterms, each] using within_of_draft inside
  | .ordered expr direction nulls, _, inside => by
      obtain ⟨led, _⟩ := within_append inside
      have below := expr.allWithin clean (within_append led).1
      simpa [Expr.subterms, below] using within_of_draft inside
  | .cast expr type, _, inside => by
      have below := expr.allWithin clean (within_enclosed inside)
      simpa [Expr.subterms, below] using within_of_draft inside
  | .function name arguments distinct window, _, inside => by
      obtain ⟨called, windowed⟩ := within_append inside
      have each := exprs_allWithin clean arguments (within_of_drafts (within_call clean called))
      have below := window.allWithin clean windowed
      simpa [Expr.subterms, each, below] using within_of_draft inside
  | .subquery query, _, inside => by
      have below := query.allWithin clean (within_enclosed inside)
      simpa [Expr.subterms, below] using within_of_draft inside
  | .not expr, _, inside => by
      have below := expr.allWithin clean (within_enclosed (within_parenthesizedIf inside))
      simpa [Expr.subterms, below] using within_of_draft inside
  | .filter filter, _, inside => by
      have below := filter.allWithin clean inside
      simpa [Expr.subterms, below] using within_of_draft inside
  | .excluded column, _, inside => by simpa [Expr.subterms] using within_of_draft inside
  | .default, _, inside => by simpa [Expr.subterms] using within_of_draft inside

theorem exprs_allWithin (clean : whole.Clean) : ∀ exprs : List Expr,
    (∀ expr ∈ exprs, Subterm.Within dialect whole (.expr expr)) →
      AllWithin dialect whole (exprSubterms exprs)
  | [], _ => by simp [exprSubterms]
  | expr :: rest, each => by
      have first := expr.allWithin_of_within (expr.allWithin clean) (each expr (by simp))
      have later := exprs_allWithin clean rest fun other member => each other (by simp [member])
      simp [exprSubterms, first, later]

theorem FilterTest.allWithin (clean : whole.Clean) : ∀ (test : FilterTest) {column : Draft},
    test.draft dialect column <:+: whole → AllWithin dialect whole test.subterms
  | .comparison operator value, _, inside =>
      value.allWithin_of_within (value.allWithin clean) (within_of_operand inside)
  | .range test low high, _, inside => by
      obtain ⟨_, lowInside, highInside⟩ := within_range inside
      have lowBelow := low.allWithin clean lowInside
      have highBelow := high.allWithin clean highInside
      simp [FilterTest.subterms, lowBelow, highBelow]

theorem filterTests_allWithin (clean : whole.Clean) : ∀ (tests : List FilterTest) {column : Draft},
    (∀ test ∈ tests, test.draft dialect column <:+: whole) →
      AllWithin dialect whole (filterTestSubterms tests)
  | [], _, _ => by simp [filterTestSubterms]
  | test :: rest, _, inside => by
      have first := test.allWithin clean (inside test (by simp))
      have later :=
        filterTests_allWithin clean rest fun other member => inside other (by simp [member])
      simp [filterTestSubterms, first, later]

theorem FilterEntry.allWithin (clean : whole.Clean) : ∀ entry : FilterEntry,
    ((entry.item dialect).isEmpty ∨ ∃ nested, (entry.item dialect).draft nested <:+: whole) →
      AllWithin dialect whole entry.subterms
  | .value _ operand, .inr ⟨_, inside⟩ =>
      operand.allWithin_of_within (operand.allWithin clean)
        (within_of_operand (within_parenthesizedIf inside))
  | .tests _ tests, drafted =>
      filterTests_allWithin clean tests (FilterEntry.within_tests clean drafted)

theorem filterEntries_allWithin (clean : whole.Clean) : ∀ entries : List FilterEntry,
    (∀ entry ∈ entries,
      (entry.item dialect).isEmpty ∨ ∃ nested, (entry.item dialect).draft nested <:+: whole) →
        AllWithin dialect whole (filterEntrySubterms entries)
  | [], _ => by simp [filterEntrySubterms]
  | entry :: rest, drafted => by
      have first := entry.allWithin clean (drafted entry (by simp))
      have later :=
        filterEntries_allWithin clean rest fun other member => drafted other (by simp [member])
      simp [filterEntrySubterms, first, later]

theorem Filter.allWithin (clean : whole.Clean) : ∀ (filter : Filter) {nested : Bool},
    filter.draft dialect nested <:+: whole → AllWithin dialect whole filter.subterms
  | ⟨_, entries⟩, _, inside =>
      filterEntries_allWithin clean entries (Filter.within_entries clean inside)

theorem Window.allWithin (clean : whole.Clean) : ∀ window : Window,
    window.draft dialect <:+: whole → AllWithin dialect whole window.subterms
  | ⟨_, parent, partitionBy, orderBy⟩, inside => by
      obtain ⟨keysInside, orderInside⟩ := NamedDialect.within_windowDraft inside
      have keys := exprs_allWithin clean partitionBy (within_of_drafts keysInside)
      have order := exprs_allWithin clean orderBy (within_of_drafts orderInside)
      simp [Window.subterms, keys, order]

theorem windows_allWithin (clean : whole.Clean) : ∀ windows : List Window,
    (∀ window ∈ windows, window.draft dialect <:+: whole) →
      AllWithin dialect whole (windowSubterms windows)
  | [], _ => by simp [windowSubterms]
  | window :: rest, inside => by
      have first := window.allWithin clean (inside window (by simp))
      have later := windows_allWithin clean rest fun other member => inside other (by simp [member])
      simp [windowSubterms, first, later]

theorem Over.allWithin (clean : whole.Clean) : ∀ window : Over,
    window.draft dialect <:+: whole → AllWithin dialect whole window.subterms
  | .absent, _ => by simp [Over.subterms]
  | .named name, _ => by simp [Over.subterms]
  | .inline window, inside => window.allWithin clean (within_enclosed (within_append inside).2)

theorem JoinCondition.allWithin (clean : whole.Clean) :
    ∀ (condition : JoinCondition) {kind : JoinKind},
    dialect.joinPartDraft kind (condition.part dialect) <:+: whole →
      AllWithin dialect whole condition.subterms
  | .none, _, _ => by simp [JoinCondition.subterms]
  | .on condition, kind, inside => by
      simp only [JoinCondition.part, Dialect.joinPartDraft] at inside
      split at inside
      · exact condition.allWithin clean (within_append inside).2
      · exact absurd (clean_of_within clean inside) (not_clean_invalid _)
  | .using columns, _, _ => by simp [JoinCondition.subterms]

theorem Join.allWithin (clean : whole.Clean) : ∀ join : Join,
    join.draft dialect <:+: whole → AllWithin dialect whole join.subterms
  | ⟨kind, source, condition⟩, inside => by
      obtain ⟨led, conditionInside⟩ := within_append inside
      have sourceBelow := source.allWithin clean (within_append led).2
      have conditionBelow := condition.allWithin clean conditionInside
      simp [Join.subterms, sourceBelow, conditionBelow]

theorem joins_allWithin (clean : whole.Clean) : ∀ joins : List Join,
    (∀ join ∈ joins, join.draft dialect <:+: whole) → AllWithin dialect whole (joinSubterms joins)
  | [], _ => by simp [joinSubterms]
  | join :: rest, inside => by
      have first := join.allWithin clean (inside join (by simp))
      have later := joins_allWithin clean rest fun other member => inside other (by simp [member])
      simp [joinSubterms, first, later]

theorem CommonTable.allWithin (clean : whole.Clean) : ∀ table : CommonTable,
    table.draft dialect <:+: whole → AllWithin dialect whole table.subterms
  | ⟨_, query⟩, inside => query.allWithin clean (within_enclosed (within_append inside).2)

theorem commonTableList_allWithin (clean : whole.Clean) : ∀ tables : List CommonTable,
    (∀ table ∈ tables, table.draft dialect <:+: whole) →
      AllWithin dialect whole (commonTableSubterms tables)
  | [], _ => by simp [commonTableSubterms]
  | table :: rest, inside => by
      have first := table.allWithin clean (inside table (by simp))
      have later :=
        commonTableList_allWithin clean rest fun other member => inside other (by simp [member])
      simp [commonTableSubterms, first, later]

theorem CommonTables.allWithin (clean : whole.Clean) : ∀ tables : CommonTables,
    (tables.isEmpty = false → tables.draft dialect <:+: whole) →
      AllWithin dialect whole tables.subterms
  | ⟨_, tables⟩, inside =>
      commonTableList_allWithin clean tables (CommonTables.within_tables inside)

theorem Compound.allWithin (clean : whole.Clean) : ∀ compound : Compound,
    compound.draft dialect <:+: whole → AllWithin dialect whole compound.subterms
  | ⟨_, query⟩, inside => query.allWithin clean (within_parenthesizedIf (within_append inside).2)

theorem compounds_allWithin (clean : whole.Clean) : ∀ compounds : List Compound,
    (∀ compound ∈ compounds, compound.draft dialect <:+: whole) →
      AllWithin dialect whole (compoundSubterms compounds)
  | [], _ => by simp [compoundSubterms]
  | compound :: rest, inside => by
      have first := compound.allWithin clean (inside compound (by simp))
      have later :=
        compounds_allWithin clean rest fun other member => inside other (by simp [member])
      simp [compoundSubterms, first, later]

theorem Distinct.allWithin (clean : whole.Clean) : ∀ distinct : Distinct,
    distinct.draft dialect <:+: whole → AllWithin dialect whole distinct.subterms
  | .none, _ => by simp [Distinct.subterms]
  | .all, _ => by simp [Distinct.subterms]
  | .on columns, inside =>
      exprs_allWithin clean columns
        (within_of_drafts (within_separated (within_enclosed (within_append inside).2)))

theorem Select.allWithin (clean : whole.Clean) : ∀ query : Select,
    query.draft dialect <:+: whole → AllWithin dialect whole query.subterms
  | ⟨commonTables, distinct, columns, sources, joins, conditions, groupBy, groupConditions, windows,
      compounds, orderBy, limit, offset, lock⟩, inside => by
    have clauses := Select.within clean inside
    have tablesBelow := commonTables.allWithin clean clauses.commonTables
    have distinctBelow := distinct.allWithin clean clauses.distinct
    have columnsBelow := exprs_allWithin clean columns clauses.columns
    have sourcesBelow := exprs_allWithin clean sources clauses.sources
    have joinsBelow := joins_allWithin clean joins clauses.joins
    have conditionsBelow := exprs_allWithin clean conditions clauses.conditions
    have groupsBelow := exprs_allWithin clean groupBy clauses.groupBy
    have groupConditionsBelow := exprs_allWithin clean groupConditions clauses.groupConditions
    have windowsBelow := windows_allWithin clean windows clauses.windows
    have compoundsBelow := compounds_allWithin clean compounds clauses.compounds
    have orderBelow := exprs_allWithin clean orderBy clauses.orderBy
    rw [Select.subterms]
    simp only [allWithin_cons, allWithin_append, and_assoc]
    exact ⟨inside, tablesBelow, distinctBelow, columnsBelow, sourcesBelow, joinsBelow,
      conditionsBelow, groupsBelow, groupConditionsBelow, windowsBelow, compoundsBelow,
      orderBelow⟩

end

end SqlDialects
