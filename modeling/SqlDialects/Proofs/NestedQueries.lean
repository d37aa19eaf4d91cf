import SqlDialects.Proofs.Subterms

/-!
The queries nested in a statement, each with the place that it is nested in. Every query that a
statement is made of is listed, unless it is the whole statement.
-/

namespace SqlDialects

/-- A query in one of the places that take one. -/
inductive Nesting where
  | subquery (query : Select)
  | commonTable (name : String) (query : Select)
  | compound (kind : CompoundKind) (query : Select)
  | insertion (columns : List Expr) (query : Select)

def Nesting.query : Nesting → Select
  | subquery inner | commonTable _ inner | compound _ inner | insertion _ inner => inner

def CommonTables.nestings (tables : CommonTables) : List Nesting :=
  tables.tables.map fun table => .commonTable table.name table.query

def InsertSource.nestings (columns : List Expr) : InsertSource → List Nesting
  | .query nested => [.insertion columns nested]
  | .defaultValues | .rows _ | .records _ => []

def Subterm.nestings : Subterm → List Nesting
  | .expr (.subquery nested) => [.subquery nested]
  | .expr _ => []
  | .query whole =>
      whole.commonTables.nestings
        ++ whole.compounds.map fun compound => .compound compound.kind compound.query

namespace Statement

def ownNestings : Statement → List Nesting
  | .select _ | .truncate _ => []
  | .insert insertion =>
      insertion.commonTables.nestings ++ insertion.source.nestings insertion.columns
  | .update change => change.commonTables.nestings
  | .delete deletion => deletion.commonTables.nestings

/-- The queries nested in a statement, at every depth and each in its place. -/
def nestings (statement : Statement) : List Nesting :=
  statement.ownNestings ++ statement.subterms.flatMap Subterm.nestings

end Statement

/-- All queries among these are nested in others of them, but for those that are placed already. -/
def Rooted (placed : Select → Prop) (subterms : List Subterm) : Prop :=
  ∀ query, Subterm.query query ∈ subterms →
    placed query ∨ ∃ nesting ∈ subterms.flatMap Subterm.nestings, nesting.query = query

section Rooted

variable {placed : Select → Prop} {first second rest : List Subterm} {subterm : Subterm}

theorem rooted_nil : Rooted placed [] := by
  simp [Rooted]

theorem rooted_append (left : Rooted placed first) (right : Rooted placed second) :
    Rooted placed (first ++ second) := by
  intro query member
  rw [List.flatMap_append]
  rcases List.mem_append.mp member with inside | inside
  · rcases left query inside with here | ⟨nesting, listed, same⟩
    · exact .inl here
    · exact .inr ⟨nesting, List.mem_append_left _ listed, same⟩
  · rcases right query inside with here | ⟨nesting, listed, same⟩
    · exact .inl here
    · exact .inr ⟨nesting, List.mem_append_right _ listed, same⟩

theorem rooted_cons (own : ∀ query, subterm = .query query → placed query)
    (below : Rooted (fun query => placed query ∨
      ∃ nesting ∈ subterm.nestings, nesting.query = query) rest) :
    Rooted placed (subterm :: rest) := by
  intro query member
  rw [List.flatMap_cons]
  rcases List.mem_cons.mp member with same | inside
  · exact .inl (own query same.symm)
  · rcases below query inside with (here | ⟨nesting, listed, same⟩) | ⟨nesting, listed, same⟩
    · exact .inl here
    · exact .inr ⟨nesting, List.mem_append_left _ listed, same⟩
    · exact .inr ⟨nesting, List.mem_append_right _ listed, same⟩

theorem rooted_flatMap {α : Type} {items : List α} {subterms : α → List Subterm}
    (each : ∀ item ∈ items, Rooted placed (subterms item)) :
    Rooted placed (items.flatMap subterms) := by
  induction items with
  | nil => exact rooted_nil
  | cons item rest ih =>
      exact rooted_append (each item (by simp))
        (ih fun other member => each other (by simp [member]))

theorem rooted_expr {expr : Expr} (below : ∀ {other}, Rooted other rest) :
    Rooted placed (.expr expr :: rest) :=
  rooted_cons nofun below

end Rooted

-- By recursion on the syntax. A sub-query is nested in its expression, a table or a compound in its
-- query; what is nested above all of them is placed by the caller.
mutual

theorem Expr.rooted : ∀ (expr : Expr) {placed : Select → Prop}, Rooted placed expr.subterms
  | .identifier _, _ | .literal _, _ | .excluded _, _ | .default, _ => rooted_expr rooted_nil
  | .raw _ arguments, _ => rooted_expr (exprs_rooted arguments)
  | .aliased expr _, _ => rooted_expr expr.rooted
  | .comparison _ left right, _ => rooted_expr (rooted_append left.rooted right.rooted)
  | .bitwise operator left right, _ => by
      rw [Expr.subterms]
      split
      · exact rooted_expr (rooted_append rooted_nil right.rooted)
      · exact rooted_expr (rooted_append left.rooted right.rooted)
  | .rightBitwise _ right, _ => rooted_expr right.rooted
  | .range _ expr low high, _ =>
      rooted_expr (rooted_append (rooted_append expr.rooted low.rooted) high.rooted)
  | .conditions _ items, _ | .tuple items, _ => rooted_expr (exprs_rooted items)
  | .ordered expr _ _, _ | .cast expr _, _ | .not expr, _ => rooted_expr expr.rooted
  | .function _ arguments _ window, _ =>
      rooted_expr (rooted_append (exprs_rooted arguments) window.rooted)
  | .subquery query, _ =>
      rooted_cons nofun
        (query.rooted (.inr ⟨.subquery query, List.mem_singleton.mpr rfl, rfl⟩))
  | .filter filter, _ => rooted_expr filter.rooted

theorem exprs_rooted : ∀ (exprs : List Expr) {placed : Select → Prop},
    Rooted placed (exprSubterms exprs)
  | [], _ => rooted_nil
  | expr :: rest, _ => rooted_append expr.rooted (exprs_rooted rest)

theorem FilterTest.rooted : ∀ (test : FilterTest) {placed : Select → Prop},
    Rooted placed test.subterms
  | .comparison _ value, _ => value.rooted
  | .range _ low high, _ => rooted_append low.rooted high.rooted

theorem filterTests_rooted : ∀ (tests : List FilterTest) {placed : Select → Prop},
    Rooted placed (filterTestSubterms tests)
  | [], _ => rooted_nil
  | test :: rest, _ => rooted_append test.rooted (filterTests_rooted rest)

theorem FilterEntry.rooted : ∀ (entry : FilterEntry) {placed : Select → Prop},
    Rooted placed entry.subterms
  | .value _ operand, _ => operand.rooted
  | .tests _ asked, _ => filterTests_rooted asked

theorem filterEntries_rooted : ∀ (entries : List FilterEntry) {placed : Select → Prop},
    Rooted placed (filterEntrySubterms entries)
  | [], _ => rooted_nil
  | entry :: rest, _ => rooted_append entry.rooted (filterEntries_rooted rest)

theorem Filter.rooted : ∀ (filter : Filter) {placed : Select → Prop},
    Rooted placed filter.subterms
  | ⟨_, entries⟩, _ => filterEntries_rooted entries

theorem Window.rooted : ∀ (window : Window) {placed : Select → Prop},
    Rooted placed window.subterms
  | ⟨_, _, partitionBy, orderBy⟩, _ =>
      rooted_append (exprs_rooted partitionBy) (exprs_rooted orderBy)

theorem windows_rooted : ∀ (windows : List Window) {placed : Select → Prop},
    Rooted placed (windowSubterms windows)
  | [], _ => rooted_nil
  | window :: rest, _ => rooted_append window.rooted (windows_rooted rest)

theorem Over.rooted : ∀ (window : Over) {placed : Select → Prop}, Rooted placed window.subterms
  | .absent, _ | .named _, _ => rooted_nil
  | .inline window, _ => window.rooted

theorem JoinCondition.rooted : ∀ (condition : JoinCondition) {placed : Select → Prop},
    Rooted placed condition.subterms
  | .none, _ | .using _, _ => rooted_nil
  | .on condition, _ => condition.rooted

theorem Join.rooted : ∀ (join : Join) {placed : Select → Prop}, Rooted placed join.subterms
  | ⟨_, source, condition⟩, _ => rooted_append source.rooted condition.rooted

theorem joins_rooted : ∀ (joins : List Join) {placed : Select → Prop},
    Rooted placed (joinSubterms joins)
  | [], _ => rooted_nil
  | join :: rest, _ => rooted_append join.rooted (joins_rooted rest)

theorem CommonTable.rooted : ∀ (table : CommonTable) {placed : Select → Prop},
    placed table.query → Rooted placed table.subterms
  | ⟨_, query⟩, _, here => query.rooted here

theorem commonTables_rooted : ∀ (tables : List CommonTable) {placed : Select → Prop},
    (∀ table ∈ tables, placed table.query) → Rooted placed (commonTableSubterms tables)
  | [], _, _ => rooted_nil
  | table :: rest, _, each =>
      rooted_append (table.rooted (each table (by simp)))
        (commonTables_rooted rest fun other member => each other (by simp [member]))

theorem CommonTables.rooted : ∀ (tables : CommonTables) {placed : Select → Prop},
    (∀ nesting ∈ tables.nestings, placed nesting.query) → Rooted placed tables.subterms
  | ⟨_, tables⟩, _, each =>
      commonTables_rooted tables fun _ member => each _ (List.mem_map_of_mem member)

theorem Compound.rooted : ∀ (compound : Compound) {placed : Select → Prop},
    placed compound.query → Rooted placed compound.subterms
  | ⟨_, query⟩, _, here => query.rooted here

theorem compounds_rooted : ∀ (compounds : List Compound) {placed : Select → Prop},
    (∀ compound ∈ compounds, placed compound.query) → Rooted placed (compoundSubterms compounds)
  | [], _, _ => rooted_nil
  | compound :: rest, _, each =>
      rooted_append (compound.rooted (each compound (by simp)))
        (compounds_rooted rest fun other member => each other (by simp [member]))

theorem Distinct.rooted : ∀ (distinct : Distinct) {placed : Select → Prop},
    Rooted placed distinct.subterms
  | .none, _ | .all, _ => rooted_nil
  | .on columns, _ => exprs_rooted columns

theorem Select.rooted : ∀ (query : Select) {placed : Select → Prop}, placed query →
    Rooted placed query.subterms
  | ⟨commonTables, distinct, columns, sources, joins, conditions, groupBy, groupConditions, windows,
      compounds, orderBy, limit, offset, lock⟩, _, here => by
    rw [Select.subterms]
    refine rooted_cons (fun query same => by cases same; exact here) ?_
    iterate 10 refine rooted_append ?_ ?_
    · exact commonTables.rooted fun nesting listed =>
        .inr ⟨nesting, List.mem_append_left _ listed, rfl⟩
    · exact distinct.rooted
    · exact exprs_rooted columns
    · exact exprs_rooted sources
    · exact joins_rooted joins
    · exact exprs_rooted conditions
    · exact exprs_rooted groupBy
    · exact exprs_rooted groupConditions
    · exact windows_rooted windows
    · exact compounds_rooted compounds fun compound listed =>
        .inr ⟨.compound compound.kind compound.query,
          List.mem_append_right _ (List.mem_map_of_mem listed), rfl⟩
    · exact exprs_rooted orderBy

end

section Statements

variable {placed : Select → Prop}

theorem Record.rooted (record : Record) : Rooted placed record.subterms :=
  rooted_flatMap fun entry _ => entry.2.rooted

theorem InsertSource.rooted {columns : List Expr} {source : InsertSource}
    (each : ∀ nesting ∈ source.nestings columns, placed nesting.query) :
    Rooted placed source.subterms := by
  cases source with
  | defaultValues => exact rooted_nil
  | rows cells => exact rooted_flatMap fun row _ => exprs_rooted row
  | records given => exact rooted_flatMap fun record _ => record.rooted
  | query nested => exact nested.rooted (each (.insertion columns nested) (by simp [nestings]))

theorem ConflictAction.rooted (action : ConflictAction) : Rooted placed action.subterms := by
  cases action with
  | nothing => exact rooted_nil
  | update assignments condition => exact rooted_append assignments.rooted (exprs_rooted _)

namespace Statement

theorem rooted {statement : Statement}
    (each : ∀ nesting ∈ statement.ownNestings, placed nesting.query)
    (whole : ∀ query, statement = .select query → placed query) :
    Rooted placed statement.subterms := by
  cases statement with
  | select query => exact query.rooted (whole query rfl)
  | insert insertion =>
      simp only [ownNestings, List.forall_mem_append] at each
      iterate 5 refine rooted_append ?_ ?_
      · exact insertion.commonTables.rooted each.1
      · exact exprs_rooted _
      · exact exprs_rooted _
      · exact InsertSource.rooted each.2
      · exact rooted_flatMap fun conflict _ => conflict.action.rooted
      · exact exprs_rooted _
  | update change =>
      iterate 6 refine rooted_append ?_ ?_
      · exact change.commonTables.rooted each
      · exact exprs_rooted _
      · exact change.assignments.rooted
      all_goals exact exprs_rooted _
  | delete deletion =>
      iterate 4 refine rooted_append ?_ ?_
      · exact deletion.commonTables.rooted each
      all_goals exact exprs_rooted _
  | truncate truncation => exact exprs_rooted _

theorem query_nested {statement : Statement} {query : Select}
    (inside : .query query ∈ statement.subterms) :
    statement = .select query ∨ ∃ nesting ∈ statement.nestings, nesting.query = query := by
  have covered : Rooted (fun query => statement = .select query ∨
      ∃ nesting ∈ statement.ownNestings, nesting.query = query) statement.subterms :=
    rooted (fun nesting listed => .inr ⟨nesting, listed, rfl⟩) fun _ same => .inl same
  rcases covered query inside with (same | ⟨nesting, own, same⟩) | ⟨nesting, deeper, same⟩
  · exact .inl same
  · exact .inr ⟨nesting, List.mem_append_left _ own, same⟩
  · exact .inr ⟨nesting, List.mem_append_right _ deeper, same⟩

end Statement

end Statements

end SqlDialects
