import SqlDialects.Proofs.Draft.Inside

/-!
A clean draft has drafted everything that the query is made of: what stands within it is clean as
well. Only conditions that ask nothing are left out.
-/

namespace SqlDialects

open Draft

variable {dialect : NamedDialect}

/-- A query or an expression with a clean draft, or a condition that asks nothing. -/
def Subterm.Written (dialect : NamedDialect) : Subterm → Prop
  | .expr part => part.isEmptyCondition ∨ ∃ nested, (part.draft dialect nested).Clean
  | .query part => (part.draft dialect).Clean

def AllWritten (dialect : NamedDialect) (subterms : List Subterm) : Prop :=
  ∀ subterm ∈ subterms, subterm.Written dialect

theorem Expr.shape_of_isEmptyCondition {expr : Expr} (empty : expr.isEmptyCondition) :
    (∃ connective items, expr = .conditions connective items) ∨
      ∃ any, expr = .filter ⟨any, []⟩ := by
  cases expr with
  | conditions connective items => exact .inl ⟨connective, items, rfl⟩
  | filter asked =>
      obtain ⟨any, entries⟩ := asked
      obtain rfl : entries = [] := by simpa [Expr.isEmptyCondition] using empty
      exact .inr ⟨any, rfl⟩
  | _ => simp [Expr.isEmptyCondition] at empty

theorem Expr.clean_of_boolean? {expr : Expr} (known : expr.boolean?.isSome) (nested : Bool) :
    (expr.draft dialect nested).Clean := by
  obtain ⟨truth, found⟩ := Option.isSome_iff_exists.mp known
  rw [Expr.eq_of_boolean? found]
  simp [Expr.draft, Dialect.valueDraft]

theorem Subterm.written_of_within {whole : Draft} (clean : whole.Clean) {subterm : Subterm}
    (inside : subterm.Within dialect whole) : subterm.Written dialect := by
  cases subterm with
  | query query => exact clean_of_within clean inside
  | expr expr =>
      rcases inside with empty | known | ⟨nested, inside⟩
      · exact .inl empty
      · exact .inr ⟨false, expr.clean_of_boolean? known false⟩
      · exact .inr ⟨nested, clean_of_within clean inside⟩

theorem AllWithin.allWritten {whole : Draft} {subterms : List Subterm}
    (inside : AllWithin dialect whole subterms) (clean : whole.Clean) :
    AllWritten dialect subterms :=
  fun subterm member => Subterm.written_of_within clean (inside subterm member)

structure Select.Drafted (dialect : NamedDialect) (query : Select) : Prop where
  commonTables : query.commonTables.isEmpty = false → (query.commonTables.draft dialect).Clean
  distinct : (query.distinct.draft dialect).Clean
  columns : ∀ expr ∈ query.columns, Subterm.Written dialect (.expr expr)
  sources : ∀ expr ∈ query.sources, Subterm.Written dialect (.expr expr)
  joins : ∀ join ∈ query.joins, (join.draft dialect).Clean
  conditions : ∀ expr ∈ query.conditions, Subterm.Written dialect (.expr expr)
  groupBy : ∀ expr ∈ query.groupBy, Subterm.Written dialect (.expr expr)
  groupConditions : ∀ expr ∈ query.groupConditions, Subterm.Written dialect (.expr expr)
  capableOfWindows : query.windows.isEmpty = false → dialect.capabilities.windows = true
  windows : ∀ window ∈ query.windows, window.name.isSome ∧ (window.draft dialect).Clean
  compounds : ∀ compound ∈ query.compounds, (compound.draft dialect).Clean
  orderBy : ∀ expr ∈ query.orderBy, Subterm.Written dialect (.expr expr)
  lock : (dialect.lockDraft query.lock).Clean

theorem Select.drafted {query : Select} (clean : (query.draft dialect).Clean) :
    query.Drafted dialect := by
  have inside := Select.within clean (List.infix_refl _)
  have part : ∀ clause ∈ query.carried, ((query.parts dialect).clauseDraft clause).Clean := by
    intro clause
    rw [Select.draft_eq_parts] at clean
    exact clean_of_assemble (SelectParts.conserves_portion? _) clean
  have written : ∀ {exprs : List Expr},
      (∀ expr ∈ exprs, Subterm.Within dialect (query.draft dialect) (.expr expr)) →
        ∀ expr ∈ exprs, Subterm.Written dialect (.expr expr) :=
    fun each expr member => Subterm.written_of_within clean (each expr member)
  refine
    { commonTables := fun given => clean_of_within clean (inside.commonTables given)
      distinct := clean_of_within clean inside.distinct
      columns := written inside.columns
      sources := written inside.sources
      joins := fun join member => clean_of_within clean (inside.joins join member)
      conditions := written inside.conditions
      groupBy := written inside.groupBy
      groupConditions := written inside.groupConditions
      capableOfWindows := fun given =>
        ((dialect.clean_windowsDraft _).mp (part .windows (by simp [carried, given]))).1
      windows := ?_
      compounds := fun compound member => clean_of_within clean (inside.compounds compound member)
      orderBy := written inside.orderBy
      lock := ?_ }
  · intro window member
    have clauseClean := part .windows (by simp [carried, List.ne_nil_of_mem member])
    simp only [SelectParts.clauseDraft, Select.parts, NamedDialect.clean_windowsDraft,
      namedWindowDrafts_eq_map, List.forall_mem_map,
      NamedDialect.clean_namedWindowDraft] at clauseClean
    exact clauseClean.2 window member
  · cases given : query.lock with
    | none => simp [NamedDialect.lockDraft]
    | some lock =>
        have clauseClean := part .lock (by simp [carried, given])
        simpa only [SelectParts.clauseDraft, Select.parts, given] using clauseClean

theorem FilterEntry.clean_tests {column : String} {tests : List FilterTest}
    (drafted : (FilterEntry.item dialect (.tests column tests)).isEmpty ∨
      ∃ nested, ((FilterEntry.item dialect (.tests column tests)).draft nested).Clean) :
    ∀ test ∈ tests, (test.draft dialect (dialect.identifierDraft (.parse column))).Clean := by
  simp only [FilterEntry.item, filterTestItems_eq_map] at drafted
  rcases drafted with empty | ⟨nested, clean⟩
  · have none : tests = [] := by simpa using empty
    simp [none]
  · intro test member
    have kept := drafted_of_clean_conditions clean _ (List.mem_map_of_mem member)
    simpa using kept

theorem Filter.drafted_entries {filter : Filter} {nested : Bool}
    (clean : (filter.draft dialect nested).Clean) : ∀ entry ∈ filter.entries,
      (entry.item dialect).isEmpty ∨ ∃ inner, ((entry.item dialect).draft inner).Clean := by
  obtain ⟨any, entries⟩ := filter
  rw [Filter.draft, filterEntryItems_eq_map] at clean
  intro entry member
  exact drafted_of_clean_conditions clean _ (List.mem_map_of_mem member)

end SqlDialects
