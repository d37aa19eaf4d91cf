import SqlDialects.Dialect.Standard
import SqlDialects.Proofs.Draft.Places
import SqlDialects.Proofs.Inside
import SqlDialects.Proofs.Outcome

/-!
A filter stands for its expansion. It is expanded when it is drafted, but surroundings that skip
empty conditions look at the filter and not at the expansion. They differ about a filter whose
columns have no tests: it is no empty filter, and its expansion is an empty condition.
-/

namespace SqlDialects

open Draft

theorem FilterTest.item_toExpr (test : FilterTest) (name : String) (dialect : NamedDialect) :
    (⟨(test.toExpr (.column name)).isEmptyCondition, (test.toExpr (.column name)).isConditionList,
      (test.toExpr (.column name)).draft dialect⟩ : Condition) =
      ⟨false, false, fun nested =>
        parenthesizedIf nested (test.draft dialect (dialect.identifierDraft (.parse name)))⟩ := by
  cases test <;> rfl

namespace FilterEntry

/-- A column with a list of tests that is empty. -/
def asksNothing : FilterEntry → Bool
  | .value _ _ => false
  | .tests _ given => given.isEmpty

theorem item_toExpr (entry : FilterEntry) (dialect : NamedDialect) :
    (⟨entry.toExpr.isEmptyCondition, entry.toExpr.isConditionList,
      entry.toExpr.draft dialect⟩ : Condition) = entry.item dialect := by
  cases entry with
  | value column operand => rfl
  | tests column given =>
      match given with
      | [] => rfl
      | [test] => exact test.item_toExpr column dialect
      | first :: second :: rest =>
          have asks : (first.toExpr (.column column)).isEmptyCondition = false := by
            cases first <;> rfl
          have items : conditionItems dialect ((first :: second :: rest).map
              (FilterTest.toExpr (.column column))) =
              filterTestItems dialect (dialect.identifierDraft (.parse column))
                (first :: second :: rest) := by
            rw [conditionItems_eq_map, filterTestItems_eq_map, List.map_map]
            exact List.map_congr_left fun test _ => test.item_toExpr column dialect
          rw [toExpr, item, Condition.mk.injEq]
          refine ⟨?_, rfl, funext fun nested => ?_⟩
          · simp [Expr.isEmptyCondition, allEmptyConditions, asks]
          · rw [Expr.draft, items]
          · intro test same
            cases same

theorem isEmptyCondition_toExpr (entry : FilterEntry) :
    entry.toExpr.isEmptyCondition = entry.asksNothing := by
  have asked := congrArg Condition.isEmpty (entry.item_toExpr ⟨.standard, "default"⟩)
  cases entry <;> exact asked

end FilterEntry

namespace Filter

variable (filter : Filter)

theorem draft_toExpr (dialect : NamedDialect) (nested : Bool) :
    filter.toExpr.draft dialect nested = (Expr.filter filter).draft dialect nested := by
  have items : conditionItems dialect (filter.entries.map FilterEntry.toExpr) =
      filterEntryItems dialect filter.entries := by
    rw [conditionItems_eq_map, filterEntryItems_eq_map, List.map_map]
    exact List.map_congr_left fun entry _ => entry.item_toExpr dialect
  obtain ⟨any, entries⟩ := filter
  simp only [toExpr, Expr.draft, items, draft, connective]

theorem isEmptyCondition_toExpr :
    filter.toExpr.isEmptyCondition = filter.entries.all FilterEntry.asksNothing := by
  simp only [toExpr, Expr.isEmptyCondition, allEmptyConditions_eq_all, List.all_map,
    Function.comp_def, FilterEntry.isEmptyCondition_toExpr]

theorem alike_toExpr {skips : Bool}
    (asks : skips → filter.entries.all FilterEntry.asksNothing → filter.entries = []) :
    (Expr.filter filter).Alike skips filter.toExpr where
  draft dialect nested := (filter.draft_toExpr dialect nested).symm
  look := rfl
  isEmptyCondition := by
    intro skipped
    rw [filter.isEmptyCondition_toExpr, Expr.isEmptyCondition, Bool.eq_iff_iff,
      List.isEmpty_iff]
    exact ⟨fun none => by simp [none], asks skipped⟩

theorem draft_of_asksNothing (nothing : filter.entries.all FilterEntry.asksNothing)
    (dialect : NamedDialect) (nested : Bool) :
    (Expr.filter filter).draft dialect nested = invalid .emptyConditions := by
  have skipped : ∀ item ∈ filterEntryItems dialect filter.entries, item.isEmpty := by
    rw [filterEntryItems_eq_map, List.forall_mem_map]
    intro entry member
    rw [← entry.item_toExpr dialect, FilterEntry.isEmptyCondition_toExpr]
    exact List.all_eq_true.mp nothing entry member
  have left : (filterEntryItems dialect filter.entries).filter (fun item => !item.isEmpty) = [] :=
    List.filter_eq_nil_iff.mpr fun item member => by simp [skipped item member]
  obtain ⟨any, entries⟩ := filter
  simp only [Expr.draft, draft, Draft.conditions, left]

theorem not_clean_of_asksNothing (given : filter.entries ≠ [])
    (nothing : filter.entries.all FilterEntry.asksNothing) {statement : Statement}
    (inside : .expr (.filter filter) ∈ statement.subterms) (dialect : NamedDialect) :
    ¬(statement.draft dialect).Clean := by
  intro clean
  rcases Statement.allWithin clean _ inside with empty | literal | ⟨nested, drafted⟩
  · exact given (List.isEmpty_iff.mp empty)
  · cases literal
  · rw [filter.draft_of_asksNothing nothing] at drafted
    exact not_clean_invalid _ (clean_of_within clean drafted)

end Filter

/-- A filter and its expansion can take each other's place, unless each of its columns is without
tests and the place skips what asks nothing: there the expansion is skipped, but a statement with
such a filter fails wherever it holds the filter. -/
theorem filter_stands_for_expansion (filter : Filter) (name : String) (dialect : Dialect)
    (mode : Mode) :
    (∀ (skips : Bool) (place : Expr → Statement), Statement.Place skips place →
      (skips → filter.entries.all FilterEntry.asksNothing → filter.entries = []) →
        compile (place (.filter filter)) name dialect mode =
          compile (place filter.toExpr) name dialect mode) ∧
    (filter.entries ≠ [] → filter.entries.all FilterEntry.asksNothing →
      ∀ statement : Statement, .expr (.filter filter) ∈ statement.subterms →
        ∃ failure, compile statement name dialect mode = .error failure) := by
  constructor
  · intro skips place inner asks
    exact compile_congr (inner.draft_eq (filter.alike_toExpr asks) ⟨dialect, name⟩)
  · intro given nothing statement inside
    cases done : compile statement name dialect mode with
    | error failure => exact ⟨failure, rfl⟩
    | ok compiled =>
        exact absurd (clean_of_compile_eq_ok done)
          (filter.not_clean_of_asksNothing given nothing inside ⟨dialect, name⟩)

def deleteLateOr (condition : Expr) : Statement :=
  .delete { Delete.empty with
    table := some (.column "jobs")
    conditions := [.conditions .or [.column "late", condition]] }

theorem place_deleteLateOr : Statement.Place true deleteLateOr :=
  .delete (.conditions { Delete.empty with table := some (.column "jobs") }
    (.item [] (.conditions .or (.item [.column "late"] .here [])) []))

def openJobs : Filter :=
  ⟨false, [.tests "age" [], .value "state" (.tuple [.literal (.integer 1), .literal (.integer 2)]),
    .tests "team" [.comparison .equal (.literal .null),
      .range .between (.literal (.integer 3)) (.literal (.integer 5))]]⟩

def untested : Filter :=
  ⟨false, [.tests "age" []]⟩

theorem filter_stands_for_expansion_openJobs :
    compile (deleteLateOr (.filter openJobs)) "default" .standard .inline =
      compile (deleteLateOr openJobs.toExpr) "default" .standard .inline ∧
    ∃ failure,
      compile (deleteLateOr (.filter untested)) "default" .standard .inline = .error failure := by
  have inside : .expr (.filter untested) ∈ (deleteLateOr (.filter untested)).subterms := by
    simp [deleteLateOr, Statement.subterms, Delete.subterms, exprSubterms, Expr.subterms]
  exact ⟨(filter_stands_for_expansion openJobs "default" .standard .inline).1 true deleteLateOr
      place_deleteLateOr (fun _ nothing => absurd nothing (by decide)),
    (filter_stands_for_expansion untested "default" .standard .inline).2 (List.cons_ne_nil _ _) rfl
      _ inside⟩

def jobsWhere (condition : Expr) : Statement :=
  .select { Select.empty with sources := [.column "jobs"], conditions := [condition] }

/-- Without tests for its only column a filter is a condition that cannot be written, and its
expansion is none at all. -/
theorem untested_filter_differs :
    compile (jobsWhere (.filter untested)) "default" .standard .inline =
      .error (.invalid .emptyConditions) ∧
    compile (jobsWhere untested.toExpr) "default" .standard .inline =
      .ok ⟨"SELECT * FROM \"jobs\"", []⟩ :=
  ⟨rfl, rfl⟩

end SqlDialects
