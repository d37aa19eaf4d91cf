import SqlDialects.Dialect.Standard
import SqlDialects.Proofs.Draft.Conditions
import SqlDialects.Proofs.Outcome
import SqlDialects.Statement.Calls

/-!
Conditions are given one by one or as one conjunction, with or without conditions among them that
ask nothing. Nothing of this can be seen in what is compiled.
-/

namespace SqlDialects

open Draft

/-- Conditions that ask nothing: filters without columns, and lists of such conditions. -/
inductive Hollow : Expr → Prop
  | filter (any : Bool) : Hollow (.filter ⟨any, []⟩)
  | list (connective : Connective) {items : List Expr} (each : ∀ item ∈ items, Hollow item) :
      Hollow (.conditions connective items)

theorem Hollow.isEmptyCondition {condition : Expr} (hollow : Hollow condition) :
    condition.isEmptyCondition := by
  induction hollow with
  | filter any => rfl
  | list connective each ih =>
      rw [Expr.isEmptyCondition, allEmptyConditions_eq_all, List.all_eq_true]
      exact ih

theorem asking_eq_nil_of_hollow {conditions : List Expr}
    (hollow : ∀ condition ∈ conditions, Hollow condition) : asking conditions = [] := by
  rw [asking_eq_nil_iff, allEmptyConditions_eq_all, List.all_eq_true]
  exact fun condition member => (hollow condition member).isEmptyCondition

/-- The second list is the first one with hollow conditions among its own, and among those of the
lists in it. -/
inductive Padded : List Expr → List Expr → Prop
  | nil : Padded [] []
  | keep (condition : Expr) {conditions padded : List Expr} (later : Padded conditions padded) :
      Padded (condition :: conditions) (condition :: padded)
  | inside (connective : Connective) {items paddedItems conditions padded : List Expr}
      (inner : Padded items paddedItems) (later : Padded conditions padded) :
      Padded (.conditions connective items :: conditions)
        (.conditions connective paddedItems :: padded)
  | insert {condition : Expr} (hollow : Hollow condition) {conditions padded : List Expr}
      (later : Padded conditions padded) : Padded conditions (condition :: padded)

theorem Padded.askAlike {conditions padded : List Expr} (padding : Padded conditions padded) :
    AskAlike conditions padded := by
  induction padding with
  | nil => exact .refl []
  | keep condition _ ih => exact ih.cons (.refl true condition)
  | inside connective _ _ items ih => exact ih.cons (items.alike_conditions true connective)
  | insert hollow _ ih =>
      unfold AskAlike
      rw [asking_cons_of_empty hollow.isEmptyCondition]
      exact ih

/-- A clause of conditions, with the statement to which they are given. -/
inductive ConditionClause where
  | select (query : Select)
  | having (query : Select)
  | update (change : Update)
  | delete (deletion : Delete)

namespace ConditionClause

def own : ConditionClause → List Expr
  | .select query => query.conditions
  | .having query => query.groupConditions
  | .update change => change.conditions
  | .delete deletion => deletion.conditions

/-- Gives each of the conditions by a call of its own. -/
def ask : ConditionClause → List Expr → Statement
  | .select query, conditions =>
      .select ((conditions.map Select.Call.condition).foldl Select.apply query)
  | .having query, conditions =>
      .select ((conditions.map Select.Call.groupCondition).foldl Select.apply query)
  | .update change, conditions =>
      .update ((conditions.map Update.Call.condition).foldl Update.apply change)
  | .delete deletion, conditions =>
      .delete ((conditions.map Delete.Call.condition).foldl Delete.apply deletion)

def holding : ConditionClause → List Expr → Statement
  | .select query, conditions => .select { query with conditions := conditions }
  | .having query, conditions => .select { query with groupConditions := conditions }
  | .update change, conditions => .update { change with conditions := conditions }
  | .delete deletion, conditions => .delete { deletion with conditions := conditions }

theorem ask_eq_holding (clause : ConditionClause) (conditions : List Expr) :
    clause.ask conditions = clause.holding (clause.own ++ conditions) := by
  induction conditions generalizing clause with
  | nil =>
      rw [List.append_nil]
      cases clause with
      | select query | having query => cases query; rfl
      | update | delete => rfl
  | cons condition rest ih =>
      cases clause with
      | select query =>
          have later := ih (.select (query.apply (.condition condition)))
          simpa [ask, holding, own, Select.apply] using later
      | having query =>
          have later := ih (.having (query.apply (.groupCondition condition)))
          simpa [ask, holding, own, Select.apply] using later
      | update change =>
          have later := ih (.update (change.apply (.condition condition)))
          simpa [ask, holding, own, Update.apply] using later
      | delete deletion =>
          have later := ih (.delete (deletion.apply (.condition condition)))
          simpa [ask, holding, own, Delete.apply] using later

theorem draft_holding_congr (clause : ConditionClause) {dialect : NamedDialect}
    {first second : List Expr} (asks : allEmptyConditions first = allEmptyConditions second)
    (drafts : conditions .and false (conditionItems dialect first) =
      conditions .and false (conditionItems dialect second)) :
    (clause.holding first).draft dialect = (clause.holding second).draft dialect := by
  cases clause with
  | select query =>
      simp only [holding, Statement.draft, Select.draft_eq_parts, Select.parts, Select.carried,
        whereClause, asks, drafts]
  | having query =>
      simp only [holding, Statement.draft, Select.draft_eq_parts, Select.parts, Select.carried,
        havingClause, asks, drafts]
  | update change =>
      simp only [holding, Statement.draft, Update.draft, Update.carried, asks]
      unfold Update.portion?
      simp only [Update.tables, Update.furtherTablesDraft, Update.assignmentsDraft, whereClause,
        drafts]
  | delete deletion =>
      simp only [holding, Statement.draft, Delete.draft, Delete.carried, asks]
      unfold Delete.portion?
      simp only [whereClause, drafts]

theorem draft_ask_congr (clause : ConditionClause) {first second : List Expr}
    (alike : AskAlike first second) (dialect : NamedDialect) :
    (clause.ask first).draft dialect = (clause.ask second).draft dialect := by
  have whole := alike.append_left clause.own
  rw [ask_eq_holding, ask_eq_holding]
  exact clause.draft_holding_congr whole.allEmptyConditions_eq
    (whole.conditions_eq dialect .and false)

theorem draft_ask_conjunction (clause : ConditionClause)
    (hollow : ∀ condition ∈ clause.own, Hollow condition) (conditions : List Expr)
    (dialect : NamedDialect) :
    (clause.ask [.conditions .and conditions]).draft dialect =
      (clause.ask conditions).draft dialect := by
  have skipped : ∀ given, AskAlike (clause.own ++ given) given := by
    intro given
    unfold AskAlike
    rw [asking_append, asking_eq_nil_of_hollow hollow, List.nil_append]
    exact AskAlike.refl given
  rw [ask_eq_holding, ask_eq_holding]
  refine clause.draft_holding_congr ?_ ?_
  · rw [(skipped _).allEmptyConditions_eq, (skipped conditions).allEmptyConditions_eq]
    simp [allEmptyConditions, Expr.isEmptyCondition]
  · rw [(skipped _).conditions_eq, (skipped conditions).conditions_eq,
      conditions_of_conjunction]

end ConditionClause

/-- Hollow conditions among the given ones change nothing, nor do hollow conditions in a list that
stands anywhere in a statement; given to a statement without conditions, a conjunction does what its
items do one by one; and if all are hollow, it is as if none were given. -/
theorem conditions_given_alike (clause : ConditionClause) (conditions : List Expr) (name : String)
    (dialect : Dialect) (mode : Mode) :
    (∀ padded, Padded conditions padded →
      compile (clause.ask padded) name dialect mode =
        compile (clause.ask conditions) name dialect mode) ∧
    ((∀ condition ∈ clause.own, Hollow condition) →
      compile (clause.ask [.conditions .and conditions]) name dialect mode =
        compile (clause.ask conditions) name dialect mode) ∧
    ((∀ condition ∈ conditions, Hollow condition) →
      compile (clause.ask conditions) name dialect mode =
        compile (clause.ask []) name dialect mode) ∧
    ∀ (skips : Bool) (place : Expr → Statement), Statement.Place skips place →
      ∀ connective padded, Padded conditions padded →
        compile (place (.conditions connective padded)) name dialect mode =
          compile (place (.conditions connective conditions)) name dialect mode := by
  refine ⟨fun padded padding => ?_, fun hollow => ?_, fun hollow => ?_,
    fun skips place inner connective padded padding => ?_⟩
  · exact compile_congr (clause.draft_ask_congr padding.askAlike ⟨dialect, name⟩).symm
  · exact compile_congr (clause.draft_ask_conjunction hollow conditions ⟨dialect, name⟩)
  · have none : AskAlike conditions [] := by
      unfold AskAlike
      rw [asking_eq_nil_of_hollow hollow]
      exact .nil
    exact compile_congr (clause.draft_ask_congr none ⟨dialect, name⟩)
  · have alike := padding.askAlike.alike_conditions skips connective
    exact compile_congr (inner.draft_eq alike ⟨dialect, name⟩).symm

def lateOnly : List Expr :=
  [.conditions .or [.conditions .and [], .filter .anyOf], .column "late", .filter .all]

theorem padded_lateOnly : Padded [.column "late"] lateOnly :=
  .insert (.list .or (by
      simp only [List.forall_mem_cons, List.not_mem_nil, false_implies, implies_true, and_true]
      exact ⟨.list .and (by simp), .filter true⟩))
    (.keep _ (.insert (.filter false) .nil))

def deleteJobs : ConditionClause :=
  .delete { Delete.empty with table := some (.column "jobs") }

def selectNot (condition : Expr) : Statement :=
  .select { Select.empty with columns := [.not condition] }

theorem place_selectNot : Statement.Place false selectNot :=
  .select (.columns .empty (.item [] (.not .here) []))

theorem conditions_given_alike_lateJobs :
    compile (deleteJobs.ask lateOnly) "default" .standard .prepared =
        .ok ⟨"DELETE FROM \"jobs\" WHERE \"late\"", []⟩ ∧
      compile (deleteJobs.ask [.conditions .and [.column "late", .filter .all, .column "done"]])
          "default" .standard .prepared =
        .ok ⟨"DELETE FROM \"jobs\" WHERE \"late\" AND \"done\"", []⟩ ∧
      compile (deleteJobs.ask [.filter .all]) "default" .standard .prepared =
        .ok ⟨"DELETE FROM \"jobs\"", []⟩ ∧
      compile (selectNot (.conditions .or lateOnly)) "default" .standard .prepared =
        .ok ⟨"SELECT NOT (\"late\")", []⟩ := by
  have given : compile (deleteJobs.ask [.column "late"]) "default" .standard .prepared =
      .ok ⟨"DELETE FROM \"jobs\" WHERE \"late\"", []⟩ := rfl
  obtain ⟨padded, -, -, elsewhere⟩ :=
    conditions_given_alike deleteJobs [.column "late"] "default" .standard .prepared
  obtain ⟨-, conjunction, -, -⟩ :=
    conditions_given_alike deleteJobs [.column "late", .filter .all, .column "done"] "default"
      .standard .prepared
  obtain ⟨-, -, hollow, -⟩ :=
    conditions_given_alike deleteJobs [.filter .all] "default" .standard .prepared
  refine ⟨(padded lateOnly padded_lateOnly).trans given, (conjunction ?_).trans rfl,
    (hollow ?_).trans rfl,
    (elsewhere false selectNot place_selectNot .or lateOnly padded_lateOnly).trans rfl⟩
  · simp [deleteJobs, ConditionClause.own, Delete.empty]
  · exact List.forall_mem_singleton.mpr (.filter false)

end SqlDialects
