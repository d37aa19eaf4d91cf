import Mathlib.Data.List.Forall2
import SqlDialects.Proofs.Draft.Kinds
import SqlDialects.Proofs.Places
import SqlDialects.Proofs.Records

/-!
What is put at a place of a statement reaches its draft through a few answers only. Expressions
that give the same answers can take each other's place.
-/

namespace SqlDialects

open Draft

/-- What surroundings ask of an expression besides its draft and whether it is empty. -/
structure Expr.Look where
  isConditionList : Bool
  boolean? : Option Bool
  isNullOrBoolean : Bool
  filterComparison : Comparison

def Expr.look (expr : Expr) : Look :=
  ⟨expr.isConditionList, expr.boolean?, expr.isNullOrBoolean, expr.filterComparison⟩

/-- Expressions that their surroundings cannot tell apart. Only surroundings that skip empty
conditions ask whether one is empty. -/
structure Expr.Alike (skips : Bool) (first second : Expr) : Prop where
  draft : ∀ dialect nested, first.draft dialect nested = second.draft dialect nested
  look : first.look = second.look
  isEmptyCondition : skips → first.isEmptyCondition = second.isEmptyCondition

namespace Expr.Alike

variable {skips : Bool} {first second : Expr} (alike : first.Alike skips second)

theorem refl (skips : Bool) (expr : Expr) : expr.Alike skips expr :=
  ⟨fun _ _ => rfl, rfl, fun _ => rfl⟩

include alike

theorem isConditionList : first.isConditionList = second.isConditionList :=
  congrArg Look.isConditionList alike.look

theorem boolean? : first.boolean? = second.boolean? :=
  congrArg Look.boolean? alike.look

theorem isNullOrBoolean : first.isNullOrBoolean = second.isNullOrBoolean :=
  congrArg Look.isNullOrBoolean alike.look

theorem filterComparison : first.filterComparison = second.filterComparison :=
  congrArg Look.filterComparison alike.look

end Expr.Alike

theorem isEmpty_around {α : Type} (before : List α) (item : α) (after : List α) :
    (before ++ item :: after).isEmpty = false := by
  cases before <;> rfl

theorem forall₂_around {α : Type} {related : α → α → Prop} (refl : ∀ item, related item item)
    {left right : α} (before after : List α) (here : related left right) :
    List.Forall₂ related (before ++ left :: after) (before ++ right :: after) :=
  List.rel_append (List.forall₂_same.mpr fun item _ => refl item)
    (.cons here (List.forall₂_same.mpr fun item _ => refl item))

section Lists

variable {skips : Bool} {first second : List Expr}

theorem isEmpty_congr (alike : List.Forall₂ (Expr.Alike skips) first second) :
    first.isEmpty = second.isEmpty := by
  cases alike <;> rfl

theorem expressionDrafts_congr (alike : List.Forall₂ (Expr.Alike skips) first second)
    (dialect : NamedDialect) (nested : Bool) :
    expressionDrafts dialect nested first = expressionDrafts dialect nested second := by
  induction alike with
  | nil => rfl
  | cons head _ ih => rw [expressionDrafts, expressionDrafts, head.draft, ih]

theorem conditionItems_congr (alike : List.Forall₂ (Expr.Alike true) first second)
    (dialect : NamedDialect) : conditionItems dialect first = conditionItems dialect second := by
  induction alike with
  | nil => rfl
  | @cons first second _ _ head _ ih =>
      have drafts : first.draft dialect = second.draft dialect := funext (head.draft dialect)
      rw [conditionItems, conditionItems, head.isEmptyCondition rfl, head.isConditionList, drafts,
        ih]

theorem allEmptyConditions_congr (alike : List.Forall₂ (Expr.Alike true) first second) :
    allEmptyConditions first = allEmptyConditions second := by
  induction alike with
  | nil => rfl
  | cons head _ ih => rw [allEmptyConditions, allEmptyConditions, head.isEmptyCondition rfl, ih]

end Lists

theorem CommonTables.Place.isEmpty_eq {skips : Bool} {place : Expr → CommonTables}
    (inner : CommonTables.Place skips place) (first second : Expr) :
    (place first).isEmpty = (place second).isEmpty := by
  cases inner
  simp only [CommonTables.isEmpty, isEmpty_around]

variable {skips : Bool} {first second : Expr}

-- The recursion is on the place. A case needs no more of the inner place than that what is put
-- there is alike, since that is all its own constructor looks at.
mutual

theorem Expr.Place.alike (alike : first.Alike skips second) :
    ∀ {outer : Bool} {place : Expr → Expr}, Expr.Place skips outer place →
      (place first).Alike outer (place second)
  | _, _, .here => alike
  | _, _, .raw _ inner =>
      ⟨fun _ _ => by simp only [Expr.draft, expressionDrafts_congr (inner.alike alike)], rfl,
        fun _ => rfl⟩
  | _, _, .aliased inner _ =>
      ⟨fun _ _ => by simp only [Expr.draft, (inner.alike alike).draft], rfl, fun _ => rfl⟩
  | _, _, .comparisonLeft _ inner _ =>
      ⟨fun _ _ => by simp only [Expr.draft, (inner.alike alike).draft], rfl, fun _ => rfl⟩
  | _, _, .comparisonRight _ _ inner => by
      have right := inner.alike alike
      exact ⟨fun _ _ => by simp only [Expr.draft, right.draft, right.boolean?], rfl, fun _ => rfl⟩
  | _, _, .bitwiseLeft _ inner _ =>
      ⟨fun _ _ => by simp only [Expr.draft, (inner.alike alike).draft], rfl, fun _ => rfl⟩
  | _, _, .bitwiseRight _ _ inner =>
      ⟨fun _ _ => by simp only [Expr.draft, (inner.alike alike).draft], rfl, fun _ => rfl⟩
  | _, _, .rightBitwise _ inner =>
      ⟨fun _ _ => by simp only [Expr.draft, (inner.alike alike).draft], rfl, fun _ => rfl⟩
  | _, _, .ranged _ inner _ _ =>
      ⟨fun _ _ => by simp only [Expr.draft, (inner.alike alike).draft], rfl, fun _ => rfl⟩
  | _, _, .low _ _ inner _ =>
      ⟨fun _ _ => by simp only [Expr.draft, (inner.alike alike).draft], rfl, fun _ => rfl⟩
  | _, _, .high _ _ _ inner =>
      ⟨fun _ _ => by simp only [Expr.draft, (inner.alike alike).draft], rfl, fun _ => rfl⟩
  | _, _, .conditions _ inner => by
      have items := inner.alike alike
      exact ⟨fun _ _ => by simp only [Expr.draft, conditionItems_congr items], rfl,
        fun _ => allEmptyConditions_congr items⟩
  | _, _, .tuple inner =>
      ⟨fun _ _ => by simp only [Expr.draft, expressionDrafts_congr (inner.alike alike)], rfl,
        fun _ => rfl⟩
  | _, _, .ordered inner _ _ =>
      ⟨fun _ _ => by simp only [Expr.draft, (inner.alike alike).draft], rfl, fun _ => rfl⟩
  | _, _, .cast inner _ =>
      ⟨fun _ _ => by simp only [Expr.draft, (inner.alike alike).draft], rfl, fun _ => rfl⟩
  | _, _, .arguments _ inner _ _ =>
      ⟨fun _ _ => by simp only [Expr.draft, expressionDrafts_congr (inner.alike alike)], rfl,
        fun _ => rfl⟩
  | _, _, .over _ _ _ inner =>
      ⟨fun _ _ => by simp only [Expr.draft, Over.draft, (inner.alike alike _).2], rfl, fun _ => rfl⟩
  | _, _, .subquery inner =>
      ⟨fun _ _ => by simp only [Expr.draft, inner.draft_eq alike], rfl, fun _ => rfl⟩
  | _, _, .not inner =>
      ⟨fun _ _ => by simp only [Expr.draft, (inner.alike alike).draft], rfl, fun _ => rfl⟩
  | _, _, .filter _ _ inner _ =>
      ⟨fun _ _ => by
          simp only [Expr.draft, Filter.draft, filterEntryItems_eq_map, List.map_append,
            List.map_cons, inner.item_eq alike],
        rfl, fun _ => by simp only [Expr.isEmptyCondition, isEmpty_around]⟩

theorem Expr.ListPlace.alike (alike : first.Alike skips second) :
    ∀ {outer : Bool} {place : Expr → List Expr}, Expr.ListPlace skips outer place →
      List.Forall₂ (Expr.Alike outer) (place first) (place second)
  | _, _, .item before inner after => forall₂_around (.refl _) before after (inner.alike alike)

theorem FilterEntry.Place.item_eq (alike : first.Alike skips second) (dialect : NamedDialect) :
    ∀ {place : Expr → FilterEntry}, FilterEntry.Place skips place →
      (place first).item dialect = (place second).item dialect
  | _, .value _ inner => by
      have value := inner.alike alike
      simp only [FilterEntry.item, value.draft, value.boolean?, value.isNullOrBoolean,
        value.filterComparison]
  | _, .tests _ _ inner _ => by
      simp only [FilterEntry.item, filterTestItems_eq_map, List.map_append, List.map_cons,
        inner.draft_eq alike, isEmpty_around, List.length_append, List.length_cons]

theorem FilterTest.Place.draft_eq (alike : first.Alike skips second) (dialect : NamedDialect)
    (column : Draft) : ∀ {place : Expr → FilterTest}, FilterTest.Place skips place →
      (place first).draft dialect column = (place second).draft dialect column
  | _, .comparison _ inner => by
      have value := inner.alike alike
      simp only [FilterTest.draft, value.draft, value.boolean?, value.isNullOrBoolean]
  | _, .low _ inner _ => by simp only [FilterTest.draft, (inner.alike alike).draft]
  | _, .high _ _ inner => by simp only [FilterTest.draft, (inner.alike alike).draft]

theorem Window.Place.alike (alike : first.Alike skips second) (dialect : NamedDialect) :
    ∀ {place : Expr → Window}, Window.Place skips place →
      (place first).name = (place second).name ∧
        (place first).draft dialect = (place second).draft dialect
  | _, .partitionBy _ inner =>
      ⟨rfl, by simp only [Window.draft, expressionDrafts_congr (inner.alike alike)]⟩
  | _, .orderBy _ inner =>
      ⟨rfl, by simp only [Window.draft, expressionDrafts_congr (inner.alike alike)]⟩

theorem Join.Place.draft_eq (alike : first.Alike skips second) (dialect : NamedDialect) :
    ∀ {place : Expr → Join}, Join.Place skips place →
      (place first).draft dialect = (place second).draft dialect
  | _, .source _ inner => by simp only [Join.draft, (inner.alike alike).draft]
  | _, .on _ inner => by simp only [Join.draft, JoinCondition.part, (inner.alike alike).draft]

theorem CommonTables.Place.draft_eq (alike : first.Alike skips second) (dialect : NamedDialect) :
    ∀ {place : Expr → CommonTables}, CommonTables.Place skips place →
      (place first).draft dialect = (place second).draft dialect
  | _, .table _ _ _ inner _ => by
      simp only [CommonTables.draft, commonTableDrafts_eq_map, List.map_append, List.map_cons,
        CommonTable.draft, inner.draft_eq alike]

theorem Select.Place.draft_eq (alike : first.Alike skips second) (dialect : NamedDialect) :
    ∀ {place : Expr → Select}, Select.Place skips place →
      (place first).draft dialect = (place second).draft dialect
  | _, .commonTables _ inner => by
      rw [Select.draft_eq_parts, Select.draft_eq_parts]
      simp only [Select.parts, Select.carried, inner.draft_eq alike, inner.isEmpty_eq first second]
  | _, .distinct _ inner => by
      rw [Select.draft_eq_parts, Select.draft_eq_parts]
      simp only [Select.parts, Select.carried, Distinct.draft,
        expressionDrafts_congr (inner.alike alike)]
  | _, .columns _ inner => by
      rw [Select.draft_eq_parts, Select.draft_eq_parts]
      simp only [Select.parts, Select.carried, expressionDrafts_congr (inner.alike alike)]
  | _, .sources _ inner => by
      rw [Select.draft_eq_parts, Select.draft_eq_parts]
      simp only [Select.parts, Select.carried, expressionDrafts_congr (inner.alike alike),
        isEmpty_congr (inner.alike alike)]
  | _, .joins _ _ inner _ => by
      rw [Select.draft_eq_parts, Select.draft_eq_parts]
      simp only [Select.parts, Select.carried, joinDrafts_eq_flatMap, List.flatMap_append,
        List.flatMap_cons, inner.draft_eq alike, isEmpty_around]
  | _, .conditions _ inner => by
      rw [Select.draft_eq_parts, Select.draft_eq_parts]
      simp only [Select.parts, Select.carried, conditionItems_congr (inner.alike alike),
        allEmptyConditions_congr (inner.alike alike)]
  | _, .groupBy _ inner => by
      rw [Select.draft_eq_parts, Select.draft_eq_parts]
      simp only [Select.parts, Select.carried, expressionDrafts_congr (inner.alike alike),
        isEmpty_congr (inner.alike alike)]
  | _, .groupConditions _ inner => by
      rw [Select.draft_eq_parts, Select.draft_eq_parts]
      simp only [Select.parts, Select.carried, conditionItems_congr (inner.alike alike),
        allEmptyConditions_congr (inner.alike alike)]
  | _, .windows _ _ inner _ => by
      rw [Select.draft_eq_parts, Select.draft_eq_parts]
      simp only [Select.parts, Select.carried, namedWindowDrafts_eq_map, List.map_append,
        List.map_cons, inner.alike alike dialect, isEmpty_around]
  | _, .compounds _ _ _ inner _ => by
      rw [Select.draft_eq_parts, Select.draft_eq_parts]
      simp only [Select.parts, Select.carried, compoundDrafts_eq_flatMap, List.flatMap_append,
        List.flatMap_cons, Compound.draft, inner.draft_eq alike, isEmpty_around]
  | _, .orderBy _ inner => by
      rw [Select.draft_eq_parts, Select.draft_eq_parts]
      simp only [Select.parts, Select.carried, expressionDrafts_congr (inner.alike alike),
        isEmpty_congr (inner.alike alike)]

end

namespace Record.Place

variable {place : Expr → Record} (inner : Record.Place skips place)

include inner

theorem columns_eq (first second : Expr) : (place first).columns = (place second).columns := by
  cases inner
  simp only [columns, List.map_append, List.map_cons]

theorem isEmpty_eq (first second : Expr) : (place first).isEmpty = (place second).isEmpty := by
  cases inner
  simp only [isEmpty, isEmpty_around]

theorem assignmentsDraft_eq (alike : first.Alike skips second) (dialect : NamedDialect) :
    dialect.assignmentsDraft (place first) = dialect.assignmentsDraft (place second) := by
  cases inner with
  | value before column inner after duplicates =>
      simp only [NamedDialect.assignmentsDraft, duplicateDraft, duplicate?, List.map_append,
        List.map_cons, (inner.alike alike).draft]

theorem interchangeable (alike : first.Alike skips second) :
    (place first).Interchangeable (place second) := by
  have columns := inner.columns_eq first second
  cases inner with
  | value before column inner after duplicates =>
      refine ⟨rfl, fun wanted => Record.sets_congr columns wanted, fun dialect wanted => ?_⟩
      refine List.map_congr_left fun name _ => ?_
      simp only [find?, List.find?_append, List.find?_cons]
      cases before.find? fun entry => decide (entry.1 = name) with
      | some earlier => rfl
      | none =>
          by_cases here : column = name
          · simp [here, (inner.alike alike).draft]
          · simp [here]

end Record.Place

theorem rowFaults_around {left right : List Expr} (width : left.length = right.length)
    (columns index : Nat) (before after : List (List Expr)) :
    rowFaults columns index (before ++ left :: after) =
      rowFaults columns index (before ++ right :: after) := by
  have empty : left.isEmpty = right.isEmpty := by
    rw [Bool.eq_iff_iff, List.isEmpty_iff_length_eq_zero, List.isEmpty_iff_length_eq_zero, width]
  induction before generalizing index with
  | nil => simp only [List.nil_append, rowFaults, empty, width]
  | cons row rest ih => simp only [List.cons_append, rowFaults, ih]

theorem InsertSource.Place.draft_eq (alike : first.Alike skips second) (dialect : NamedDialect)
    (columns : List Expr) {place : Expr → InsertSource} (inner : InsertSource.Place skips place) :
    dialect.insertSourceDraft columns (place first) =
      dialect.insertSourceDraft columns (place second) := by
  cases inner with
  | row before inner after =>
      have row := inner.alike alike
      simp only [NamedDialect.insertSourceDraft, NamedDialect.rowsSourceDraft, isEmpty_around,
        rowFaults_around row.length_eq, List.map_append, List.map_cons,
        expressionDrafts_congr row]
  | record before inner after =>
      have records := forall₂_around .refl before after (inner.interchangeable alike)
      cases before with
      | nil => exact recordsSourceDraft_congr records (inner.columns_eq first second) _ _
      | cons first rest => exact recordsSourceDraft_congr records rfl _ _
  | query inner => simp only [NamedDialect.insertSourceDraft, inner.draft_eq alike]

theorem insertSourceDraft_columns {columns others : List Expr}
    (alike : List.Forall₂ (Expr.Alike skips) columns others) (dialect : NamedDialect)
    (source : InsertSource) :
    dialect.insertSourceDraft columns source = dialect.insertSourceDraft others source := by
  cases source <;>
    simp only [NamedDialect.insertSourceDraft, NamedDialect.rowsSourceDraft,
      NamedDialect.recordsSourceDraft,
      isEmpty_congr alike, alike.length_eq, expressionDrafts_congr alike]

theorem ConflictAction.Place.draft_eq (alike : first.Alike skips second) (dialect : NamedDialect)
    (target : List String) {place : Expr → ConflictAction}
    (inner : ConflictAction.Place skips place) :
    dialect.conflictDraft ⟨target, place first⟩ = dialect.conflictDraft ⟨target, place second⟩ := by
  cases inner with
  | assignments inner condition =>
      simp only [NamedDialect.conflictDraft, NamedDialect.conflictFaults,
        NamedDialect.conflictActionDraft,
        Dialect.ignoresConflict_update, inner.isEmpty_eq first second,
        inner.assignmentsDraft_eq alike]
  | @condition assignments place inner =>
      have condition := inner.alike alike
      have asked : Expr.asksSomething (some (place first)) =
          Expr.asksSomething (some (place second)) :=
        congrArg not (condition.isEmptyCondition rfl)
      simp only [NamedDialect.conflictDraft, NamedDialect.conflictFaults,
        NamedDialect.conflictActionDraft,
        Dialect.ignoresConflict_update, asked, condition.isEmptyCondition rfl, condition.draft]

theorem Insert.Place.draft_eq (alike : first.Alike skips second) (dialect : NamedDialect)
    {place : Expr → Insert} (inner : Insert.Place skips place) :
    (place first).draft dialect = (place second).draft dialect := by
  have ignored : ∀ target {action : Expr → ConflictAction}, ConflictAction.Place skips action →
      ∀ expr, dialect.ignoresConflict (some ⟨target, action expr⟩) = false := by
    intro target action inner expr
    cases inner <;> exact dialect.ignoresConflict_update _ _ _
  simp only [draft, carried]
  unfold portion?
  cases inner with
  | commonTables insert inner =>
      simp only [openingDraft, inner.draft_eq alike, inner.isEmpty_eq first second]
  | table insert inner => simp only [openingDraft, (inner.alike alike).draft]
  | columns insert inner =>
      have columns := inner.alike alike
      simp only [openingDraft, insertSourceDraft_columns columns]
  | source insert inner => simp only [openingDraft, inner.draft_eq alike]
  | conflict insert target inner =>
      simp only [openingDraft, ignored target inner, Option.map_some, inner.draft_eq alike]
      rfl
  | returning insert inner =>
      have columns := inner.alike alike
      simp only [openingDraft, NamedDialect.returningDraft, expressionDrafts_congr columns,
        isEmpty_congr columns]

theorem Update.Place.draft_eq (alike : first.Alike skips second) (dialect : NamedDialect)
    {place : Expr → Update} (inner : Update.Place skips place) :
    (place first).draft dialect = (place second).draft dialect := by
  simp only [draft, carried]
  unfold portion?
  cases inner with
  | commonTables update inner =>
      simp only [tables, assignmentsDraft, furtherTablesDraft, inner.draft_eq alike,
        inner.isEmpty_eq first second]
  | table update inner =>
      simp only [tables, tableDraft, assignmentsDraft, furtherTablesDraft,
        (inner.alike alike).draft]
  | assignments update inner =>
      simp only [tables, furtherTablesDraft, assignmentsDraft, inner.isEmpty_eq first second,
        inner.assignmentsDraft_eq alike]
  | furtherTables update inner =>
      have others := inner.alike alike
      simp only [tables, furtherTablesDraft, assignmentsDraft, expressionDrafts_congr others,
        isEmpty_congr others]
  | conditions update inner =>
      have conditions := inner.alike alike
      simp only [tables, furtherTablesDraft, assignmentsDraft, conditionItems_congr conditions,
        allEmptyConditions_congr conditions]
  | orderBy update inner =>
      have keys := inner.alike alike
      simp only [tables, furtherTablesDraft, assignmentsDraft, expressionDrafts_congr keys,
        isEmpty_congr keys]
  | returning update inner =>
      have columns := inner.alike alike
      simp only [tables, furtherTablesDraft, assignmentsDraft, NamedDialect.returningDraft,
        expressionDrafts_congr columns, isEmpty_congr columns]

theorem Delete.Place.draft_eq (alike : first.Alike skips second) (dialect : NamedDialect)
    {place : Expr → Delete} (inner : Delete.Place skips place) :
    (place first).draft dialect = (place second).draft dialect := by
  simp only [draft, carried]
  unfold portion?
  cases inner with
  | commonTables delete inner =>
      simp only [inner.draft_eq alike, inner.isEmpty_eq first second]
  | table delete inner => simp only [(inner.alike alike).draft]
  | conditions delete inner =>
      have conditions := inner.alike alike
      simp only [conditionItems_congr conditions, allEmptyConditions_congr conditions]
  | orderBy delete inner =>
      have keys := inner.alike alike
      simp only [expressionDrafts_congr keys, isEmpty_congr keys]
  | returning delete inner =>
      have columns := inner.alike alike
      simp only [NamedDialect.returningDraft, expressionDrafts_congr columns, isEmpty_congr columns]

/-- Expressions that surroundings cannot tell apart give the same draft at every place. -/
theorem Statement.Place.draft_eq (alike : first.Alike skips second) (dialect : NamedDialect)
    {place : Expr → Statement} (inner : Statement.Place skips place) :
    (place first).draft dialect = (place second).draft dialect := by
  cases inner with
  | select inner => exact inner.draft_eq alike dialect
  | insert inner => exact inner.draft_eq alike dialect
  | update inner => exact inner.draft_eq alike dialect
  | delete inner => exact inner.draft_eq alike dialect
  | truncate truncation inner =>
      have tables := inner.alike alike
      simp only [draft, Truncate.draft, isEmpty_congr tables]
      unfold Truncate.portion?
      simp only [Truncate.wholeDraft, expressionDrafts_congr tables]

end SqlDialects
