import SqlDialects.Dialect.Bundled
import SqlDialects.Proofs.Outcome
import SqlDialects.Proofs.Written

/-!
The features that a statement uses, read off its syntax, and that a dialect which compiles the
statement has them all, however deep in the statement they are used.
-/

namespace SqlDialects

open Draft

/-- The comparison that is spelled. Without a boolean type, the test for a literal boolean is
spelled as an equality. -/
def Comparison.spelled (booleanType : Bool) (truth : Option Bool) : Comparison → Comparison
  | .is => if truth.isSome && !booleanType then .equal else .is
  | .isNot => if truth.isSome && !booleanType then .notEqual else .isNot
  | other => other

def NullsPlacement.feature : NullsPlacement → Feature
  | .first => .nullsFirst
  | .last => .nullsLast

def LockWait.features : LockWait → List Feature
  | .block => []
  | .noWait => [.noWait]
  | .skipLocked => [.skipLocked]

def Lock.features (lock : Lock) : List Feature :=
  .lock lock.strength :: lock.wait.features

def Clause.featureIf (clause : Clause) (given : Bool) : List Feature :=
  if given then [.clause clause] else []

def Over.features : Over → List Feature
  | .absent => []
  | _ => [.windowFunctions]

def FilterTest.features (booleanType : Bool) : FilterTest → List Feature
  | .comparison operator value =>
      [.comparison ((operator.settle value.isNullOrBoolean).spelled booleanType value.boolean?)]
  | .range .. => []

def FilterEntry.features (booleanType : Bool) : FilterEntry → List Feature
  | .value _ operand =>
      [.comparison ((operand.filterComparison.settle operand.isNullOrBoolean).spelled booleanType
        operand.boolean?)]
  | .tests _ alternatives => alternatives.flatMap (FilterTest.features booleanType)

/-- The features of an expression alone, without those of its parts. -/
def Expr.features (booleanType : Bool) : Expr → List Feature
  | .comparison operator _ right => [.comparison (operator.spelled booleanType right.boolean?)]
  | .bitwise operator _ _ | .rightBitwise operator _ => [.bitwise operator]
  | .ordered _ _ nulls => nulls.toList.map NullsPlacement.feature
  | .function _ _ _ window => window.features
  | .filter asked => asked.entries.flatMap (FilterEntry.features booleanType)
  | _ => []

def CommonTables.features (tables : CommonTables) : List Feature :=
  if tables.isEmpty then []
  else .clause .commonTables :: if tables.recursive then [.recursiveTables] else []

def Distinct.features : Distinct → List Feature
  | .on _ => [.distinctOn]
  | _ => []

def Select.features (query : Select) : List Feature :=
  query.commonTables.features ++ query.distinct.features
    ++ query.joins.map (fun join => .join join.kind)
    ++ Clause.windows.featureIf (!query.windows.isEmpty)
    ++ query.compounds.map (fun compound => .compound compound.kind)
    ++ query.lock.toList.flatMap Lock.features

def Subterm.features (booleanType : Bool) : Subterm → List Feature
  | .expr part => part.features booleanType
  | .query part => part.features

def ConflictAction.features : ConflictAction → List Feature
  | .nothing => []
  | .update _ condition => if Expr.asksSomething condition then [.conflictCondition] else []

def Conflict.features (conflict : Conflict) : List Feature :=
  .clause .conflict :: (if conflict.target.isEmpty then [] else [.conflictTarget])
    ++ conflict.action.features

def TruncateScope.feature : TruncateScope → Feature
  | .cascade => .cascade
  | .restrict => .restrict

namespace Statement

/-- The features of a statement alone; those of a query are the query's. -/
def ownFeatures : Statement → List Feature
  | .select _ => []
  | .insert insertion =>
      insertion.commonTables.features ++ insertion.conflict.toList.flatMap Conflict.features
        ++ Clause.returning.featureIf (!insertion.returning.isEmpty)
  | .update change =>
      change.commonTables.features ++ Clause.furtherTables.featureIf (!change.furtherTables.isEmpty)
        ++ (if change.orderBy.isEmpty then [] else [.orderOnUpdate])
        ++ (if change.limit.isSome then [.limitOnUpdate] else [])
        ++ Clause.returning.featureIf (!change.returning.isEmpty)
  | .delete deletion =>
      deletion.commonTables.features
        ++ (if deletion.orderBy.isEmpty then [] else [.orderOnDelete])
        ++ (if deletion.limit.isSome then [.limitOnDelete] else [])
        ++ Clause.returning.featureIf (!deletion.returning.isEmpty)
  | .truncate truncation =>
      (if truncation.restartIdentity then [.restartIdentity] else [])
        ++ truncation.scope.toList.map TruncateScope.feature

/-- Every feature that a statement uses, at the top or inside any of its parts. -/
def features (booleanType : Bool) (statement : Statement) : List Feature :=
  statement.ownFeatures ++ statement.subterms.flatMap (Subterm.features booleanType)

end Statement

namespace NamedDialect

variable {dialect : NamedDialect}

def SupportsAll (dialect : NamedDialect) (features : List Feature) : Prop :=
  ∀ feature ∈ features, dialect.supports feature

@[simp] theorem supportsAll_nil : dialect.SupportsAll [] := by
  simp [SupportsAll]

@[simp] theorem supportsAll_cons (feature : Feature) (rest : List Feature) :
    dialect.SupportsAll (feature :: rest) ↔
      dialect.supports feature ∧ dialect.SupportsAll rest :=
  List.forall_mem_cons

@[simp] theorem supportsAll_append (first second : List Feature) :
    dialect.SupportsAll (first ++ second) ↔
      dialect.SupportsAll first ∧ dialect.SupportsAll second :=
  List.forall_mem_append

@[simp] theorem supportsAll_map {α : Type} (items : List α) (feature : α → Feature) :
    dialect.SupportsAll (items.map feature) ↔ ∀ item ∈ items, dialect.supports (feature item) :=
  List.forall_mem_map

@[simp] theorem supportsAll_flatMap {α : Type} (items : List α) (features : α → List Feature) :
    dialect.SupportsAll (items.flatMap features) ↔
      ∀ item ∈ items, dialect.SupportsAll (features item) := by
  constructor
  · intro whole item member feature inside
    exact whole feature (List.mem_flatMap.mpr ⟨item, member, inside⟩)
  · intro each feature member
    obtain ⟨item, listed, inside⟩ := List.mem_flatMap.mp member
    exact each item listed feature inside

@[simp] theorem supportsAll_ite (condition : Prop) [Decidable condition]
    (first second : List Feature) :
    dialect.SupportsAll (if condition then first else second) ↔
      (condition → dialect.SupportsAll first) ∧ (¬condition → dialect.SupportsAll second) := by
  split <;> simp_all

theorem supports_of_clean_booleanTest {negated truth : Bool}
    (clean : (dialect.booleanTestDraft negated truth).Clean) :
    dialect.supports (.comparison ((if negated then Comparison.isNot else .is).spelled
      dialect.conventions.booleanType (some truth))) := by
  cases negated <;> cases typed : dialect.conventions.booleanType <;>
    cases plain : dialect.conventions.plainBooleanTests <;>
    simpa [booleanTestDraft, Comparison.spelled, typed, plain] using clean

theorem supports_of_clean_comparison {comparison : Comparison} {left right : Draft}
    {truth : Option Bool} (clean : (dialect.comparisonDraft comparison left truth right).Clean) :
    dialect.supports (.comparison (comparison.spelled dialect.conventions.booleanType truth)) := by
  unfold comparisonDraft at clean
  split at clean
  · simp only [clean_append] at clean
    exact supports_of_clean_booleanTest clean.2
  · simp only [clean_append] at clean
    exact supports_of_clean_booleanTest clean.2
  · next noTest noNegatedTest =>
    simp only [clean_append, clean_comparisonSpelling] at clean
    have plain : comparison.spelled dialect.conventions.booleanType truth = comparison := by
      cases truth with
      | none => cases comparison <;> rfl
      | some truth =>
          cases comparison
          case is => exact absurd rfl (noTest truth rfl)
          case isNot => exact absurd rfl (noNegatedTest truth rfl)
          all_goals rfl
    rw [plain]
    exact clean.1.2

theorem supports_of_clean_bitwise {operator : BitOperator} {left? : Option Draft} {right : Draft}
    (clean : (dialect.bitwiseDraft operator left? right).Clean) :
    dialect.supports (.bitwise operator) := by
  unfold bitwiseDraft at clean
  split at clean
  · simp at clean
  · next spelled => simp [Dialect.supports, spelled]

theorem supports_of_clean_nulls {nulls : Option NullsPlacement}
    (clean : (dialect.nullsDraft nulls).Clean) :
    dialect.SupportsAll (nulls.toList.map NullsPlacement.feature) := by
  rcases nulls with _ | _ | _
  · simp
  · simpa [NullsPlacement.feature, Dialect.supports, nullsDraft] using clean
  · simpa [NullsPlacement.feature, Dialect.supports, nullsDraft] using clean

theorem supports_of_clean_lock {lock : Option Lock} (clean : (dialect.lockDraft lock).Clean) :
    dialect.SupportsAll (lock.toList.flatMap Lock.features) := by
  cases lock with
  | none => simp
  | some lock =>
      obtain ⟨strength, wait⟩ := lock
      simp only [lockDraft, clean_append, clean_spelling] at clean
      have waiting : dialect.SupportsAll wait.features := by
        cases wait with
        | block => simp [LockWait.features]
        | noWait => simpa [LockWait.features, Dialect.supports, lockWaitDraft] using clean.2
        | skipLocked => simpa [LockWait.features, Dialect.supports, lockWaitDraft] using clean.2
      simpa [Lock.features, Dialect.supports, waiting] using clean.1

end NamedDialect

open Dialect NamedDialect

variable {dialect : NamedDialect}

theorem Over.supported {window : Over} (clean : (window.draft dialect).Clean) :
    dialect.SupportsAll window.features := by
  cases window with
  | absent => simp [Over.features]
  | named name =>
      simp only [Over.draft, clean_append, clean_demand] at clean
      simpa [Over.features, supports] using clean.1.1
  | inline body =>
      simp only [Over.draft, clean_append, clean_demand] at clean
      simpa [Over.features, supports] using clean.1.1

theorem FilterTest.supported {test : FilterTest} {column : Draft}
    (clean : (test.draft dialect column).Clean) :
    dialect.SupportsAll (test.features dialect.conventions.booleanType) := by
  cases test with
  | comparison operator value =>
      simpa [FilterTest.features] using supports_of_clean_comparison clean
  | range test low high => simp [FilterTest.features]

theorem FilterEntry.supported {entry : FilterEntry}
    (drafted : (entry.item dialect).isEmpty ∨
      ∃ nested, ((entry.item dialect).draft nested).Clean) :
    dialect.SupportsAll (entry.features dialect.conventions.booleanType) := by
  cases entry with
  | value column operand =>
      simp only [FilterEntry.item, Bool.false_eq_true, false_or, clean_parenthesizedIf,
        exists_const] at drafted
      simpa [FilterEntry.features] using supports_of_clean_comparison drafted
  | tests column tests =>
      have each := FilterEntry.clean_tests drafted
      simp only [FilterEntry.features, supportsAll_flatMap]
      exact fun test member => FilterTest.supported (each test member)

theorem Expr.supported {expr : Expr} {nested : Bool} (clean : (expr.draft dialect nested).Clean) :
    dialect.SupportsAll (expr.features dialect.conventions.booleanType) := by
  cases expr
  case comparison operator left right =>
    simp only [Expr.draft, clean_parenthesizedIf] at clean
    simpa [Expr.features] using supports_of_clean_comparison clean
  case bitwise operator left right =>
    simpa [Expr.features] using supports_of_clean_bitwise clean
  case rightBitwise operator right =>
    simpa [Expr.features] using supports_of_clean_bitwise clean
  case ordered expr direction nulls =>
    simp only [Expr.draft, clean_append] at clean
    exact supports_of_clean_nulls clean.2
  case function name arguments distinct window =>
    simp only [Expr.draft, clean_append] at clean
    exact Over.supported clean.2
  case filter filter =>
    have each := Filter.drafted_entries clean
    simp only [Expr.features, supportsAll_flatMap]
    exact fun entry member => FilterEntry.supported (each entry member)
  all_goals simp [Expr.features]

theorem Expr.features_of_isEmptyCondition {expr : Expr} (empty : expr.isEmptyCondition)
    (booleanType : Bool) : expr.features booleanType = [] := by
  rcases expr.shape_of_isEmptyCondition empty with ⟨connective, items, rfl⟩ | ⟨any, rfl⟩ <;> rfl

theorem CommonTables.supported {tables : CommonTables}
    (clean : tables.isEmpty = false → (tables.draft dialect).Clean) :
    dialect.SupportsAll tables.features := by
  cases empty : tables.isEmpty with
  | true => simp [CommonTables.features, empty]
  | false =>
      have drafted := clean empty
      obtain ⟨recursive, tables⟩ := tables
      simp only [CommonTables.draft, clean_commonTablesDraft] at drafted
      simpa [CommonTables.features, empty, supports] using And.intro drafted.1 drafted.2.1

theorem Distinct.supported {distinct : Distinct} (clean : (distinct.draft dialect).Clean) :
    dialect.SupportsAll distinct.features := by
  cases distinct with
  | on columns =>
      simp only [Distinct.draft, clean_distinctOnDraft] at clean
      simpa [Distinct.features, supports] using clean.1
  | none => simp [Distinct.features]
  | all => simp [Distinct.features]

theorem Select.supported {query : Select} (clean : (query.draft dialect).Clean) :
    dialect.SupportsAll query.features := by
  have drafted := Select.drafted clean
  have joins : ∀ join ∈ query.joins, dialect.supports (.join join.kind) := by
    rintro ⟨kind, source, condition⟩ member
    have joinClean := drafted.joins _ member
    simp only [Join.draft, clean_joinDraft] at joinClean
    exact joinClean.1
  have compounds : ∀ compound ∈ query.compounds, dialect.supports (.compound compound.kind) := by
    rintro ⟨kind, branch⟩ member
    have compoundClean := drafted.compounds _ member
    simp only [Compound.draft, clean_compoundDraft] at compoundClean
    exact compoundClean.1
  have windows : dialect.SupportsAll (Clause.windows.featureIf (!query.windows.isEmpty)) := by
    simpa [Clause.featureIf, supports] using drafted.capableOfWindows
  simp only [Select.features, supportsAll_append, supportsAll_map, and_assoc]
  exact ⟨CommonTables.supported drafted.commonTables, Distinct.supported drafted.distinct, joins,
    windows, compounds, supports_of_clean_lock drafted.lock⟩

theorem Subterm.supported {subterm : Subterm} (written : subterm.Written dialect) :
    dialect.SupportsAll (subterm.features dialect.conventions.booleanType) := by
  cases subterm with
  | expr expr =>
      rcases written with empty | ⟨nested, clean⟩
      · simp [Subterm.features, expr.features_of_isEmptyCondition empty]
      · exact Expr.supported clean
  | query query => exact Select.supported written

theorem Conflict.supported {conflict : Conflict} (clean : (dialect.conflictDraft conflict).Clean) :
    dialect.SupportsAll conflict.features := by
  obtain ⟨target, action⟩ := conflict
  simp only [NamedDialect.conflictDraft, NamedDialect.conflictFaults, clean_append,
    clean_demand] at clean
  obtain ⟨⟨⟨⟨able, targetClean⟩, actionClean⟩, _⟩, _⟩ := clean
  have targetSupported : dialect.SupportsAll
      (if target.isEmpty then [] else [.conflictTarget]) := by
    split at targetClean
    · next empty => simp [empty]
    · next given => simpa [given, supports] using targetClean
  have actionSupported : dialect.SupportsAll action.features := by
    cases action with
    | nothing => simp [ConflictAction.features]
    | update assignments condition =>
        simp only [clean_append] at actionClean
        obtain ⟨⟨conditionClean, _⟩, _⟩ := actionClean
        split at conditionClean
        · next asking => simpa [ConflictAction.features, asking, supports] using conditionClean
        · next silent => simp [ConflictAction.features, silent]
  rw [Conflict.features, supportsAll_append, supportsAll_cons]
  exact ⟨⟨able, targetSupported⟩, actionSupported⟩

theorem supports_of_clean_returning {columns : List Expr}
    (clean : columns.isEmpty = false → (dialect.returningDraft columns).Clean) :
    dialect.SupportsAll (Clause.returning.featureIf (!columns.isEmpty)) := by
  cases empty : columns.isEmpty with
  | true => simp [Clause.featureIf]
  | false =>
      have whole := clean empty
      simp only [NamedDialect.returningDraft, clean_append, clean_demand] at whole
      simpa [Clause.featureIf, supports] using whole.1.1

theorem Insert.supported {insert : Insert} (clean : (insert.draft dialect).Clean) :
    dialect.SupportsAll (Statement.insert insert).ownFeatures := by
  have drafted := Insert.drafted clean
  have conflict : dialect.SupportsAll (insert.conflict.toList.flatMap Conflict.features) := by
    rw [supportsAll_flatMap]
    intro conflict member
    exact Conflict.supported (drafted.conflict conflict (by simpa using member))
  simp only [Statement.ownFeatures, supportsAll_append, and_assoc]
  exact ⟨CommonTables.supported drafted.commonTables, conflict,
    supports_of_clean_returning drafted.returning⟩

theorem Update.supported {update : Update} (clean : (update.draft dialect).Clean) :
    dialect.SupportsAll (Statement.update update).ownFeatures := by
  have drafted := Update.drafted clean
  have further : dialect.SupportsAll
      (Clause.furtherTables.featureIf (!update.furtherTables.isEmpty)) := by
    cases empty : update.furtherTables.isEmpty with
    | true => simp [Clause.featureIf]
    | false =>
        have whole := drafted.furtherTables empty
        simp only [furtherTablesDraft, clean_append, clean_demand] at whole
        simpa [Clause.featureIf, supports] using whole.1.1
  have order : dialect.SupportsAll
      (if update.orderBy.isEmpty then [] else [.orderOnUpdate]) := by
    simpa [supports] using fun given => (drafted.orderBy (by simpa using given)).1
  have limit : dialect.SupportsAll (if update.limit.isSome then [.limitOnUpdate] else []) := by
    simpa [supports] using drafted.limit
  simp only [Statement.ownFeatures, supportsAll_append, and_assoc]
  exact ⟨CommonTables.supported drafted.commonTables, further, order, limit,
    supports_of_clean_returning drafted.returning⟩

theorem Delete.supported {delete : Delete} (clean : (delete.draft dialect).Clean) :
    dialect.SupportsAll (Statement.delete delete).ownFeatures := by
  have drafted := Delete.drafted clean
  have order : dialect.SupportsAll
      (if delete.orderBy.isEmpty then [] else [.orderOnDelete]) := by
    simpa [supports] using fun given => (drafted.orderBy (by simpa using given)).1
  have limit : dialect.SupportsAll (if delete.limit.isSome then [.limitOnDelete] else []) := by
    simpa [supports] using drafted.limit
  simp only [Statement.ownFeatures, supportsAll_append, and_assoc]
  exact ⟨CommonTables.supported drafted.commonTables, order, limit,
    supports_of_clean_returning drafted.returning⟩

theorem Truncate.supported {truncate : Truncate} (clean : (truncate.draft dialect).Clean) :
    dialect.SupportsAll (Statement.truncate truncate).ownFeatures := by
  have whole := Truncate.clean_wholeDraft clean
  simp only [wholeDraft, clean_append] at whole
  obtain ⟨⟨_, restartClean⟩, scopeClean⟩ := whole
  have restart : dialect.SupportsAll
      (if truncate.restartIdentity then [.restartIdentity] else []) := by
    split at restartClean
    · next asked => simpa [asked, supports] using restartClean
    · next unasked => simp [unasked]
  have scope : dialect.SupportsAll (truncate.scope.toList.map TruncateScope.feature) := by
    rcases given : truncate.scope with _ | _ | _
    · simp
    · simpa [TruncateScope.feature, supports, scopeDraft, given] using scopeClean
    · simpa [TruncateScope.feature, supports, scopeDraft, given] using scopeClean
  simp only [Statement.ownFeatures, supportsAll_append]
  exact ⟨restart, scope⟩

theorem Statement.supported {statement : Statement} (clean : (statement.draft dialect).Clean) :
    dialect.SupportsAll statement.ownFeatures := by
  cases statement with
  | select query => simp [Statement.ownFeatures]
  | insert insertion => exact Insert.supported clean
  | update change => exact Update.supported clean
  | delete deletion => exact Delete.supported clean
  | truncate truncation => exact Truncate.supported clean

/-- A dialect that compiles a statement, in whichever mode, has every feature that the statement
uses. -/
theorem compiled_features_supported {statement : Statement} {name : String} {dialect : Dialect}
    {mode : Mode} {compiled : Compiled}
    (done : compile statement name dialect mode = .ok compiled) :
    ∀ feature ∈ statement.features dialect.conventions.booleanType, dialect.supports feature := by
  have clean := clean_of_compile_eq_ok done
  have inside : SupportsAll ⟨dialect, name⟩ (statement.subterms.flatMap
      (Subterm.features dialect.conventions.booleanType)) := by
    rw [supportsAll_flatMap]
    intro subterm member
    exact Subterm.supported (Statement.allWritten clean subterm member)
  have whole : SupportsAll ⟨dialect, name⟩ (statement.features dialect.conventions.booleanType) :=
    (supportsAll_append _ _).mpr ⟨Statement.supported clean, inside⟩
  exact whole

def pickedJobs : Statement :=
  .select { Select.empty with
    commonTables := ⟨true, [⟨"picked", { Select.empty with
      columns := [.column "id"]
      sources := [.column "jobs"]
      conditions := [.isTrue (.column "ready")]
      lock := some ⟨.update, .skipLocked⟩ }⟩]⟩
    sources := [.column "picked"] }

theorem compiled_features_supported_pickedJobs :
    compile pickedJobs "postgres" .postgres .prepared =
      .ok ⟨"WITH RECURSIVE \"picked\" AS (SELECT \"id\" FROM \"jobs\" WHERE \"ready\" IS TRUE"
        ++ " FOR UPDATE SKIP LOCKED) SELECT * FROM \"picked\"", []⟩ ∧
    pickedJobs.features true =
      [.clause .commonTables, .recursiveTables, .lock .update, .skipLocked, .comparison .is] ∧
    ∀ feature ∈ pickedJobs.features true, Dialect.postgres.supports feature := by
  have done : compile pickedJobs "postgres" .postgres .prepared =
      .ok ⟨"WITH RECURSIVE \"picked\" AS (SELECT \"id\" FROM \"jobs\" WHERE \"ready\" IS TRUE"
        ++ " FOR UPDATE SKIP LOCKED) SELECT * FROM \"picked\"", []⟩ := rfl
  have typed : Dialect.postgres.conventions.booleanType = true := rfl
  have supported := compiled_features_supported done
  rw [typed] at supported
  exact ⟨done, by decide +kernel, supported⟩

end SqlDialects
