import Mathlib.Data.List.Perm.Basic
import SqlDialects.Compile
import SqlDialects.Proofs.Draft.Pieces
import SqlDialects.Proofs.Draft.Supports

/-!
The parts of a clean draft. Whatever is put together out of drafts is clean only if they are, and
holds the values of those that it writes.
-/

namespace SqlDialects

open Draft

def boundRows : Option Nat → List Value
  | none => []
  | some count => [.integer (Int64.ofNat count)]

namespace Draft

theorem flatMap_values {α : Type} {items : List α} {draft : α → Draft} {bound : α → List Value}
    (each : ∀ item ∈ items, (draft item).Clean → (draft item).values.Perm (bound item))
    (clean : ∀ item ∈ items, (draft item).Clean) :
    (items.flatMap fun item => (draft item).values).Perm (items.flatMap bound) :=
  List.Perm.flatMap_left items fun item member => each item member (clean item member)

@[simp] theorem values_range (test : RangeTest) (expr low high : Draft) :
    (range test expr low high).values = expr.values ++ low.values ++ high.values := by
  simp [range]

@[simp] theorem clean_range (test : RangeTest) (expr low high : Draft) :
    (range test expr low high).Clean ↔ expr.Clean ∧ low.Clean ∧ high.Clean := by
  simp [range]

theorem values_raw {sql : String} {texts : List String} {arguments : List Draft}
    (clean : (raw sql texts arguments).Clean) :
    (∀ argument ∈ arguments, argument.Clean) ∧
      (raw sql texts arguments).values = arguments.flatMap values := by
  fun_induction raw sql texts arguments with
  | case1 => simp
  | case2 => simp at clean
  | case3 => simp
  | case4 => simp at clean
  | case5 => simp at clean
  | case6 piece next rest argument arguments ih =>
      simp only [clean_append, clean_ofText, true_and] at clean
      obtain ⟨later, bound⟩ := ih clean.2
      exact ⟨by simpa [clean.1] using later, by simp [bound]⟩

@[simp] theorem clean_call (name : String) (arguments : List Draft) (distinct : Bool) :
    (call name arguments distinct).Clean ↔
      name.isEmpty = false ∧ ∀ argument ∈ arguments, argument.Clean := by
  unfold call
  cases name.isEmpty <;> cases distinct <;> simp

theorem values_call {name : String} (named : name.isEmpty = false) (arguments : List Draft)
    (distinct : Bool) :
    (call name arguments distinct).values = arguments.flatMap values := by
  cases distinct <;> simp [call, named]

@[simp] theorem clean_columns (drafts : List Draft) :
    (columns drafts).Clean ↔ ∀ draft ∈ drafts, draft.Clean := by
  cases drafts <;> simp [columns]

@[simp] theorem values_columns (drafts : List Draft) :
    (columns drafts).values = drafts.flatMap values := by
  cases drafts <;> simp [columns]

@[simp] theorem clean_sources (drafts : List Draft) :
    (sources drafts).Clean ↔ ∀ draft ∈ drafts, draft.Clean := by
  simp [sources]

@[simp] theorem clean_order (keys : List Draft) :
    (order keys).Clean ↔ ∀ key ∈ keys, key.Clean := by
  simp [order]

@[simp] theorem clean_columnList (drafts : List Draft) :
    (columnList drafts).Clean ↔ ∀ draft ∈ drafts, draft.Clean := by
  cases drafts <;> simp [columnList]

@[simp] theorem values_columnList (drafts : List Draft) :
    (columnList drafts).values = drafts.flatMap values := by
  cases drafts <;> simp [columnList]

@[simp] theorem clean_tuples (rows : List (List Draft)) :
    (tuples rows).Clean ↔ ∀ row ∈ rows, ∀ cell ∈ row, cell.Clean := by
  simp [tuples]

@[simp] theorem values_tuples (rows : List (List Draft)) :
    (tuples rows).values = rows.flatMap fun row => row.flatMap values := by
  simp [tuples, List.flatMap_map]

@[simp] theorem clean_rowCount (count : Nat) : (rowCount count).Clean ↔ count < rowCountBound := by
  unfold rowCount
  split <;> simp_all

theorem values_rowCount {count : Nat} (clean : (rowCount count).Clean) :
    (rowCount count).values = [.integer (Int64.ofNat count)] := by
  simp [rowCount, (clean_rowCount count).mp clean]

theorem values_rows {count : Option Nat} (clean : (rows count).Clean) :
    (rows count).values = boundRows count := by
  cases count with
  | none => rfl
  | some count => exact values_rowCount clean

@[simp] theorem values_rowFaults (columns index : Nat) (rows : List (List Expr)) :
    (rowFaults columns index rows).values = [] := by
  fun_induction rowFaults columns index rows with
  | case1 => rfl
  | case2 => rfl
  | case3 => rfl
  | case4 _ _ _ _ _ ih => exact ih

@[simp] theorem values_recordFaults (columns : List String) (index : Nat)
    (records : List Record) : (recordFaults columns index records).values = [] := by
  fun_induction recordFaults columns index records with
  | case1 => rfl
  | case2 => rfl
  | case3 _ _ _ _ _ ih => exact ih
  | case4 => rfl

theorem clean_recordFaults {columns : List String} {index : Nat} {records : List Record}
    (clean : (recordFaults columns index records).Clean) :
    ∀ record ∈ records, record.duplicate? = none ∧ record.sets columns := by
  fun_induction recordFaults columns index records with
  | case1 => simp
  | case2 => simp at clean
  | case3 index record rest unique fits ih =>
      simpa [unique, fits] using ih clean
  | case4 => simp at clean

/-- Among conditions, those that ask nothing hold no value either. -/
structure Condition.Yields (condition : Condition) (bound : List Value) : Prop where
  empty : condition.isEmpty → bound = []
  draft : ∀ nested, (condition.draft nested).Clean → (condition.draft nested).values.Perm bound

theorem flatMap_filter_isEmpty {α : Type} (condition : α → Condition) (bound : α → List Value)
    {items : List α} (each : ∀ item ∈ items, (condition item).Yields (bound item)) :
    (items.filter fun item => !(condition item).isEmpty).flatMap bound = items.flatMap bound := by
  induction items with
  | nil => rfl
  | cons item rest ih =>
      have later := ih fun other member => each other (by simp [member])
      cases empty : (condition item).isEmpty with
      | true =>
          have none := (each item (by simp)).empty empty
          simp [empty, none, later]
      | false => simp [empty, later]

theorem values_conditions {α : Type} {condition : α → Condition} {bound : α → List Value}
    {items : List α} (each : ∀ item ∈ items, (condition item).Yields (bound item))
    {connective : Connective} {nested : Bool}
    (clean : (conditions connective nested (items.map condition)).Clean) :
    (conditions connective nested (items.map condition)).values.Perm (items.flatMap bound) := by
  have asking : (items.map condition).filter (fun item => !item.isEmpty) =
      (items.filter fun item => !(condition item).isEmpty).map condition := by
    rw [List.filter_map]
    rfl
  have kept : ∀ item ∈ items.filter fun item => !(condition item).isEmpty,
      (condition item).Yields (bound item) :=
    fun item member => each item (List.mem_filter.mp member).1
  rw [← flatMap_filter_isEmpty condition bound each]
  unfold conditions at clean ⊢
  rw [asking] at clean ⊢
  generalize items.filter (fun item => !(condition item).isEmpty) = several at kept clean ⊢
  rcases several with _ | ⟨first, _ | ⟨second, rest⟩⟩
  · simp at clean
  · simpa using (kept first (by simp)).draft nested clean
  · have parts : ∀ item ∈ first :: second :: rest,
        ((condition item).draft (condition item).isList).Clean := by
      simpa using clean
    have sorted : ∀ item ∈ first :: second :: rest,
        ((condition item).draft (condition item).isList).values.Perm (bound item) :=
      fun item member => (kept item member).draft _ (parts item member)
    have joined := List.Perm.flatMap_left (first :: second :: rest) sorted
    simpa [List.flatMap_map] using joined

theorem drafted_of_clean_conditions {connective : Connective} {nested : Bool}
    {items : List Condition} (clean : (conditions connective nested items).Clean) :
    ∀ item ∈ items, item.isEmpty ∨ ∃ inner, (item.draft inner).Clean := by
  have kept : ∀ item ∈ items.filter fun item => !item.isEmpty,
      ∃ inner, (item.draft inner).Clean := by
    unfold conditions at clean
    split at clean
    · simp at clean
    · next single alone =>
      intro item member
      rw [alone, List.mem_singleton] at member
      exact ⟨nested, member ▸ clean⟩
    · simp only [clean_parenthesizedIf, clean_separated, List.forall_mem_map] at clean
      exact fun item member => ⟨item.isList, clean item member⟩
  intro item member
  cases empty : item.isEmpty with
  | true => exact .inl rfl
  | false => exact .inr (kept item (List.mem_filter.mpr ⟨member, by simp [empty]⟩))

end Draft

/-- Whether a test for a literal boolean binds it, instead of writing it as a text. -/
def Dialect.bindsBooleanTests (dialect : Dialect) : Bool :=
  dialect.conventions.booleanType && !dialect.conventions.plainBooleanTests

/-- What a comparison binds of its right operand: nothing if that is a boolean which is tested for
and written as a text. -/
def Comparison.operandValues (comparison : Comparison) (bindsTests : Bool) (truth : Option Bool)
    (values : List Value) : List Value :=
  if (comparison = .is ∨ comparison = .isNot) ∧ truth.isSome ∧ bindsTests = false then []
  else values

theorem Comparison.operandValues_of_identity {comparison : Comparison}
    (identity : comparison = .is ∨ comparison = .isNot) (bindsTests truth : Bool) :
    comparison.operandValues bindsTests (some truth) [.boolean truth] =
      if bindsTests then [.boolean truth] else [] := by
  cases bindsTests <;> simp [operandValues, identity]

namespace NamedDialect

variable (dialect : NamedDialect)

@[simp] theorem clean_nameDraft (name : String) : (dialect.nameDraft name).Clean := rfl

@[simp] theorem values_nameDraft (name : String) : (dialect.nameDraft name).values = [] := rfl

@[simp] theorem flatMap_values_nameDraft (names : List String) :
    (names.map dialect.nameDraft).flatMap values = [] := by
  simp

@[simp] theorem values_nameListDraft (names : List String) :
    (dialect.nameListDraft names).values = [] := by
  simp [Dialect.nameListDraft]

@[simp] theorem clean_identifierDraft (identifier : Identifier) :
    (dialect.identifierDraft identifier).Clean ↔ identifier.flaw? = none := by
  unfold Dialect.identifierDraft
  split <;> simp_all

@[simp] theorem values_identifierDraft (identifier : Identifier) :
    (dialect.identifierDraft identifier).values = [] := by
  unfold Dialect.identifierDraft
  split <;> rfl

theorem values_valueDraft {value : Value} (clean : (dialect.valueDraft value).Clean) :
    (dialect.valueDraft value).values = if value.isNull then [] else [value] := by
  cases value with
  | float number =>
      simp only [Dialect.valueDraft] at clean ⊢
      split <;> simp_all [Value.isNull]
  | null | boolean | integer | text | blob | timestamp => rfl

@[simp] theorem values_comparisonSpelling (comparison : Comparison) :
    (dialect.comparisonSpelling comparison).values = [] := by
  unfold comparisonSpelling
  split <;> rfl

@[simp] theorem clean_comparisonSpelling (comparison : Comparison) :
    (dialect.comparisonSpelling comparison).Clean ↔ dialect.supports (.comparison comparison) := by
  unfold comparisonSpelling
  split <;> simp_all [Dialect.supports]

@[simp] theorem values_booleanTestDraft (negated truth : Bool) :
    (dialect.booleanTestDraft negated truth).values =
      if dialect.bindsBooleanTests then [.boolean truth] else [] := by
  cases typed : dialect.conventions.booleanType <;>
    cases plain : dialect.conventions.plainBooleanTests <;>
    simp [booleanTestDraft, Dialect.bindsBooleanTests, typed, plain]

/-- A boolean behind a test by identity is bound or not; any other operand is drafted. -/
theorem values_comparisonDraft {comparison : Comparison} {left right : Draft}
    {truth : Option Bool} {leftValues rightValues : List Value}
    (leftBound : left.Clean → left.values.Perm leftValues)
    (rightBound : right.Clean → right.values.Perm rightValues)
    (boolean : ∀ truth' ∈ truth, rightValues = [.boolean truth'])
    (clean : (dialect.comparisonDraft comparison left truth right).Clean) :
    (dialect.comparisonDraft comparison left truth right).values.Perm
      (leftValues ++
        comparison.operandValues dialect.bindsBooleanTests truth rightValues) := by
  unfold comparisonDraft at clean ⊢
  split at clean
  · next truth =>
    simp only [clean_append] at clean
    rw [boolean truth rfl, values_append, values_booleanTestDraft,
      Comparison.operandValues_of_identity (by simp)]
    exact (leftBound clean.1).append_right _
  · next truth =>
    simp only [clean_append] at clean
    rw [boolean truth rfl, values_append, values_booleanTestDraft,
      Comparison.operandValues_of_identity (by simp)]
    exact (leftBound clean.1).append_right _
  · next is isNot =>
    simp only [clean_append] at clean
    have whole : comparison.operandValues dialect.bindsBooleanTests truth rightValues =
        rightValues := by
      unfold Comparison.operandValues
      split
      · next tested =>
        obtain ⟨same | same, known, _⟩ := tested
        · obtain ⟨truth', found⟩ := Option.isSome_iff_exists.mp known
          exact absurd found (is truth' same)
        · obtain ⟨truth', found⟩ := Option.isSome_iff_exists.mp known
          exact absurd found (isNot truth' same)
      · rfl
    rw [whole]
    simpa using (leftBound clean.1.1).append (rightBound clean.2)

theorem values_bitwiseDraft {operator : BitOperator} {left? : Option Draft} {right : Draft}
    {leftValues rightValues : List Value}
    (leftBound : ∀ left ∈ left?, left.Clean → left.values.Perm leftValues)
    (rightBound : right.Clean → right.values.Perm rightValues)
    (clean : (dialect.bitwiseDraft operator left? right).Clean) :
    (dialect.bitwiseDraft operator left? right).values.Perm
      ((if operator = .invert then [] else leftValues) ++ rightValues) := by
  unfold bitwiseDraft at clean ⊢
  cases spelled : dialect.operators.bitwise operator with
  | none => simp [spelled] at clean
  | some text =>
      simp only [spelled, clean_parenthesized] at clean ⊢
      by_cases inverts : operator = .invert
      · simp only [inverts, if_true, clean_append] at clean ⊢
        simpa using rightBound clean.2
      · cases left? with
        | none => simp [inverts] at clean
        | some left =>
            simp only [inverts, if_false, clean_append] at clean ⊢
            simpa using (leftBound left rfl clean.1.1).append (rightBound clean.2)

theorem clean_of_comparisonDraft {comparison : Comparison} {left right : Draft}
    {truth : Option Bool} (clean : (dialect.comparisonDraft comparison left truth right).Clean) :
    left.Clean ∧ (truth = none → right.Clean) := by
  unfold comparisonDraft at clean
  split at clean <;> simp_all

@[simp] theorem clean_tupleDraft (items : List Draft) :
    (dialect.tupleDraft items).Clean ↔ ∀ item ∈ items, item.Clean := by
  cases items <;> simp [Dialect.tupleDraft]

@[simp] theorem values_tupleDraft (items : List Draft) :
    (dialect.tupleDraft items).values = items.flatMap values := by
  cases items <;> simp [Dialect.tupleDraft]

@[simp] theorem values_excludedDraft (column : String) :
    (dialect.excludedDraft column).values = [] := by
  unfold Dialect.excludedDraft
  split <;> simp

@[simp] theorem values_nullsDraft (nulls : Option NullsPlacement) :
    (dialect.nullsDraft nulls).values = [] := by
  rcases nulls with _ | _ | _ <;> simp [nullsDraft]

@[simp] theorem clean_windowDraft (parent : Option String) (partition order : List Draft) :
    (dialect.windowDraft parent partition order).Clean ↔
      (∀ key ∈ partition, key.Clean) ∧ ∀ key ∈ order, key.Clean := by
  cases parent <;> cases partition <;> cases order <;> simp [Dialect.windowDraft]

@[simp] theorem values_windowDraft (parent : Option String) (partition order : List Draft) :
    (dialect.windowDraft parent partition order).values =
      partition.flatMap values ++ order.flatMap values := by
  cases parent <;> cases partition <;> cases order <;> simp [Dialect.windowDraft]

@[simp] theorem clean_namedWindowDraft (name : Option String) (body : Draft) :
    (dialect.namedWindowDraft name body).Clean ↔ name.isSome ∧ body.Clean := by
  cases name <;> simp [Dialect.namedWindowDraft]

theorem values_namedWindowDraft {name : Option String} (named : name.isSome) (body : Draft) :
    (dialect.namedWindowDraft name body).values = body.values := by
  cases name <;> simp_all [Dialect.namedWindowDraft]

@[simp] theorem clean_windowsDraft (windows : List Draft) :
    (dialect.windowsDraft windows).Clean ↔
      dialect.capabilities.windows = true ∧ ∀ window ∈ windows, window.Clean := by
  simp [windowsDraft]

@[simp] theorem clean_compoundDraft (kind : CompoundKind) (query : Draft) :
    (dialect.compoundDraft kind query).Clean ↔
      (dialect.operators.compound kind).isSome ∧ query.Clean := by
  simp [compoundDraft]

@[simp] theorem clean_joinDraft (kind : JoinKind) (source : Draft) (part : JoinPart) :
    (dialect.joinDraft kind source part).Clean ↔
      (dialect.operators.join kind).isSome ∧ source.Clean ∧
        (dialect.joinPartDraft kind part).Clean := by
  simp [joinDraft]

@[simp] theorem clean_distinctOnDraft (columns : List Draft) :
    (dialect.distinctOnDraft columns).Clean ↔
      dialect.capabilities.distinctOn = true ∧ ∀ column ∈ columns, column.Clean := by
  simp [distinctOnDraft]

@[simp] theorem clean_commonTablesDraft (recursive : Bool) (tables : List Draft) :
    (dialect.commonTablesDraft recursive tables).Clean ↔
      dialect.capabilities.commonTables = true ∧
        (recursive → dialect.capabilities.recursiveTables = true) ∧
          ∀ table ∈ tables, table.Clean := by
  cases recursive <;> simp [commonTablesDraft]

@[simp] theorem values_lockDraft (lock : Option Lock) : (dialect.lockDraft lock).values = [] := by
  rcases lock with _ | ⟨strength, _ | _ | _⟩ <;> simp [lockDraft, lockWaitDraft]

end NamedDialect

end SqlDialects
