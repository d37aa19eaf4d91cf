import SqlDialects.Compile
import SqlDialects.Dialect.Standard
import SqlDialects.Expr.Filter
import SqlDialects.Proofs.Tables

/-!
Filters as maps. A filter keeps the last entry of each column and has its columns in the order of
their code points, so entries that give each column the same at last make the same filter. It
expands to one condition for each column.
-/

namespace SqlDialects

def latestFor? (entries : List FilterEntry) (column : String) : Option FilterEntry :=
  entries.findRev? (·.column = column)

/-- A literal null or boolean. -/
inductive Expr.Plain : Expr → Prop
  | null : Plain (.literal .null)
  | boolean (truth : Bool) : Plain (.literal (.boolean truth))

/-- A comparison as it is written with an operand. -/
inductive Comparison.Settled : Comparison → Expr → Comparison → Prop
  | is {operand : Expr} (plain : operand.Plain) : Settled .equal operand .is
  | isNot {operand : Expr} (plain : operand.Plain) : Settled .notEqual operand .isNot
  | other {comparison : Comparison} {operand : Expr} (ordinary : ¬operand.Plain) :
      Settled comparison operand comparison
  | same {comparison : Comparison} {operand : Expr} (notEqual : comparison ≠ .equal)
      (notUnequal : comparison ≠ .notEqual) : Settled comparison operand comparison

inductive FilterTest.Expands (column : Expr) : FilterTest → Expr → Prop
  | comparison {operator settled : Comparison} {operand : Expr}
      (written : operator.Settled operand settled) :
      Expands column (.comparison operator operand) (.comparison settled column operand)
  | range (test : RangeTest) (low high : Expr) :
      Expands column (.range test low high) (.range test column low high)

/-- The condition for a column. -/
inductive FilterEntry.Expands : FilterEntry → Expr → Prop
  | membership (name : String) (items : List Expr) :
      Expands (.value name (.tuple items)) (.comparison .isIn (.column name) (.tuple items))
  | identity (name : String) {operand : Expr} (plain : operand.Plain) :
      Expands (.value name operand) (.comparison .is (.column name) operand)
  | equality (name : String) {operand : Expr} (ordinary : ¬operand.Plain)
      (single : ∀ items, operand ≠ .tuple items) :
      Expands (.value name operand) (.comparison .equal (.column name) operand)
  | test {name : String} {test : FilterTest} {condition : Expr}
      (expanded : test.Expands (.column name) condition) : Expands (.tests name [test]) condition
  | alternatives {name : String} {tests : List FilterTest} {conditions : List Expr}
      (several : tests.length ≠ 1)
      (each : List.Forall₂ (FilterTest.Expands (.column name)) tests conditions) :
      Expands (.tests name tests) (.conditions .or conditions)

theorem Expr.isNullOrBoolean_iff_plain (expr : Expr) : expr.isNullOrBoolean ↔ expr.Plain := by
  constructor
  · intro known
    cases expr with
    | literal value =>
        cases value with
        | null => exact .null
        | boolean truth => exact .boolean truth
        | _ => cases known
    | _ => cases known
  · rintro (_ | _) <;> rfl

theorem Comparison.settled_settle (comparison : Comparison) (operand : Expr) :
    comparison.Settled operand (comparison.settle operand.isNullOrBoolean) := by
  cases known : operand.isNullOrBoolean with
  | true =>
      have plain := operand.isNullOrBoolean_iff_plain.mp known
      cases comparison <;>
        first | exact .is plain | exact .isNot plain | exact .same (by decide) (by decide)
  | false =>
      have ordinary : ¬operand.Plain := by simp [← operand.isNullOrBoolean_iff_plain, known]
      cases comparison <;> exact .other ordinary

theorem FilterTest.expands_toExpr (test : FilterTest) (column : Expr) :
    test.Expands column (test.toExpr column) := by
  cases test with
  | comparison operator operand => exact .comparison (operator.settled_settle operand)
  | range test low high => exact .range test low high

theorem Expr.filterComparison_of_single {operand : Expr}
    (single : ∀ items, operand ≠ .tuple items) : operand.filterComparison = .equal := by
  cases operand with
  | tuple items => exact absurd rfl (single items)
  | _ => rfl

theorem FilterEntry.expands_toExpr (entry : FilterEntry) : entry.Expands entry.toExpr := by
  cases entry with
  | value name operand =>
      by_cases listed : ∃ items, operand = .tuple items
      · obtain ⟨items, rfl⟩ := listed
        exact .membership name items
      · have single : ∀ items, operand ≠ .tuple items := fun items same => listed ⟨items, same⟩
        rw [toExpr, Expr.filterComparison_of_single single, Expr.compare]
        cases known : operand.isNullOrBoolean with
        | true => exact .identity name (operand.isNullOrBoolean_iff_plain.mp known)
        | false =>
            exact .equality name (by simp [← operand.isNullOrBoolean_iff_plain, known]) single
  | tests name given =>
      match given with
      | [test] => exact .test (test.expands_toExpr (.column name))
      | [] => exact .alternatives (by simp) .nil
      | first :: second :: rest =>
          refine .alternatives (by simp) ?_
          rw [List.forall₂_map_right_iff, List.forall₂_same]
          exact fun test _ => test.expands_toExpr (.column name)

def FilterEntry.keyed (entry : FilterEntry) : String × FilterEntry :=
  (entry.column, entry)

theorem map_snd_keyed (entries : List FilterEntry) :
    (entries.map FilterEntry.keyed).map Prod.snd = entries := by
  simp [FilterEntry.keyed, Function.comp_def]

namespace Filter

theorem keyed_insertEntry (entry : FilterEntry) (entries : List FilterEntry) :
    (insertEntry entry entries).map FilterEntry.keyed =
      Table.insertEntry entry.column entry (entries.map FilterEntry.keyed) := by
  induction entries with
  | nil => rfl
  | cons other rest ih =>
      cases order : compare entry.column other.column <;>
        simp [insertEntry, Table.insertEntry, FilterEntry.keyed, order, ih]

variable (any : Bool) (calls : List FilterEntry)

def table : Table String FilterEntry :=
  .ofList (calls.map FilterEntry.keyed)

theorem ofEntries_concat (call : FilterEntry) :
    ofEntries any (calls ++ [call]) = (ofEntries any calls).set call := by
  simp [ofEntries]

theorem table_concat (call : FilterEntry) :
    table (calls ++ [call]) = (table calls).insert call.column call := by
  simp [table, Table.ofList_concat, FilterEntry.keyed]

/-- A filter holds the latest entry of each column, by the order of the columns. -/
theorem ofEntries_eq : ofEntries any calls = ⟨any, (table calls).entries.map Prod.snd⟩ := by
  have kept : ∃ entries, ofEntries any calls = ⟨any, entries⟩ ∧
      entries.map FilterEntry.keyed = (table calls).entries := by
    induction calls using List.reverseRecOn with
    | nil => exact ⟨[], rfl, rfl⟩
    | append_singleton calls call ih =>
        obtain ⟨entries, made, keyed⟩ := ih
        rw [ofEntries_concat, table_concat, made]
        exact ⟨insertEntry call entries, rfl, by rw [keyed_insertEntry, keyed]; rfl⟩
  obtain ⟨entries, made, keyed⟩ := kept
  rw [made, ← keyed, map_snd_keyed]

theorem latestFor?_concat (call : FilterEntry) (column : String) :
    latestFor? (calls ++ [call]) column =
      if call.column = column then some call else latestFor? calls column := by
  by_cases same : call.column = column <;>
    simp [latestFor?, List.findRev?_eq_find?_reverse, same]

theorem find?_table (column : String) : (table calls).find? column = latestFor? calls column := by
  induction calls using List.reverseRecOn with
  | nil => rfl
  | append_singleton calls call ih =>
      rw [table_concat, Table.find?_insert, ih, latestFor?_concat]
      simp only [eq_comm]

variable {calls}

theorem column_of_mem_table {column : String} {entry : FilterEntry}
    (member : (column, entry) ∈ (table calls).entries) : entry.column = column := by
  rw [Table.mem_entries_iff, find?_table, latestFor?, List.findRev?_eq_find?_reverse] at member
  simpa using List.find?_some member

theorem columns_ofEntries :
    (ofEntries any calls).entries.map FilterEntry.column = (table calls).keys := by
  rw [ofEntries_eq, List.map_map, Table.keys]
  exact List.map_congr_left fun keyed member => column_of_mem_table member

theorem latestFor?_of_mem {entry : FilterEntry} (member : entry ∈ (ofEntries any calls).entries) :
    latestFor? calls entry.column = some entry := by
  rw [ofEntries_eq, List.mem_map] at member
  obtain ⟨⟨column, _⟩, inside, rfl⟩ := member
  rw [column_of_mem_table inside, ← find?_table]
  exact (Table.mem_entries_iff _).mp inside

theorem pairwise_columns (calls : List FilterEntry) : (table calls).keys.Pairwise (· < ·) :=
  List.pairwise_map.mpr <|
    (table calls).increasing.imp fun before => compareOfLessAndEq_eq_lt.mp before

theorem mem_columns_iff {column : String} :
    column ∈ (table calls).keys ↔ column ∈ calls.map FilterEntry.column := by
  rw [Table.mem_keys_iff, table, Table.isSome_find?_ofList_iff, List.map_map]
  rfl

end Filter

/-- Entries that give each column the same at last make the same filter, with the same expansion.
The expansion has one condition for each column, by the order of their code points, and each of
them is written from the last entry of its column. -/
theorem filters_keep_last_entries (any : Bool) {first second : List FilterEntry}
    (same : ∀ column, latestFor? first column = latestFor? second column) :
    Filter.ofEntries any first = Filter.ofEntries any second ∧
    ∃ columns conditions,
      (Filter.ofEntries any first).toExpr = .conditions (if any then .or else .and) conditions ∧
      (Filter.ofEntries any second).toExpr = .conditions (if any then .or else .and) conditions ∧
      columns.Pairwise (· < ·) ∧
      (∀ column, column ∈ columns ↔ column ∈ first.map FilterEntry.column) ∧
      List.Forall₂ (fun column condition => ∃ entry,
        latestFor? first column = some entry ∧ entry.Expands condition) columns conditions := by
  have tables : Filter.table first = Filter.table second := by
    apply Table.ext_find?
    simpa [Filter.find?_table] using same
  have filters : Filter.ofEntries any first = Filter.ofEntries any second := by
    rw [Filter.ofEntries_eq, Filter.ofEntries_eq, tables]
  have expanded : (Filter.ofEntries any first).toExpr = .conditions (if any then .or else .and)
      ((Filter.ofEntries any first).entries.map FilterEntry.toExpr) := by
    rw [Filter.ofEntries_eq, Filter.toExpr, Filter.connective]
  refine ⟨filters, (Filter.table first).keys, _, expanded, filters ▸ expanded, ?_, ?_, ?_⟩
  · exact Filter.pairwise_columns first
  · exact fun column => Filter.mem_columns_iff
  · rw [← Filter.columns_ofEntries any, List.forall₂_map_left_iff, List.forall₂_map_right_iff,
      List.forall₂_same]
    exact fun entry member => ⟨entry, Filter.latestFor?_of_mem any member, entry.expands_toExpr⟩

def askedJobs : List FilterEntry :=
  [.value "team" (.literal (.integer 1)),
    .tests "seen" [.comparison .equal (.literal .null),
      .range .between (.literal (.integer 3)) (.literal (.integer 5))],
    .value "done" (.literal (.boolean true)),
    .value "team" (.tuple [.literal (.integer 1), .literal (.integer 2)]),
    .tests "late" [.comparison .notEqual (.literal (.boolean true))]]

def reaskedJobs : List FilterEntry :=
  [.value "late" (.literal .null),
    .value "team" (.tuple [.literal (.integer 1), .literal (.integer 2)]),
    .tests "late" [.comparison .notEqual (.literal (.boolean true))],
    .tests "seen" [.comparison .equal (.literal .null),
      .range .between (.literal (.integer 3)) (.literal (.integer 5))],
    .value "done" (.literal (.boolean true))]

theorem latestFor?_askedJobs (column : String) :
    latestFor? askedJobs column = latestFor? reaskedJobs column := by
  simp only [latestFor?, List.findRev?_eq_find?_reverse, askedJobs, reaskedJobs, List.reverse_cons,
    List.reverse_nil, List.nil_append, List.cons_append, List.find?_cons, List.find?_nil,
    FilterEntry.column]
  grind

def deleteAsked (entries : List FilterEntry) : Statement :=
  .delete { Delete.empty with
    table := some (.column "jobs")
    conditions := [.filter (Filter.ofEntries false entries)] }

theorem filters_keep_last_entries_askedJobs :
    (∀ column, latestFor? askedJobs column = latestFor? reaskedJobs column) ∧
    Filter.ofEntries false askedJobs = Filter.ofEntries false reaskedJobs ∧
    compile (deleteAsked askedJobs) "default" .standard .inline =
      .ok ⟨"DELETE FROM \"jobs\" WHERE \"done\" IS TRUE AND \"late\" IS NOT TRUE AND " ++
        "(\"seen\" IS NULL OR \"seen\" BETWEEN 3 AND 5) AND \"team\" IN (1, 2)", []⟩ := by
  have same := (filters_keep_last_entries false latestFor?_askedJobs).1
  exact ⟨latestFor?_askedJobs, same, by decide +kernel⟩

end SqlDialects
