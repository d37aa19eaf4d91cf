import SqlDialects.Proofs.Draft.Parts
import SqlDialects.Proofs.Grouping
import SqlDialects.Proofs.Tokens

/-!
The row limit of a compound query. Behind the last query a limit applies to the rows of all of
them; beside the columns, where SQL Server has it, only to those of the first.
-/

namespace SqlDialects

open Draft

namespace Draft

variable {dialect : NamedDialect} {count : Nat} {text : List Char}

theorem inlines_rows (done : (rows (some count)).Inlines dialect text) :
    text = (toString count).toList := by
  have bound : count < rowCountBound := (clean_rowCount count).mp done.clean
  have written : Inlines dialect [.value .rowCount (.integer (Int64.ofNat count))] text := by
    simpa [rows, rowCount, bound] using done
  have number : (Int64.ofNat count).toInt = count := Int64.toInt_ofNat_of_lt bound
  rw [inlines_value, NamedDialect.literalText, number] at written
  obtain ⟨literal, spelled, rfl⟩ := written
  cases spelled
  rfl

theorem exists_texts_of_insertion {before inserted behind : Draft} {plain longer : List Char}
    (done : (before ++ behind).Inlines dialect plain)
    (longerDone : (before ++ (inserted ++ behind)).Inlines dialect longer) :
    ∃ lead middle last, before.Inlines dialect lead ∧ inserted.Inlines dialect middle ∧
      behind.Inlines dialect last ∧ plain = lead ++ last ∧ longer = lead ++ (middle ++ last) := by
  obtain ⟨lead, last, started, finished, rfl⟩ := inlines_append.mp done
  obtain ⟨lead', _, started', rest, rfl⟩ := inlines_append.mp longerDone
  obtain ⟨middle, last', written, finished', rfl⟩ := inlines_append.mp rest
  obtain rfl := started.unique started'
  obtain rfl := finished.unique finished'
  exact ⟨lead, middle, last, started, written, finished, rfl, rfl⟩

end Draft

theorem not_isPrefix_of_mark {inserted text : List Char} {mark : Char} (given : inserted ≠ [])
    (missing : mark ∉ inserted) (marked : mark ∈ text) : ¬text <+: inserted ++ text := by
  rintro ⟨rest, same⟩
  -- The mark would first occur at two places, as far apart as the inserted text is long.
  have places := congrArg (List.idxOf mark) same
  rw [List.idxOf_append_of_mem marked, List.idxOf_append_of_notMem missing] at places
  have longer : 0 < inserted.length := List.length_pos_iff.mpr given
  omega

def Select.unlimited (query : Select) : Select :=
  { query with limit := none }

namespace Select

variable {query : Select}

theorem unbounded_unlimited (start : query.offset = none) (unlocked : query.lock = none) :
    query.unlimited.Unbounded :=
  ⟨rfl, start, unlocked⟩

theorem apply_limit_unlimited (query : Select) (count : Nat) :
    query.unlimited.apply (.limit count) = query.apply (.limit count) := rfl

end Select

namespace Layout

variable {query : Select} {name : String} {count : Nat} {plain limited : List Char}

theorem usual_limited_text {dialect : NamedDialect}
    (order : dialect.orders.select = Select.clauses.map Clause.fragment)
    (unbounded : query.Unbounded) (done : (query.draft dialect).Inlines dialect plain)
    (limitedDone : ((query.apply (.limit count)).draft dialect).Inlines dialect limited) :
    limited = plain ++ (" LIMIT " ++ toString count).toList := by
  have joined : (query.apply (.limit count)).compounds = query.compounds := rfl
  have longer : (query.apply (.limit count)).draft dialect =
      query.draft dialect ++ limitDraft count := by
    rw [(usual order).draft_eq limitedDone.clean, (usual order).draft_eq done.clean,
      usual_head_limit, usual_tail_limit order unbounded, usual_tail_of_unbounded order unbounded,
      joined]
    simp only [List.append_assoc]
  rw [longer] at limitedDone
  obtain ⟨before, added, written, limit, rfl⟩ := inlines_append.mp limitedDone
  obtain ⟨word, number, started, counted, rfl⟩ := inlines_append.mp limit
  obtain rfl := done.unique written
  rw [(inlines_ofText _).mp started, inlines_rows counted, String.toList_append]

/-- What SQL Server writes of a query behind the place of a limit. -/
def behindTop (name : String) (query : Select) : Draft :=
  body query ⟨.sqlServer, name⟩ ++ (compoundDrafts ⟨.sqlServer, name⟩ query.compounds
    ++ (sqlServer name).tail query)

theorem sqlServer_limited_text (unbounded : query.Unbounded)
    (done : (query.draft ⟨.sqlServer, name⟩).Inlines ⟨.sqlServer, name⟩ plain)
    (limitedDone : ((query.apply (.limit count)).draft ⟨.sqlServer, name⟩).Inlines
      ⟨.sqlServer, name⟩ limited) :
    ∃ before behind, (behindTop name query).Inlines ⟨.sqlServer, name⟩ behind ∧
      plain = before ++ behind ∧
      limited = before ++ ((" TOP (" ++ toString count ++ ")").toList ++ behind) := by
  have joined : (query.apply (.limit count)).compounds = query.compounds := rfl
  have plainDraft : query.draft ⟨.sqlServer, name⟩ =
      lead query ⟨.sqlServer, name⟩ ++ behindTop name query := by
    rw [(sqlServer name).draft_eq done.clean, sqlServer_head_of_unbounded unbounded, behindTop]
    simp only [List.append_assoc]
  have limitedDraft : (query.apply (.limit count)).draft ⟨.sqlServer, name⟩ =
      lead query ⟨.sqlServer, name⟩ ++ (topDraft count ++ behindTop name query) := by
    rw [(sqlServer name).draft_eq limitedDone.clean, sqlServer_head_limit unbounded,
      sqlServer_tail_limit unbounded, joined, behindTop]
    simp only [List.append_assoc]
  rw [plainDraft] at done
  rw [limitedDraft] at limitedDone
  obtain ⟨before, top, behind, _, limit, finished, rfl, rfl⟩ :=
    exists_texts_of_insertion done limitedDone
  obtain ⟨number, counted, rfl⟩ := inlines_enclosed.mp limit
  refine ⟨before, behind, finished, rfl, ?_⟩
  rw [inlines_rows counted, String.toList_append, String.toList_append]

/-- The keyword of the first compound tells the rest of the query from a limit. -/
theorem exists_mark_of_compounds (query : Select) (compounded : query.compounds ≠ [])
    {behind : List Char}
    (done : (behindTop name query).Inlines ⟨.sqlServer, name⟩ behind) :
    ∃ mark ∈ ['U', 'I', 'E'], mark ∈ behind := by
  obtain ⟨first, others, same⟩ := List.exists_cons_of_ne_nil compounded
  obtain ⟨columns, _, _, rest, rfl⟩ := inlines_append.mp done
  obtain ⟨compounds, after, joined, _, rfl⟩ := inlines_append.mp rest
  rw [same, compoundDrafts] at joined
  obtain ⟨compound, later, written, _, rfl⟩ := inlines_append.mp joined
  obtain ⟨letter, word, rfl, known⟩ := BundledDialect.sqlServer.compoundDraft_begins written
  exact ⟨letter, known, by simp⟩

theorem not_mem_top {mark : Char} (known : mark ∈ ['U', 'I', 'E']) (count : Nat) :
    mark ∉ (" TOP (" ++ toString count ++ ")").toList := by
  have noNumeral : isNumeral mark = false := by
    simp only [List.mem_cons, List.not_mem_nil, or_false] at known
    rcases known with rfl | rfl | rfl <;> rfl
  have notCounted : mark ∉ count.repr.toList := by
    intro member
    have numeral : isNumeral mark = true := isNumeral_of_mem_natText member
    rw [noNumeral] at numeral
    cases numeral
  rw [show toString count = count.repr from rfl, String.toList_append, String.toList_append,
    List.mem_append, List.mem_append]
  simp only [List.mem_cons, List.not_mem_nil, or_false] at known
  rcases known with rfl | rfl | rfl <;> simp only [notCounted, or_false] <;> decide

end Layout

/-- With a row limit, a compound query without an offset and a lock is written as without it and
then the limit, so that the limit bounds all of its rows. Only on SQL Server is it written into the
first query instead, and what is written without it never begins what is written with it. -/
theorem limit_behind_compounds (bundled : BundledDialect) (name : String) {query : Select}
    (count : Nat) (compounded : query.compounds ≠ []) (start : query.offset = none)
    (unlocked : query.lock = none) {plain limited : Compiled}
    (done : compile (.select query.unlimited) name bundled.dialect .inline = .ok plain)
    (limitedDone :
      compile (.select (query.apply (.limit count))) name bundled.dialect .inline = .ok limited) :
    (bundled ≠ .sqlServer → limited.sql = plain.sql ++ (" LIMIT " ++ toString count)) ∧
    (bundled = .sqlServer →
      ¬plain.sql.toList <+: limited.sql.toList ∧
      ∃ before behind, plain.sql = before ++ behind ∧
        limited.sql = before ++ ((" TOP (" ++ toString count ++ ")") ++ behind)) := by
  have unbounded := Select.unbounded_unlimited start unlocked
  have written := inlines_of_compile done
  have limitedWritten := inlines_of_compile limitedDone
  rw [← query.apply_limit_unlimited] at limitedWritten
  constructor
  · intro notServer
    have order : bundled.dialect.orders.select = Select.clauses.map Clause.fragment := by
      cases bundled <;> first | rfl | exact absurd rfl notServer
    rw [← String.toList_inj, String.toList_append]
    exact Layout.usual_limited_text order unbounded written limitedWritten
  · rintro rfl
    obtain ⟨before, behind, finished, plainText, limitedText⟩ :=
      Layout.sqlServer_limited_text unbounded written limitedWritten
    refine ⟨?_, String.ofList before, String.ofList behind, ?_, ?_⟩
    · obtain ⟨mark, known, member⟩ :=
        Layout.exists_mark_of_compounds query.unlimited compounded finished
      rw [plainText, limitedText, List.prefix_append_right_inj]
      exact not_isPrefix_of_mark (by simp) (Layout.not_mem_top known count) member
    · simp [← String.toList_inj, plainText]
    · simp [← String.toList_inj, limitedText]

def sortedRows : Select :=
  ((rowsOf "jobs").apply (.compound .union (rowsOf "tasks"))).apply (.orderBy [.column "id"])

theorem limit_behind_compounds_sortedRows :
    (∃ plain limited, compile (.select sortedRows.unlimited) "mysql" .mySql .inline = .ok plain ∧
      compile (.select (sortedRows.apply (.limit 3))) "mysql" .mySql .inline = .ok limited ∧
      limited.sql = plain.sql ++ " LIMIT 3") ∧
    (∃ plain limited,
      compile (.select sortedRows.unlimited) "sqlserver" .sqlServer .inline = .ok plain ∧
      compile (.select (sortedRows.apply (.limit 3))) "sqlserver" .sqlServer .inline =
        .ok limited ∧
      ¬plain.sql.toList <+: limited.sql.toList) := by
  have compounded : sortedRows.compounds ≠ [] := by simp [sortedRows, Select.apply]
  constructor
  · have done : compile (.select sortedRows.unlimited) "mysql" .mySql .inline = .ok
        ⟨"SELECT * FROM `jobs` UNION (SELECT * FROM `tasks`) ORDER BY `id`", []⟩ := rfl
    have limitedDone : compile (.select (sortedRows.apply (.limit 3))) "mysql" .mySql .inline =
        .ok ⟨"SELECT * FROM `jobs` UNION (SELECT * FROM `tasks`) ORDER BY `id` LIMIT 3", []⟩ := rfl
    have behind := limit_behind_compounds .mySql "mysql" 3 compounded rfl rfl done limitedDone
    exact ⟨_, _, done, limitedDone, behind.1 (by decide)⟩
  · have done : compile (.select sortedRows.unlimited) "sqlserver" .sqlServer .inline = .ok
        ⟨"SELECT * FROM \"jobs\" UNION (SELECT * FROM \"tasks\") ORDER BY \"id\"", []⟩ := rfl
    have limitedDone : compile (.select (sortedRows.apply (.limit 3))) "sqlserver" .sqlServer
        .inline = .ok ⟨"SELECT TOP (3) * FROM \"jobs\" UNION (SELECT * FROM \"tasks\")"
          ++ " ORDER BY \"id\"", []⟩ := rfl
    have behind :=
      limit_behind_compounds .sqlServer "sqlserver" 3 compounded rfl rfl done limitedDone
    exact ⟨_, _, done, limitedDone, (behind.2 rfl).1⟩

/-- A limit that takes rows of the first query only. -/
theorem sqlServer_limits_first_query :
    compile (.select sortedRows) "sqlserver" .sqlServer .inline = .ok
      ⟨"SELECT * FROM \"jobs\" UNION (SELECT * FROM \"tasks\") ORDER BY \"id\"", []⟩ ∧
    compile (.select (sortedRows.apply (.limit 3))) "sqlserver" .sqlServer .inline = .ok
      ⟨"SELECT TOP (3) * FROM \"jobs\" UNION (SELECT * FROM \"tasks\") ORDER BY \"id\"", []⟩ ∧
    ¬"SELECT * FROM \"jobs\" UNION (SELECT * FROM \"tasks\") ORDER BY \"id\"".toList <+:
      "SELECT TOP (3) * FROM \"jobs\" UNION (SELECT * FROM \"tasks\") ORDER BY \"id\"".toList :=
  ⟨rfl, rfl, by decide⟩

end SqlDialects
