import SqlDialects.Dialect.Bundled
import SqlDialects.Proofs.DottedNames
import SqlDialects.Proofs.Draft.Conflict
import SqlDialects.Proofs.Tokens
import SqlDialects.Proofs.ValueTables

/-!
The columns of a record in an insertion, and in the assignments of its conflict clause. An insertion
takes a column as one name, and an assignment reads it as a qualified name; both write the same
unless there is a dot in the column or the column is a star.
-/

namespace SqlDialects

open Draft

namespace Identifier

/-- A column is read as the name it is, unless it has a dot or is a star. -/
theorem parse_eq_single_iff {column : String} :
    parse column = single column ↔ '.' ∉ column.toList ∧ column ≠ "*" := by
  have given : (single column).parts ≠ [] := by simp [single]
  have shown : (single column).display = column := by simp [display, single, Part.text]
  have reads := parse_display_eq_iff given
  rw [shown] at reads
  simpa [single] using reads

theorem parse_eq_star_iff {column : String} : parse column = star ↔ column = "*" := by
  constructor
  · intro same
    rw [← display_parse column, same]
    rfl
  · rintro rfl
    decide

end Identifier

namespace BundledDialect

variable (bundled : BundledDialect) {first second : Identifier}

theorem identifierText_inj (firstGiven : first.parts ≠ []) (secondGiven : second.parts ≠ []) :
    bundled.dialect.identifierText first = bundled.dialect.identifierText second ↔
      first = second := by
  have quoted : bundled.dialect.conventions.quotedIdentifiers = true := by
    cases bundled <;> rfl
  have plain : bundled.dialect.lexicon.identifierQuote ≠ '*' ∧
      bundled.dialect.lexicon.identifierQuote ≠ '.' := by
    cases bundled <;> decide
  constructor
  · intro same
    exact (Dialect.identifierText_unique quoted plain firstGiven secondGiven
      (congrArg (·.toList ++ []) same) (by simp) (by simp)).1
  · rintro rfl
    rfl

theorem nameText_eq_iff (column : String) :
    bundled.dialect.nameText column = bundled.dialect.identifierText (.parse column) ↔
      '.' ∉ column.toList ∧ column ≠ "*" := by
  have alone : bundled.dialect.nameText column =
      bundled.dialect.identifierText (.single column) := by
    simp [Dialect.identifierText, Identifier.single, Dialect.partText]
  rw [alone, bundled.identifierText_inj (by simp [Identifier.single])
    (Identifier.parts_parse_ne_nil column), eq_comm, Identifier.parse_eq_single_iff]

theorem identifierText_eq_star_iff (column : String) :
    bundled.dialect.identifierText (.parse column) = "*" ↔ column = "*" := by
  have star : bundled.dialect.identifierText .star = "*" := by
    simp [Dialect.identifierText, Identifier.star, Dialect.partText]
  rw [← star, bundled.identifierText_inj (Identifier.parts_parse_ne_nil column)
    (by simp [Identifier.star])]
  exact Identifier.parse_eq_star_iff

end BundledDialect

def assignmentText (target value : String) : String :=
  target ++ " = " ++ value

/-- Behind what is ahead of the conflict clause, an insertion assigns the values to the targets. -/
structure Insert.Assigns (insertion : Insert) (dialect : NamedDialect) (mode : Mode)
    (conflict : Conflict) (record : Record) (targets values : List String) (compiled : Compiled) :
    Prop where
  placed : ∃ before after,
    (insertion.draftAhead dialect .conflict).write (mode.writeValue dialect) 0 = .ok before ∧
    compiled.sql = before.sql ++ dialect.keywords.onConflict ++ conflict.targetText dialect
      ++ dialect.keywords.doUpdate
      ++ ", ".intercalate (List.zipWith assignmentText targets values) ++ after
  targets : targets.length = record.size
  values : List.Forall₂
    (fun entry text => (entry.2.draft dialect false).WrittenAs dialect mode text)
    record.entries values

section Assignments

variable {dialect : NamedDialect} {mode : Mode}

theorem writtenAs_assignment {entry : String × Expr} {text : String}
    (done : (assignmentDraft dialect entry).WrittenAs dialect mode text) :
    ∃ written, (entry.2.draft dialect false).WrittenAs dialect mode written ∧
      text = assignmentText (dialect.identifierText (.parse entry.1)) written := by
  obtain ⟨opened, written, led, behind, rfl⟩ := done.append
  obtain ⟨target, equals, named, sign, rfl⟩ := led.append
  obtain rfl := (writtenAs_ofText _).mp sign
  rw [Dialect.identifierDraft] at named
  split at named
  · obtain ⟨count, _, failed, -⟩ := named
    simp [invalid, write] at failed
  · obtain rfl := (writtenAs_ofText _).mp named
    exact ⟨written, behind, rfl⟩

theorem writtenAs_assignments {entries : List (String × Expr)} {texts : List String}
    (each : List.Forall₂ (fun draft text => draft.WrittenAs dialect mode text)
      (entries.map (assignmentDraft dialect)) texts) :
    ∃ values : List String,
      List.Forall₂ (fun entry text => (entry.2.draft dialect false).WrittenAs dialect mode text)
        entries values ∧
      texts = List.zipWith assignmentText
        (entries.map fun entry => dialect.identifierText (.parse entry.1)) values := by
  rw [List.forall₂_map_left_iff] at each
  induction each with
  | nil => exact ⟨[], .nil, rfl⟩
  | cons here _ ih =>
      obtain ⟨value, written, rfl⟩ := writtenAs_assignment here
      obtain ⟨values, others, rfl⟩ := ih
      exact ⟨value :: values, .cons written others, rfl⟩

end Assignments

theorem Insert.exists_assigns {insertion : Insert} {record : Record} {target : List String}
    {condition : Option Expr} {name : String} {dialect : Dialect} {mode : Mode}
    {compiled : Compiled}
    (updates : insertion.conflict = some ⟨target, .update record condition⟩)
    (done : compile (.insert insertion) name dialect mode = .ok compiled) :
    ∃ values, insertion.Assigns ⟨dialect, name⟩ mode ⟨target, .update record condition⟩ record
      (record.columns.map fun column => dialect.identifierText (.parse column)) values
      compiled := by
  obtain ⟨table, later, -, whole⟩ := exists_clause_parts .conflict
    (by simp [carried, carriedClauses, updates]) (clean_of_compile_eq_ok done)
  have drafted : insertion.clauseDraft ⟨dialect, name⟩ table .conflict =
      NamedDialect.conflictDraft ⟨dialect, name⟩ ⟨target, .update record condition⟩ := by
    simp [clauseDraft, updates]
  rw [compile, Statement.draft, whole, drafted, write_append_eq_ok_iff] at done
  obtain ⟨through, after, led, -, rfl⟩ := done
  obtain ⟨before, clause, started, written, rfl⟩ := write_append_eq_ok_iff.mp led
  obtain ⟨settings, set, rfl⟩ :=
    Conflict.renders_of_write (dialect.ignoresConflict_update target record condition) written
  obtain ⟨_, behind, assigned, -, rest⟩ := Draft.WrittenAs.append ⟨_, settings, set, rfl⟩
  obtain ⟨texts, each, rfl⟩ := assigned.separated
  obtain ⟨values, valuesWritten, rfl⟩ := writtenAs_assignments each
  refine ⟨values, ⟨before, behind ++ after.sql, started, ?_⟩,
    by simp [Record.columns, Record.size], valuesWritten⟩
  simp [Compiled.append, rest, ConflictAction.keyword, Record.columns, String.append_assoc,
    Function.comp_def]

/-- An insertion of a record that assigns the same record on a conflict. Each column stands in its
list as a name of one part and in its assignments as the qualified name that is read from it, in the
same order; both are the same text for the columns without a dot other than the star, and only a
column that is the star is assigned as the star. -/
theorem record_columns_in_both_clauses {bundled : BundledDialect} {insertion : Insert}
    {record : Record} {others : List Record} {target : List String} {condition : Option Expr}
    {name : String} {mode : Mode} {compiled : Compiled}
    (inserts : insertion.source = .records (record :: others))
    (updates : insertion.conflict = some ⟨target, .update record condition⟩)
    (done : compile (.insert insertion) name bundled.dialect mode = .ok compiled) :
    ∃ rows table targets values, insertion.source.rows? = some rows ∧
      insertion.Tabulates ⟨bundled.dialect, name⟩ mode rows table compiled ∧
      insertion.Assigns ⟨bundled.dialect, name⟩ mode ⟨target, .update record condition⟩ record
        targets values compiled ∧
      table.columns = record.columns.map bundled.dialect.nameText ∧
      targets = record.columns.map (fun column => bundled.dialect.identifierText (.parse column)) ∧
      (∀ column ∈ record.columns,
        (bundled.dialect.nameText column = bundled.dialect.identifierText (.parse column) ↔
          '.' ∉ column.toList ∧ column ≠ "*") ∧
        (bundled.dialect.identifierText (.parse column) = "*" ↔ column = "*")) ∧
      (table.columns = targets ↔
        ∀ column ∈ record.columns, '.' ∉ column.toList ∧ column ≠ "*") ∧
      ("*" ∈ targets ↔ "*" ∈ record.columns) := by
  obtain ⟨-, table, tabulated⟩ := Insert.exists_tabulates (by rw [inserts]; rfl) done
  obtain ⟨values, assigned⟩ := Insert.exists_assigns updates done
  have listed : table.columns = record.columns.map bundled.dialect.nameText := by
    have names : record.columns.map bundled.dialect.nameDraft =
        (record.columns.map bundled.dialect.nameText).map ofText := by
      rw [List.map_map]
      rfl
    have written := tabulated.columns
    simp only [Insert.columnDrafts, inserts, names] at written
    exact forall₂_writtenAs_ofText written
  refine ⟨_, table, _, values, by rw [inserts]; rfl, tabulated, assigned, listed, rfl,
    fun column _ =>
    ⟨bundled.nameText_eq_iff column, bundled.identifierText_eq_star_iff column⟩, ?_, ?_⟩
  · rw [listed, List.map_inj_left]
    exact forall₂_congr fun column _ => bundled.nameText_eq_iff column
  · simp only [List.mem_map, bundled.identifierText_eq_star_iff, exists_eq_right]

def Insert.upserting (insertion : Insert) (record : Record) : Insert :=
  { insertion with
    source := .records [record]
    conflict := some ⟨["id"], .update record none⟩ }

theorem record_columns_in_both_clauses_scores :
    ∃ rows table targets values compiled,
      compile (.insert (insertScores.upserting (score 1 2))) "postgres" .postgres .prepared =
        .ok compiled ∧
      compiled.sql = "INSERT INTO \"scores\" (\"level\", \"points\") VALUES ($1, $2) " ++
        "ON CONFLICT (\"id\") DO UPDATE SET \"level\" = $3, \"points\" = $4" ∧
      (insertScores.upserting (score 1 2)).Tabulates ⟨.postgres, "postgres"⟩ .prepared rows table
        compiled ∧
      (insertScores.upserting (score 1 2)).Assigns ⟨.postgres, "postgres"⟩ .prepared
        ⟨["id"], .update (score 1 2) none⟩ (score 1 2) targets values compiled ∧
      table.columns = targets := by
  have done : compile (.insert (insertScores.upserting (score 1 2))) "postgres"
      (BundledDialect.dialect .postgres) .prepared = .ok _ := rfl
  obtain ⟨rows, table, targets, values, -, tabulated, assigned, -, -, -, alike, -⟩ :=
    record_columns_in_both_clauses rfl rfl done
  exact ⟨rows, table, targets, values, _, done, rfl, tabulated, assigned, alike.mpr (by decide)⟩

def dottedScore : Record :=
  .ofList [("a.b", .literal (.integer 1)), ("*", .literal (.integer 2))]

theorem dotted_columns_differ :
    ∃ compiled,
      compile (.insert (insertScores.upserting dottedScore)) "default" .standard .inline =
        .ok compiled ∧
      compiled.sql = "INSERT INTO \"scores\" (\"a.b\", \"*\") VALUES (1, 2) " ++
        "ON CONFLICT (\"id\") DO UPDATE SET \"a\".\"b\" = 1, * = 2" ∧
      (insertScores.upserting dottedScore).Tabulates ⟨.standard, "default"⟩ .inline
        [dottedScore.row dottedScore.columns] ⟨["\"a.b\"", "\"*\""], [["1", "2"]]⟩ compiled ∧
      (insertScores.upserting dottedScore).Assigns ⟨.standard, "default"⟩ .inline
        ⟨["id"], .update dottedScore none⟩ dottedScore ["\"a\".\"b\"", "*"] ["1", "2"]
        compiled := by
  have values : List.Forall₂ (fun (entry : String × Expr) text =>
      (entry.2.draft ⟨.standard, "default"⟩ false).WrittenAs ⟨.standard, "default"⟩ .inline text)
      dottedScore.entries ["1", "2"] :=
    .cons ⟨0, _, rfl, rfl⟩ (.cons ⟨0, _, rfl, rfl⟩ .nil)
  refine ⟨⟨_, []⟩, rfl, rfl,
    ⟨⟨⟨"INSERT INTO \"scores\"", []⟩, _, rfl, rfl⟩, ?_, .cons ?_ .nil⟩,
    ⟨⟨⟨"INSERT INTO \"scores\" (\"a.b\", \"*\") VALUES (1, 2)", []⟩, "", rfl, rfl⟩, rfl, values⟩⟩
  · exact .cons ⟨0, _, rfl, rfl⟩ (.cons ⟨0, _, rfl, rfl⟩ .nil)
  · exact .cons ⟨0, _, rfl, rfl⟩ (.cons ⟨0, _, rfl, rfl⟩ .nil)

end SqlDialects
