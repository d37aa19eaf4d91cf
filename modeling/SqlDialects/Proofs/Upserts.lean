import SqlDialects.Dialect.MySql
import SqlDialects.Proofs.Capabilities
import SqlDialects.Proofs.Draft.Conflict
import SqlDialects.Proofs.Draft.Insertion
import SqlDialects.Proofs.Nesting

/-!
Insertions with a conflict clause. Two fragments of an insertion look at the clause, at moments that
the dialect chooses: one for the keyword that opens the insertion, the other one for the clause
itself. What to do on a conflict is said either by that keyword or by the clause.
-/

namespace SqlDialects

open Draft

/-- The same text with its placeholders numbered on from `other` instead of `count`. -/
def Compiled.Renumbered (dialect : Dialect) (mode : Mode) (count other : Nat)
    (first second : Compiled) : Prop :=
  second.arguments = first.arguments ∧
    match mode with
    | .inline => second.sql = first.sql
    | .prepared => ∃ texts : List String, texts.length = first.arguments.length + 1 ∧
        first.sql = weave texts
          ((List.range' count first.arguments.length).map dialect.placeholderText) ∧
        second.sql = weave texts
          ((List.range' other first.arguments.length).map dialect.placeholderText)

namespace Insert

def plain (insertion : Insert) : Insert :=
  { insertion with conflict := none }

/-- Where the order of the dialect has the opening of an insertion, the keyword stands. -/
def OpensWith (insertion : Insert) (dialect : NamedDialect) (mode : Mode) (keyword : String)
    (compiled : Compiled) : Prop :=
  ∃ before after,
    (insertion.draftAhead dialect .opening).write (mode.writeValue dialect) 0 = .ok before ∧
    compiled = (before.append ⟨keyword, []⟩).append after

end Insert

theorem renumbered_of_write {dialect : NamedDialect} {mode : Mode} {draft : Draft}
    {count other : Nat} {first second : Compiled}
    (done : draft.write (mode.writeValue dialect) count = .ok first)
    (again : draft.write (mode.writeValue dialect) other = .ok second) :
    first.Renumbered dialect mode count other second := by
  cases mode with
  | inline =>
      have same : second = first := by
        have both := (write_inlineValue_count draft other count).symm.trans again
        exact Except.ok.inj (both.symm.trans done)
      exact ⟨congrArg Compiled.arguments same, congrArg Compiled.sql same⟩
  | prepared =>
      have clean := clean_of_write_ok done
      rw [Mode.writeValue, write_bindValue_behind clean] at done again
      cases done
      cases again
      exact ⟨rfl, draft.gaps, length_gaps draft, rfl, rfl⟩

namespace Insert

variable {insertion : Insert} {conflict : Conflict} {dialect : NamedDialect} {table : Expr}

theorem carried_plain (given : insertion.conflict = some conflict) :
    insertion.plain.carried = insertion.carried.erase .conflict := by
  simp only [carried, plain, given, Option.isSome_none, Option.isSome_some]
  cases insertion.commonTables.isEmpty <;> cases insertion.returning.isEmpty <;> rfl

def unconflicted (insertion : Insert) (dialect : NamedDialect) (table : Expr) : Draft :=
  arrange dialect.name (insertion.clauseDraft dialect table) dialect.orders.insert
    (insertion.carried.erase .conflict)

theorem clauseDraft_plain {clause : Clause} (other : clause ≠ .conflict)
    (same : clause = .opening →
      insertion.plain.openingDraft dialect = insertion.openingDraft dialect) :
    insertion.plain.clauseDraft dialect table clause =
      insertion.clauseDraft dialect table clause := by
  cases clause <;> first | rfl | exact same rfl | exact absurd rfl other

theorem plain_draft_eq (given : insertion.conflict = some conflict)
    (named : insertion.table = some table)
    (same : insertion.plain.openingDraft dialect = insertion.openingDraft dialect) :
    insertion.plain.draft dialect = insertion.unconflicted dialect table := by
  have target : insertion.plain.table = some table := named
  rw [draft_eq_arrange target, carried_plain given]
  refine arrange_congr fun clause member => clauseDraft_plain ?_ fun _ => same
  rintro rfl
  exact (Statement.insert insertion).nodup_carried.not_mem_erase member

theorem exists_conflict_parts (given : insertion.conflict = some conflict)
    (named : insertion.table = some table) (listed : .conflict ∈ dialect.orders.insert)
    (clean : (insertion.draftAhead dialect .conflict).Clean) :
    ∃ later,
      insertion.unconflicted dialect table = insertion.draftAhead dialect .conflict ++ later ∧
      insertion.draft dialect =
        insertion.draftAhead dialect .conflict ++ dialect.conflictDraft conflict ++ later := by
  simp only [draftAhead, named] at clean ⊢
  have nodup : insertion.carried.Nodup := (Statement.insert insertion).nodup_carried
  obtain ⟨later, without, whole⟩ := exists_later rfl listed nodup clean
  refine ⟨later, without, ?_⟩
  have drafted : insertion.clauseDraft dialect table .conflict =
      dialect.conflictDraft conflict := by
    simp [clauseDraft, given]
  rw [draft_eq_arrange named, whole (by simp [carried, carriedClauses, given]), drafted]

theorem exists_write_unconflicted {writeValue : Nat → Value → Except Failure Compiled}
    {written : Compiled} (given : insertion.conflict = some conflict)
    (named : insertion.table = some table)
    (done : (insertion.plain.draft dialect).write writeValue 0 = .ok written) :
    ∃ other, (insertion.unconflicted dialect table).write writeValue 0 = .ok other := by
  have related : (insertion.plain.draft dialect).Clean →
      (insertion.unconflicted dialect table).Clean ∧
        (insertion.unconflicted dialect table).values =
          (insertion.plain.draft dialect).values := by
    have target : insertion.plain.table = some table := named
    rw [draft_eq_arrange target, carried_plain given]
    refine arrange_related
      (fun left right => left.Clean → right.Clean ∧ right.values = left.values)
      (fun _ clean => ⟨clean, rfl⟩) ?_ fun clause member => ?_
    · intro left right left' right' same same' clean
      obtain ⟨leftClean, leftClean'⟩ := (clean_append _ _).mp clean
      simp [same leftClean, same' leftClean']
    · -- The opening may have another keyword, but it is a text in any case.
      by_cases opening : clause = .opening
      · subst opening
        exact fun _ => ⟨clean_ofText _, rfl⟩
      · have other : clause ≠ .conflict := by
          rintro rfl
          exact (Statement.insert insertion).nodup_carried.not_mem_erase member
        rw [clauseDraft_plain other fun here => absurd here opening]
        exact fun clean => ⟨clean, rfl⟩
  obtain ⟨clean, values⟩ := related (clean_of_write_ok done)
  exact exists_write_of_values done clean values

end Insert

theorem Dialect.relates_withInsertKeyword (dialect : Dialect) (name keyword : String) :
    NamedDialect.Relates True ⟨dialect, name⟩ ⟨dialect.withInsertKeyword keyword, name⟩ Kept where
  toCongruent := congruent_kept
  unsupported := fun _ _ _ _ clean => absurd clean (not_clean_unsupported _ _)
  supports := by
    intro feature supported
    cases feature <;> exact supported
  widens := by
    intro _
    exact .refl _
  booleanTest := fun _ _ _ => rfl
  parentheses := by
    intro left right same clean
    rw [same ((clean_parenthesizedIf _ _).mp clean)]
  missingTarget := fun _ => rfl
  skippedConflict := fun _ => rfl
  select := fun _ _ _ _ parts =>
    congruent_kept.related_select (fun _ _ => rfl) (fun _ _ => rfl) parts _

theorem Insert.draft_withInsertKeyword {insertion : Insert} {dialect : Dialect}
    {name keyword : String}
    (opening : insertion.openingDraft (dialect.withInsertKeyword keyword) =
      insertion.openingDraft dialect)
    (clean : (insertion.draft ⟨dialect, name⟩).Clean) :
    insertion.draft ⟨dialect.withInsertKeyword keyword, name⟩ =
      insertion.draft ⟨dialect, name⟩ := by
  refine Statement.draft_related (dialect.relates_withInsertKeyword name keyword)
    (fun _ _ _ => rfl) (.insert insertion) (fun _ _ => rfl) (fun _ _ => rfl) rfl rfl ?_ clean
  rintro _ ⟨⟩ _
  exact opening

section Outcome

variable {insertion : Insert} {conflict : Conflict} {name : String} {dialect : Dialect}
  {mode : Mode} {compiled : Compiled}

theorem Insert.opensWith {keyword : String} (opens : .insertOpening ∈ dialect.orders.insert)
    (opening : insertion.openingDraft dialect = ofText keyword)
    (done : compile (.insert insertion) name dialect mode = .ok compiled) :
    insertion.OpensWith ⟨dialect, name⟩ mode keyword compiled := by
  have writes : Fragment.insertClause? .insertOpening = some .opening := rfl
  obtain ⟨table, later, -, whole⟩ := exists_draft_parts writes opens
    (by simp [carried, carriedClauses]) (clean_draftAhead (clean_of_compile_eq_ok done) .opening)
  have drafted : insertion.clauseDraft ⟨dialect, name⟩ table .opening = ofText keyword := opening
  rw [compile, Statement.draft, whole, drafted, write_append_eq_ok_iff] at done
  obtain ⟨through, after, led, -, rfl⟩ := done
  obtain ⟨before, opened, started, wrote, rfl⟩ := write_append_eq_ok_iff.mp led
  rw [write_ofText, Except.ok.injEq] at wrote
  exact ⟨before, after, started, by rw [wrote]⟩

variable (given : insertion.conflict = some conflict) (listed : .conflict ∈ dialect.orders.insert)

include given listed

theorem Insert.clean_conflictDraft (clean : (insertion.draft ⟨dialect, name⟩).Clean) :
    (NamedDialect.conflictDraft ⟨dialect, name⟩ conflict).Clean := by
  obtain ⟨table, named⟩ := exists_table clean
  obtain ⟨later, -, whole⟩ :=
    exists_conflict_parts given named listed (clean_draftAhead clean .conflict)
  rw [whole, clean_append, clean_append] at clean
  exact clean.1.2

theorem Insert.capable_of_clean (clean : (insertion.draft ⟨dialect, name⟩).Clean) :
    dialect.capabilities.onConflict := by
  have conflictClean := clean_conflictDraft given listed clean
  simp only [NamedDialect.conflictDraft, NamedDialect.conflictFaults, clean_append, clean_demand]
    at conflictClean
  exact conflictClean.1.1.1.1

theorem compile_by_keyword (skips : conflict.ByKeyword dialect)
    (done : compile (.insert insertion) name dialect mode = .ok compiled) :
    compile (.insert insertion.plain) name
      (dialect.withInsertKeyword dialect.keywords.insertIgnore) mode = .ok compiled := by
  have clean : (insertion.draft ⟨dialect, name⟩).Clean := clean_of_compile_eq_ok done
  obtain ⟨table, named⟩ := Insert.exists_table clean
  have capable := Insert.capable_of_clean given listed clean
  have ignores := (Conflict.ignoresConflict_iff capable).mpr skips
  have opening : insertion.openingDraft dialect = ofText dialect.keywords.insertIgnore := by
    rw [Insert.openingDraft, given, ignores, if_pos rfl]
  have anyway : insertion.openingDraft (dialect.withInsertKeyword dialect.keywords.insertIgnore) =
      ofText dialect.keywords.insertIgnore := by
    unfold Insert.openingDraft
    split <;> rfl
  have rewritten := Insert.draft_withInsertKeyword (anyway.trans opening.symm) clean
  have same : insertion.plain.openingDraft
      (dialect.withInsertKeyword dialect.keywords.insertIgnore) =
        insertion.openingDraft (dialect.withInsertKeyword dialect.keywords.insertIgnore) :=
    anyway.symm
  obtain ⟨later, without, whole⟩ :=
    @Insert.exists_conflict_parts _ _
      ⟨dialect.withInsertKeyword dialect.keywords.insertIgnore, name⟩ _ given named listed
      (Insert.clean_draftAhead (rewritten ▸ clean) .conflict)
  have silent : NamedDialect.conflictDraft
      ⟨dialect.withInsertKeyword dialect.keywords.insertIgnore, name⟩ conflict = [] :=
    Conflict.ByKeyword.conflictDraft_eq_nil skips capable
  have plain : insertion.plain.draft
      ⟨dialect.withInsertKeyword dialect.keywords.insertIgnore, name⟩ =
        insertion.draft ⟨dialect, name⟩ := by
    rw [Insert.plain_draft_eq given named same, without, ← rewritten, whole, silent,
      List.append_nil]
  have values : mode.writeValue
      ⟨dialect.withInsertKeyword dialect.keywords.insertIgnore, name⟩ =
        mode.writeValue ⟨dialect, name⟩ :=
    mode.writeValue_of_lexicon rfl rfl rfl
  rw [compile] at done ⊢
  rw [values, Statement.draft, plain]
  exact done

theorem compile_by_clause (apart : dialect.ignoresConflict (some conflict) = false)
    (done : compile (.insert insertion) name dialect mode = .ok compiled) :
    ∃ before clause behind later,
      (insertion.draftAhead ⟨dialect, name⟩ .conflict).write (mode.writeValue ⟨dialect, name⟩) 0 =
        .ok before ∧
      conflict.Renders ⟨dialect, name⟩ mode before.arguments.length clause ∧
      compile (.insert insertion.plain) name dialect mode = .ok (before.append behind) ∧
      compiled = (before.append clause).append later ∧
      behind.Renumbered dialect mode before.arguments.length
        (before.arguments.length + clause.arguments.length) later := by
  have clean : (insertion.draft ⟨dialect, name⟩).Clean := clean_of_compile_eq_ok done
  obtain ⟨table, named⟩ := Insert.exists_table clean
  obtain ⟨rest, without, whole⟩ := Insert.exists_conflict_parts given named listed
    (Insert.clean_draftAhead clean .conflict)
  have plain : insertion.plain.draft ⟨dialect, name⟩ =
      insertion.draftAhead ⟨dialect, name⟩ .conflict ++ rest := by
    rw [Insert.plain_draft_eq given named, without]
    rw [Insert.openingDraft, Insert.openingDraft, given, apart]
    rfl
  rw [compile, Statement.draft, whole, write_append_eq_ok_iff] at done
  obtain ⟨through, later, led, followed, rfl⟩ := done
  obtain ⟨before, clause, started, rendered, rfl⟩ := write_append_eq_ok_iff.mp led
  rw [Nat.zero_add] at rendered followed
  have counted : (before.append clause).arguments.length =
      before.arguments.length + clause.arguments.length := by
    simp [Compiled.append]
  rw [counted] at followed
  obtain ⟨behind, closer⟩ := exists_write_behind followed before.arguments.length
  refine ⟨before, clause, behind, later, started, Conflict.renders_of_write apart rendered, ?_,
    rfl, renumbered_of_write closer followed⟩
  rw [compile, Statement.draft, plain, write_append_eq_ok_iff]
  exact ⟨before, behind, started, by rw [Nat.zero_add]; exact closer, rfl⟩

/-- Whatever the conflict clause is, the rest of the insertion can be written around it. -/
theorem exists_write_around
    (done : ∃ plain, compile (.insert insertion.plain) name dialect mode = .ok plain) :
    ∃ rest before after,
      insertion.draft ⟨dialect, name⟩ = insertion.draftAhead ⟨dialect, name⟩ .conflict
        ++ NamedDialect.conflictDraft ⟨dialect, name⟩ conflict ++ rest ∧
      (insertion.draftAhead ⟨dialect, name⟩ .conflict).write (mode.writeValue ⟨dialect, name⟩) 0 =
        .ok before ∧
      rest.write (mode.writeValue ⟨dialect, name⟩) before.arguments.length = .ok after := by
  obtain ⟨plain, done⟩ := done
  have plainClean : (insertion.plain.draft ⟨dialect, name⟩).Clean := clean_of_compile_eq_ok done
  obtain ⟨table, named⟩ := Insert.exists_table plainClean
  change insertion.table = some table at named
  obtain ⟨other, written⟩ :=
    Insert.exists_write_unconflicted given named done
  have ahead : (insertion.draftAhead ⟨dialect, name⟩ .conflict).Clean := by
    have clean := clean_ahead (clean_of_write_ok written) .conflict
    rw [ahead_erase] at clean
    simpa only [Insert.draftAhead, named] using clean
  obtain ⟨rest, without, whole⟩ := Insert.exists_conflict_parts given named listed ahead
  rw [without, write_append_eq_ok_iff] at written
  obtain ⟨before, after, started, followed, -⟩ := written
  rw [Nat.zero_add] at followed
  exact ⟨rest, before, after, whole, started, followed⟩

theorem compile_of_objection
    (done : ∃ plain, compile (.insert insertion.plain) name dialect mode = .ok plain)
    {fault : Failure} (found : conflict.objection? ⟨dialect, name⟩ = some fault) :
    compile (.insert insertion) name dialect mode = .error (fault) := by
  obtain ⟨rest, before, after, whole, started, -⟩ := exists_write_around given listed done
  obtain ⟨others, faults⟩ := Conflict.exists_faults_of_objection found
  rw [compile, Statement.draft, whole, List.append_assoc, write_append, started,
    NamedDialect.conflictDraft, faults]
  rfl

theorem compile_of_no_objection
    (done : ∃ plain, compile (.insert insertion.plain) name dialect mode = .ok plain)
    (none : conflict.objection? ⟨dialect, name⟩ = none)
    (acts : ∃ action, (NamedDialect.conflictActionDraft ⟨dialect, name⟩ conflict.action).write
      (mode.writeValue ⟨dialect, name⟩) 0 = .ok action) :
    ∃ compiled, compile (.insert insertion) name dialect mode = .ok compiled := by
  obtain ⟨rest, before, after, whole, started, followed⟩ := exists_write_around given listed done
  obtain ⟨clause, rendered⟩ : ∃ clause, (NamedDialect.conflictDraft ⟨dialect, name⟩ conflict).write
      (mode.writeValue ⟨dialect, name⟩) before.arguments.length = .ok clause := by
    rw [NamedDialect.conflictDraft, Conflict.faults_of_objection_none none, List.nil_append]
    split
    · exact ⟨.empty, rfl⟩
    · obtain ⟨action, acted⟩ := acts
      obtain ⟨acted', again⟩ := exists_write_behind acted before.arguments.length
      rw [List.append_assoc, write_opened, Conflict.write_target, again]
      exact ⟨_, rfl⟩
  obtain ⟨later, closing⟩ := exists_write_behind followed (before.append clause).arguments.length
  refine ⟨(before.append clause).append later, ?_⟩
  rw [compile, Statement.draft, whole, write_append_eq_ok_iff]
  refine ⟨before.append clause, later, write_append_eq_ok_iff.mpr ⟨before, clause, started, ?_,
    rfl⟩, ?_, rfl⟩
  · rw [Nat.zero_add]
    exact rendered
  · rw [Nat.zero_add]
    exact closing

end Outcome

/-- What to do on a conflict is said either by the keyword that opens the insertion or by a clause,
and nothing else of the insertion depends on it but the numbers of the placeholders behind the
clause. If the insertion fails by its conflict clause alone, it fails by the first objection. -/
theorem conflicts_by_keyword_or_clause (insertion : Insert) {conflict : Conflict}
    (given : insertion.conflict = some conflict) (name : String) (dialect : Dialect)
    (opens : .insertOpening ∈ dialect.orders.insert) (listed : .conflict ∈ dialect.orders.insert)
    (mode : Mode) :
    (∀ compiled, compile (.insert insertion) name dialect mode = .ok compiled →
      (conflict.ByKeyword dialect →
        compile (.insert insertion.plain) name
          (dialect.withInsertKeyword dialect.keywords.insertIgnore) mode = .ok compiled) ∧
      (¬conflict.ByKeyword dialect →
        insertion.OpensWith ⟨dialect, name⟩ mode dialect.keywords.insert compiled ∧
        ∃ before clause behind later,
          (insertion.draftAhead ⟨dialect, name⟩ .conflict).write
            (mode.writeValue ⟨dialect, name⟩) 0 =
            .ok before ∧
          conflict.Renders ⟨dialect, name⟩ mode before.arguments.length clause ∧
          compile (.insert insertion.plain) name dialect mode = .ok (before.append behind) ∧
          compiled = (before.append clause).append later ∧
          behind.Renumbered dialect mode before.arguments.length
            (before.arguments.length + clause.arguments.length) later)) ∧
    ((∃ plain, compile (.insert insertion.plain) name dialect mode = .ok plain) →
      (∀ fault, conflict.objection? ⟨dialect, name⟩ = some fault →
        compile (.insert insertion) name dialect mode = .error fault) ∧
      (conflict.objection? ⟨dialect, name⟩ = none →
        (∃ action, (NamedDialect.conflictActionDraft ⟨dialect, name⟩ conflict.action).write
          (mode.writeValue ⟨dialect, name⟩) 0 = .ok action) →
        ∃ compiled, compile (.insert insertion) name dialect mode = .ok compiled)) := by
  refine ⟨fun compiled done => ⟨fun skips => ?_, fun apart => ?_⟩, fun done => ⟨?_, ?_⟩⟩
  · exact compile_by_keyword given listed skips done
  · have capable := Insert.capable_of_clean given listed (clean_of_compile_eq_ok done)
    rw [← Conflict.ignoresConflict_iff capable, Bool.not_eq_true] at apart
    refine ⟨Insert.opensWith opens ?_ done, compile_by_clause given listed apart done⟩
    rw [Insert.openingDraft, given, apart]
    rfl
  · exact fun fault found => compile_of_objection given listed done found
  · exact fun none acts => compile_of_no_objection given listed done none acts

def visitedAgain : Conflict :=
  ⟨["day"], .update (.ofList [("times", .literal (.integer 2))])
    (some (.comparison .less (.column "times") (.literal (.integer 2))))⟩

def visit : Insert :=
  { Insert.empty with
    table := some (.column "visits")
    columns := [.column "day"]
    source := .rows [[.literal (.integer 7)]]
    conflict := some visitedAgain
    returning := [.literal (.text "seen")] }

def firstVisit : Insert :=
  { visit with conflict := some ⟨[], .nothing⟩, returning := [] }

theorem conflicts_by_keyword_or_clause_visits :
    compile (.insert visit.plain) "postgres" .postgres .prepared =
      .ok ⟨"INSERT INTO \"visits\" (\"day\") VALUES ($1) RETURNING $2",
        [.integer 7, .text "seen"]⟩ ∧
    compile (.insert visit) "postgres" .postgres .prepared =
      .ok ⟨"INSERT INTO \"visits\" (\"day\") VALUES ($1) ON CONFLICT (\"day\") "
        ++ "DO UPDATE SET \"times\" = $2 WHERE \"times\" < $3 RETURNING $4",
        [.integer 7, .integer 2, .integer 2, .text "seen"]⟩ ∧
    (∃ before clause behind later : Compiled,
      visitedAgain.Renders ⟨.postgres, "postgres"⟩ .prepared before.arguments.length clause ∧
      compile (.insert visit.plain) "postgres" .postgres .prepared = .ok (before.append behind) ∧
      compile (.insert visit) "postgres" .postgres .prepared =
        .ok ((before.append clause).append later)) ∧
    compile (.insert firstVisit.plain) "mysql"
        (Dialect.mySql.withInsertKeyword "INSERT IGNORE INTO") .inline =
      .ok ⟨"INSERT IGNORE INTO \x60visits\x60 (\x60day\x60) VALUES (7)", []⟩ ∧
    compile (.insert visit) "sqlite" .sqlite .prepared =
      .error (.unsupported .conflictCondition "sqlite") := by
  have revisited : compile (.insert visit) "postgres" .postgres .prepared =
      .ok ⟨"INSERT INTO \"visits\" (\"day\") VALUES ($1) ON CONFLICT (\"day\") "
        ++ "DO UPDATE SET \"times\" = $2 WHERE \"times\" < $3 RETURNING $4",
        [.integer 7, .integer 2, .integer 2, .text "seen"]⟩ := rfl
  have skipped : compile (.insert firstVisit) "mysql" .mySql .inline =
      .ok ⟨"INSERT IGNORE INTO \x60visits\x60 (\x60day\x60) VALUES (7)", []⟩ := rfl
  have accepted : compile (.insert visit.plain) "sqlite" .sqlite .prepared =
      .ok ⟨"INSERT INTO \"visits\" (\"day\") VALUES (?) RETURNING ?",
        [.integer 7, .text "seen"]⟩ := rfl
  obtain ⟨-, before, clause, behind, later, -, renders, plain, whole, -⟩ :=
    ((conflicts_by_keyword_or_clause visit rfl "postgres" .postgres (by decide) (by decide)
      .prepared).1 _ revisited).2 (by simp [Conflict.ByKeyword, visitedAgain])
  have ignored := ((conflicts_by_keyword_or_clause firstVisit rfl "mysql" .mySql (by decide)
    (by decide) .inline).1 _ skipped).1 ⟨rfl, rfl, rfl⟩
  have refused := ((conflicts_by_keyword_or_clause visit rfl "sqlite" .sqlite (by decide)
    (by decide) .prepared).2 ⟨_, accepted⟩).1 (.unsupported .conflictCondition "sqlite") rfl
  refine ⟨rfl, revisited, ⟨before, clause, behind, later, renders, plain, ?_⟩, ignored, refused⟩
  rw [revisited, whole]

end SqlDialects
