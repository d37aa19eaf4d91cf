import SqlDialects.Dialect.Postgres
import SqlDialects.Proofs.Draft.Inline
import SqlDialects.Proofs.Inside
import SqlDialects.Proofs.NestedQueries
import SqlDialects.Proofs.Outcome

/-!
Queries nested in other statements. Writing a draft depends on what stands before it only by the
number of the arguments there, so a nested query comes out as it does alone, with its placeholders
numbered on from those arguments and its own arguments in one block.
-/

namespace SqlDialects

open Draft

namespace Nesting

def draft (dialect : NamedDialect) : Nesting → Draft
  | subquery inner => (Expr.subquery inner).draft dialect false
  | commonTable name inner => CommonTable.draft dialect ⟨name, inner⟩
  | compound kind inner => Compound.draft dialect ⟨kind, inner⟩
  | insertion columns inner => dialect.insertSourceDraft columns (.query inner)

def leading (dialect : NamedDialect) : Nesting → Draft
  | insertion columns _ => columnList (expressionDrafts dialect false columns)
  | subquery _ | commonTable _ _ | compound _ _ => []

/-- The text of the query with the words of its place around it; a compound has a keyword there
only if the dialect has one for it. -/
def text? (dialect : Dialect) (own : String) : Nesting → Option String
  | subquery _ => some ("(" ++ own ++ ")")
  | commonTable name _ => some (dialect.nameText name ++ " AS (" ++ own ++ ")")
  | compound kind _ => (dialect.operators.compound kind).map fun keyword =>
      keyword ++ if dialect.conventions.compoundsInParentheses then "(" ++ own ++ ")" else own
  | insertion _ _ => some (" " ++ own)

end Nesting

/-- What a query that compiles to `own` alone comes to behind `count` other arguments. -/
def Select.embedded (query : Select) (dialect : NamedDialect) (mode : Mode) (count : Nat)
    (own : Compiled) : Compiled :=
  match mode with
  | .inline => own
  | .prepared =>
      ⟨weave (query.draft dialect).gaps
        ((List.range' count own.arguments.length).map dialect.placeholderText), own.arguments⟩

/-- What the place of a nested query comes to behind `count` other arguments: the column list of an
insertion, and the embedded query with the words of its place. -/
def Nesting.Renders (nesting : Nesting) (dialect : NamedDialect) (mode : Mode) (count : Nat)
    (rendered : Compiled) : Prop :=
  ∃ own leading text,
    compile (.select nesting.query) dialect.name dialect mode = .ok own ∧
    (nesting.leading dialect).write (mode.writeValue dialect) count = .ok leading ∧
    nesting.text? dialect
      (nesting.query.embedded dialect mode (count + leading.arguments.length) own).sql =
        some text ∧
    rendered = ⟨leading.sql ++ text, leading.arguments ++ own.arguments⟩

variable {dialect : NamedDialect} {mode : Mode}

theorem write_behind {earlier : Draft} {count : Nat} {before : Compiled}
    (done : earlier.write (mode.writeValue dialect) count = .ok before) (later : Draft) :
    later.write (mode.writeValue dialect) (count + earlier.values.length) =
      later.write (mode.writeValue dialect) (count + before.arguments.length) := by
  cases mode with
  | inline => exact write_inlineValue_count later _ _
  | prepared =>
      rw [Mode.writeValue, write_bindValue_behind (clean_of_write_ok done)] at done
      cases done
      rfl

theorem write_append_eq_ok_iff {first second : Draft} {count : Nat} {whole : Compiled} :
    (first ++ second).write (mode.writeValue dialect) count = .ok whole ↔
      ∃ before after, first.write (mode.writeValue dialect) count = .ok before ∧
        second.write (mode.writeValue dialect) (count + before.arguments.length) = .ok after ∧
        whole = before.append after := by
  rw [write_append, bind_eq_ok_iff]
  constructor
  · rintro ⟨before, led, followed⟩
    obtain ⟨after, behind, rfl⟩ := map_eq_ok_iff.mp followed
    exact ⟨before, after, led, (write_behind led second).symm.trans behind, rfl⟩
  · rintro ⟨before, after, led, behind, rfl⟩
    exact ⟨before, led, map_eq_ok_iff.mpr ⟨after, (write_behind led second).trans behind, rfl⟩⟩

theorem exists_write_behind {draft : Draft} {count : Nat} {written : Compiled}
    (done : draft.write (mode.writeValue dialect) count = .ok written) (other : Nat) :
    ∃ rewritten, draft.write (mode.writeValue dialect) other = .ok rewritten := by
  cases mode with
  | inline => exact ⟨written, (write_inlineValue_count draft other count).trans done⟩
  | prepared => exact ⟨_, write_bindValue_behind (clean_of_write_ok done) dialect other⟩

/-- A query is written wherever it stands as far as it compiles alone. -/
theorem Select.write_eq_ok_iff {query : Select} {count : Nat} {written : Compiled} :
    (query.draft dialect).write (mode.writeValue dialect) count = .ok written ↔
      ∃ own, compile (.select query) dialect.name dialect mode = .ok own ∧
        written = query.embedded dialect mode count own := by
  cases mode with
  | inline =>
      simp only [compile, embedded, Statement.draft, Mode.writeValue]
      rw [write_inlineValue_count _ count 0]
      simp
  | prepared =>
      simp only [compile_prepared_eq_ok_iff, embedded, Statement.draft, Mode.writeValue]
      constructor
      · intro done
        have clean := clean_of_write_ok done
        rw [write_bindValue_behind clean] at done
        exact ⟨_, ⟨clean, rfl⟩, (Except.ok.inj done).symm⟩
      · rintro ⟨_, ⟨clean, rfl⟩, rfl⟩
        exact write_bindValue_behind clean dialect count

theorem Select.embedded_zero {query : Select} {own : Compiled}
    (alone : compile (.select query) dialect.name dialect mode = .ok own) :
    query.embedded dialect mode 0 own = own := by
  have written : (query.draft dialect).write (mode.writeValue dialect) 0 =
      .ok (query.embedded dialect mode 0 own) := write_eq_ok_iff.mpr ⟨own, alone, rfl⟩
  have again : (query.draft dialect).write (mode.writeValue dialect) 0 = .ok own := alone
  exact Except.ok.inj (written.symm.trans again)

@[simp] theorem Select.arguments_embedded (query : Select) (count : Nat) (own : Compiled) :
    (query.embedded dialect mode count own).arguments = own.arguments := by
  cases mode <;> rfl

theorem arguments_of_compile_inline {statement : Statement} {name : String} {dialect : Dialect}
    {compiled : Compiled} (done : compile statement name dialect .inline = .ok compiled) :
    compiled.arguments = [] :=
  arguments_of_write_inlineValue done

namespace Nesting

def wrapped (dialect : NamedDialect) : Nesting → Draft
  | subquery inner => parenthesized (inner.draft dialect)
  | commonTable name inner => dialect.commonTableDraft name (inner.draft dialect)
  | compound kind inner => dialect.compoundDraft kind (inner.draft dialect)
  | insertion _ inner => ofText " " ++ inner.draft dialect

theorem draft_eq (nesting : Nesting) :
    nesting.draft dialect = nesting.leading dialect ++ nesting.wrapped dialect := by
  cases nesting with
  | subquery inner => rfl
  | commonTable name inner => rfl
  | compound kind inner => rfl
  | insertion columns inner => exact List.append_assoc ..

theorem write_wrapped_eq_ok_iff {nesting : Nesting} {count : Nat} {rendered : Compiled} :
    (nesting.wrapped dialect).write (mode.writeValue dialect) count = .ok rendered ↔
      ∃ written text,
        (nesting.query.draft dialect).write (mode.writeValue dialect) count = .ok written ∧
          nesting.text? dialect written.sql = some text ∧ rendered = ⟨text, written.arguments⟩ := by
  cases nesting with
  | subquery inner =>
      simp only [wrapped, parenthesized, write_enclosed, map_eq_ok_iff, text?, query]
      simp [eq_comm]
  | commonTable name inner =>
      simp only [wrapped, Dialect.commonTableDraft, Dialect.nameDraft, write_opened,
        write_enclosed, map_eq_ok_iff, text?, query]
      simp [eq_comm, String.append_assoc]
  | compound kind inner =>
      simp only [wrapped, NamedDialect.compoundDraft, text?, query]
      cases dialect.operators.compound kind with
      | none => simp [spelling, unsupported, write]
      | some keyword =>
          simp only [spelling, write_opened, map_eq_ok_iff]
          cases dialect.conventions.compoundsInParentheses with
          | false => simp [parenthesizedIf, eq_comm]
          | true =>
              simp only [parenthesizedIf, if_true, parenthesized, write_enclosed, map_eq_ok_iff]
              simp [eq_comm]
  | insertion columns inner =>
      simp only [wrapped, write_opened, map_eq_ok_iff, text?, query]
      simp [eq_comm]

theorem write_eq_ok_iff {nesting : Nesting} {count : Nat} {rendered : Compiled} :
    (nesting.draft dialect).write (mode.writeValue dialect) count = .ok rendered ↔
      nesting.Renders dialect mode count rendered := by
  rw [draft_eq, write_append, bind_eq_ok_iff]
  constructor
  · rintro ⟨leading, led, done⟩
    obtain ⟨wrapped, behind, rfl⟩ := map_eq_ok_iff.mp done
    rw [write_behind led, write_wrapped_eq_ok_iff] at behind
    obtain ⟨written, text, inside, worded, rfl⟩ := behind
    obtain ⟨own, alone, rfl⟩ := Select.write_eq_ok_iff.mp inside
    exact ⟨own, leading, text, alone, led, worded, by simp [Compiled.append]⟩
  · rintro ⟨own, leading, text, alone, led, worded, rfl⟩
    refine ⟨leading, led, map_eq_ok_iff.mpr ⟨⟨text, own.arguments⟩, ?_, rfl⟩⟩
    rw [write_behind led, write_wrapped_eq_ok_iff]
    exact ⟨_, text, Select.write_eq_ok_iff.mpr ⟨own, alone, rfl⟩, worded, by simp⟩

end Nesting

section Within

variable {whole : Draft}

theorem CommonTables.nestings_within {tables : CommonTables}
    (inside : tables.isEmpty = false → tables.draft dialect <:+: whole) :
    ∀ nesting ∈ tables.nestings, nesting.draft dialect <:+: whole := by
  simp only [nestings, List.forall_mem_map]
  rintro ⟨name, query⟩ member
  exact CommonTables.within_tables inside _ member

theorem InsertSource.nestings_within {columns : List Expr} {source : InsertSource}
    (inside : dialect.insertSourceDraft columns source <:+: whole) :
    ∀ nesting ∈ source.nestings columns, nesting.draft dialect <:+: whole := by
  cases source with
  | query nested => simpa [nestings, Nesting.draft] using inside
  | defaultValues | rows cells | records given => simp [nestings]

theorem Subterm.nestings_within (clean : whole.Clean) {subterm : Subterm}
    (inside : subterm.Within dialect whole) :
    ∀ nesting ∈ subterm.nestings, nesting.draft dialect <:+: whole := by
  cases subterm with
  | query query =>
      have clauses := Select.within clean inside
      simp only [nestings, List.forall_mem_append, List.forall_mem_map]
      refine ⟨CommonTables.nestings_within clauses.commonTables, ?_⟩
      rintro ⟨kind, inner⟩ member
      exact clauses.compounds _ member
  | expr expr =>
      cases expr with
      | subquery nested =>
          rcases inside with empty | known | ⟨_, inside⟩
          · simp [Expr.isEmptyCondition] at empty
          · simp [Expr.boolean?] at known
          · simpa [nestings, Nesting.draft, Expr.draft] using inside
      | _ => simp [nestings]

theorem Statement.ownNestings_within {statement : Statement}
    (clean : (statement.draft dialect).Clean) :
    ∀ nesting ∈ statement.ownNestings, nesting.draft dialect <:+: statement.draft dialect := by
  cases statement with
  | select _ | truncate _ => simp [ownNestings]
  | insert insertion =>
      obtain ⟨table, _, part⟩ := Insert.within_clauses clean
      simp only [ownNestings, List.forall_mem_append]
      exact ⟨CommonTables.nestings_within fun given =>
          part .commonTables (by simp [Insert.carried, given]),
        InsertSource.nestings_within (part .values (by simp [Insert.carried]))⟩
  | update change =>
      obtain ⟨table, _, part⟩ := Update.within_clauses clean
      exact CommonTables.nestings_within fun given =>
        part .commonTables (by simp [Update.carried, given]) _ (List.mem_singleton.mpr rfl)
  | delete deletion =>
      obtain ⟨table, _, part⟩ := Delete.within_clauses clean
      exact CommonTables.nestings_within fun given =>
        part .commonTables (by simp [Delete.carried, given]) _ (List.mem_singleton.mpr rfl)

theorem Statement.nestings_within {statement : Statement}
    (clean : (statement.draft dialect).Clean) :
    ∀ nesting ∈ statement.nestings, nesting.draft dialect <:+: statement.draft dialect := by
  intro nesting member
  rcases List.mem_append.mp member with own | deeper
  · exact ownNestings_within clean nesting own
  · obtain ⟨subterm, listed, nested⟩ := List.mem_flatMap.mp deeper
    exact Subterm.nestings_within clean (allWithin clean subterm listed) nesting nested

end Within

/-- A nested query comes out as it does alone. Behind other arguments its placeholders are numbered
on from them, and its own arguments follow them in one block; around its text stand the words of its
place. A place comes to no more and no less than that, whatever statement it is part of, and every
query of a statement has its place there or is the whole of it. -/
theorem nested_queries_compile_as_alone (name : String) (dialect : Dialect) (mode : Mode) :
    (∀ query own, compile (.select query) name dialect mode = .ok own →
      query.embedded ⟨dialect, name⟩ mode 0 own = own ∧ (mode = .inline → own.arguments = [])) ∧
    (∀ nesting count rendered,
      (Nesting.draft ⟨dialect, name⟩ nesting).write (mode.writeValue ⟨dialect, name⟩) count =
          .ok rendered ↔
        nesting.Renders ⟨dialect, name⟩ mode count rendered) ∧
    ∀ statement : Statement,
      (∀ query, .query query ∈ statement.subterms →
        statement = .select query ∨ ∃ nesting ∈ statement.nestings, nesting.query = query) ∧
      ∀ whole, compile statement name dialect mode = .ok whole →
        ∀ nesting ∈ statement.nestings, ∃ earlier later before rendered after,
          statement.draft ⟨dialect, name⟩ =
            earlier ++ nesting.draft ⟨dialect, name⟩ ++ later ∧
          earlier.write (mode.writeValue ⟨dialect, name⟩) 0 = .ok before ∧
          nesting.Renders ⟨dialect, name⟩ mode before.arguments.length rendered ∧
          whole = (before.append rendered).append after := by
  refine ⟨fun query own alone => ⟨Select.embedded_zero alone, ?_⟩,
    fun nesting count rendered => Nesting.write_eq_ok_iff,
    fun statement => ⟨fun query => Statement.query_nested, ?_⟩⟩
  · rintro rfl
    exact arguments_of_compile_inline alone
  · intro whole done nesting member
    have clean := clean_of_compile_eq_ok done
    obtain ⟨earlier, later, same⟩ := Statement.nestings_within clean nesting member
    rw [compile, ← same, write_append, bind_eq_ok_iff] at done
    obtain ⟨through, written, followed⟩ := done
    obtain ⟨after, _, rfl⟩ := map_eq_ok_iff.mp followed
    rw [write_append, bind_eq_ok_iff] at written
    obtain ⟨before, led, nested⟩ := written
    obtain ⟨rendered, inside, rfl⟩ := map_eq_ok_iff.mp nested
    rw [write_behind led, Nat.zero_add, Nesting.write_eq_ok_iff] at inside
    exact ⟨earlier, later, before, rendered, after, same.symm, led, inside, rfl⟩

def crowdedTeams : Select :=
  { Select.empty with
    columns := [.column "id"]
    sources := [.column "teams"]
    conditions := [.comparison .greater (.column "size") (.literal (.integer 5))] }

def crowdedJobs : Statement :=
  .select { Select.empty with
    sources := [.column "jobs"]
    conditions :=
      [.comparison .equal (.column "state") (.literal (.text "open")),
        .comparison .isIn (.column "team") (.subquery crowdedTeams)] }

theorem nested_queries_compile_as_alone_crowdedTeams :
    compile (.select crowdedTeams) "postgres" .postgres .prepared =
      .ok ⟨"SELECT \"id\" FROM \"teams\" WHERE \"size\" > $1", [.integer 5]⟩ ∧
    compile crowdedJobs "postgres" .postgres .prepared =
      .ok ⟨"SELECT * FROM \"jobs\" WHERE \"state\" = $1 AND "
        ++ "\"team\" IN (SELECT \"id\" FROM \"teams\" WHERE \"size\" > $2)",
        [.text "open", .integer 5]⟩ ∧
    ((Nesting.subquery crowdedTeams).draft ⟨.postgres, "postgres"⟩).write
        (Mode.prepared.writeValue ⟨.postgres, "postgres"⟩) 1 =
      .ok ⟨"(SELECT \"id\" FROM \"teams\" WHERE \"size\" > $2)", [.integer 5]⟩ ∧
    ∃ before rendered : Compiled, (Nesting.subquery crowdedTeams).Renders
      ⟨.postgres, "postgres"⟩ .prepared before.arguments.length rendered := by
  have alone : compile (.select crowdedTeams) "postgres" .postgres .prepared =
      .ok ⟨"SELECT \"id\" FROM \"teams\" WHERE \"size\" > $1", [.integer 5]⟩ := rfl
  have nested : Nesting.subquery crowdedTeams ∈ crowdedJobs.nestings := by
    simp [crowdedJobs, Statement.nestings, Statement.ownNestings, Statement.subterms,
      Select.subterms, exprSubterms, Expr.subterms, Subterm.nestings]
  obtain ⟨_, rendered, within⟩ :=
    nested_queries_compile_as_alone "postgres" .postgres .prepared
  obtain ⟨_, _, before, placed, _, _, _, renders, _⟩ := (within crowdedJobs).2 _ rfl _ nested
  refine ⟨alone, rfl, (rendered _ _ _).mpr ?_, before, placed, renders⟩
  exact ⟨_, .empty, _, alone, rfl, rfl, rfl⟩

end SqlDialects
