import SqlDialects.Proofs.Draft.Kinds

/-!
What a fragment writes of its share, which are the clauses that it takes when no other clause is
pending. Most fragments take one clause; a few write several clauses as one text.
-/

namespace SqlDialects

open Draft

namespace Portion

variable {draft alone both written : Draft} {share : List Clause}

theorem eq_of_take {clause : Clause} (taken : take clause draft share = ⟨written, []⟩) :
    share = [] ∧ written = [] ∨ share = [clause] ∧ written = draft := by
  unfold take at taken
  split at taken
  · next member =>
    obtain ⟨rfl, left⟩ := Portion.mk.inj taken
    rcases List.erase_eq_nil_iff.mp left with rfl | rfl
    · cases member
    · exact .inr ⟨rfl, rfl⟩
  · obtain ⟨rfl, rfl⟩ := Portion.mk.inj taken
    exact .inl ⟨rfl, rfl⟩

theorem eq_of_takeWith {lead other : Clause} {together : Bool}
    (taken : takeWith lead other together alone both share = ⟨written, []⟩) :
    share = [] ∧ written = [] ∨ share = [lead] ∧ written = alone ∨
      (lead ∈ share ∧ other ∈ share) ∧ written = both := by
  unfold takeWith at taken
  split at taken
  · next leading =>
    split at taken
    · next beside =>
      obtain ⟨rfl, -⟩ := Portion.mk.inj taken
      simp only [Bool.and_eq_true, decide_eq_true_eq] at beside
      exact .inr (.inr ⟨⟨leading, List.mem_of_mem_erase beside.2⟩, rfl⟩)
    · obtain ⟨rfl, left⟩ := Portion.mk.inj taken
      rcases List.erase_eq_nil_iff.mp left with rfl | rfl
      · cases leading
      · exact .inr (.inl ⟨rfl, rfl⟩)
  · obtain ⟨rfl, rfl⟩ := Portion.mk.inj taken
    exact .inl ⟨rfl, rfl⟩

end Portion

namespace SelectParts

variable (parts : SelectParts)

def loneDraft : Clause → Draft
  | .limit => ofText " LIMIT " ++ parts.limit
  | .offset => ofText " OFFSET " ++ parts.offset
  | clause => parts.clauseDraft clause

/-- A limit beside the columns stands between the opening and them. -/
def shareDraft (fragment : Fragment) (share : List Clause) : Draft :=
  match fragment with
  | .selectWithLimit =>
      if .columns ∈ share then
        parts.opening ++ (if .limit ∈ share then enclosed " TOP (" parts.limit ")" else [])
          ++ parts.columns
      else []
  | .orderWithOffsetFetch =>
      (if .order ∈ share then parts.order else [])
        ++ (if .offset ∈ share then enclosed " OFFSET " parts.offset " ROWS" else [])
        ++ (if .limit ∈ share then enclosed " FETCH NEXT " parts.limit " ROWS ONLY" else [])
  | _ => share.flatMap parts.loneDraft

variable {parts} {fragment : Fragment} {share : List Clause} {draft : Draft}

theorem eq_shareDraft_of_columnsWithLimit
    (found : parts.columnsWithLimit share = ⟨draft, []⟩) :
    draft = parts.shareDraft .selectWithLimit share := by
  rw [columnsWithLimit_eq_takeWith] at found
  rcases Portion.eq_of_takeWith found with ⟨rfl, rfl⟩ | ⟨rfl, rfl⟩ | ⟨⟨columns, limit⟩, rfl⟩
  · simp [shareDraft]
  · simp [shareDraft]
  · simp [shareDraft, columns, limit]

theorem eq_shareDraft_of_orderWithOffsetFetch
    (found : parts.orderWithOffsetFetch share = ⟨draft, []⟩) (clean : draft.Clean) :
    draft = parts.shareDraft .orderWithOffsetFetch share := by
  unfold orderWithOffsetFetch at found
  split at found
  · next offset =>
    split at found
    · next order =>
      have limits : .limit ∈ (share.erase .order).erase .offset ↔ .limit ∈ share := by
        rw [List.mem_erase_of_ne (by decide), List.mem_erase_of_ne (by decide)]
      simp only [limits] at found
      split at found
      · next limit =>
        obtain ⟨rfl, -⟩ := Portion.mk.inj found
        simp [shareDraft, order, offset, limit]
      · next unlimited =>
        obtain ⟨rfl, -⟩ := Portion.mk.inj found
        simp [shareDraft, order, offset, unlimited]
    · obtain ⟨rfl, -⟩ := Portion.mk.inj found
      simp at clean
  · rcases Portion.eq_of_take found with ⟨rfl, rfl⟩ | ⟨rfl, rfl⟩ <;> simp [shareDraft]

theorem eq_shareDraft (found : parts.portion? fragment share = some ⟨draft, []⟩)
    (clean : draft.Clean) : draft = parts.shareDraft fragment share := by
  unfold portion? at found
  split at found <;> simp only [Option.some.injEq, reduceCtorEq] at found
  case h_3 => exact eq_shareDraft_of_columnsWithLimit found
  case h_12 => exact eq_shareDraft_of_orderWithOffsetFetch found clean
  all_goals
    rcases Portion.eq_of_take found with ⟨rfl, rfl⟩ | ⟨rfl, rfl⟩ <;>
      simp [shareDraft, loneDraft, clauseDraft]

end SelectParts

section Fragments

variable {dialect : NamedDialect} {table : Expr} {fragment : Fragment} {share : List Clause}
  {draft : Draft}

theorem Insert.eq_flatMap_clauseDraft {insertion : Insert}
    (found : insertion.portion? dialect table fragment share = some ⟨draft, []⟩) :
    draft = share.flatMap (insertion.clauseDraft dialect table) := by
  unfold portion? at found
  split at found <;> simp only [Option.some.injEq, reduceCtorEq] at found
  all_goals
    rcases Portion.eq_of_take found with ⟨rfl, rfl⟩ | ⟨rfl, rfl⟩ <;> simp [clauseDraft]

namespace Update

def loneDraft (change : Update) (dialect : NamedDialect) (table : Expr) : Clause → Draft
  | .furtherTables => change.furtherTablesDraft dialect " FROM "
  | .limit =>
      demand dialect.name dialect.capabilities.limitOnUpdate .limitOnUpdate ++ ofText " LIMIT "
        ++ Draft.rows change.limit
  | clause => change.clauseDraft dialect table clause

def shareDraft (change : Update) (dialect : NamedDialect) (table : Expr) (fragment : Fragment)
    (share : List Clause) : Draft :=
  match fragment with
  | .updateTables =>
      (if .table ∈ share then tableDraft dialect table else [])
        ++ (if .furtherTables ∈ share then change.furtherTablesDraft dialect ", " else [])
  | _ => share.flatMap (change.loneDraft dialect table)

theorem eq_shareDraft {change : Update}
    (found : change.portion? dialect table fragment share = some ⟨draft, []⟩) :
    draft = change.shareDraft dialect table fragment share := by
  unfold portion? at found
  split at found <;> simp only [Option.some.injEq, reduceCtorEq] at found
  case h_3 =>
    rw [tables_eq_takeWith] at found
    rcases Portion.eq_of_takeWith found with ⟨rfl, rfl⟩ | ⟨rfl, rfl⟩ | ⟨⟨table, further⟩, rfl⟩
    · simp [shareDraft]
    · simp [shareDraft]
    · simp [shareDraft, table, further]
  case h_5 =>
    split at found
    · rcases Portion.eq_of_take found with ⟨rfl, rfl⟩ | ⟨rfl, rfl⟩ <;> simp [shareDraft, loneDraft]
    · obtain ⟨rfl, rfl⟩ := Portion.mk.inj found
      rfl
  all_goals
    rcases Portion.eq_of_take found with ⟨rfl, rfl⟩ | ⟨rfl, rfl⟩ <;>
      simp [shareDraft, loneDraft, clauseDraft]

end Update

namespace Delete

def loneDraft (deletion : Delete) (dialect : NamedDialect) (table : Expr) : Clause → Draft
  | .limit =>
      demand dialect.name dialect.capabilities.limitOnDelete .limitOnDelete ++ ofText " LIMIT "
        ++ Draft.rows deletion.limit
  | clause => deletion.clauseDraft dialect table clause

theorem eq_flatMap_loneDraft {deletion : Delete}
    (found : deletion.portion? dialect table fragment share = some ⟨draft, []⟩) :
    draft = share.flatMap (deletion.loneDraft dialect table) := by
  unfold portion? at found
  split at found <;> simp only [Option.some.injEq, reduceCtorEq] at found
  all_goals
    rcases Portion.eq_of_take found with ⟨rfl, rfl⟩ | ⟨rfl, rfl⟩ <;>
      simp [loneDraft, clauseDraft]

end Delete

theorem Truncate.eq_flatMap_clauseDraft {emptying : Truncate}
    (found : emptying.portion? dialect fragment share = some ⟨draft, []⟩) :
    draft = share.flatMap (emptying.clauseDraft dialect) := by
  unfold portion? at found
  split at found <;> simp only [Option.some.injEq, reduceCtorEq] at found
  rcases Portion.eq_of_take found with ⟨rfl, rfl⟩ | ⟨rfl, rfl⟩ <;> simp [clauseDraft]

/-- What a fragment writes of its share of a statement, clause by clause. -/
def Statement.shareDraft (statement : Statement) (dialect : NamedDialect) (fragment : Fragment)
    (share : List Clause) : Draft :=
  match statement with
  | .select query => (query.parts dialect).shareDraft fragment share
  | .insert insertion =>
      (insertion.table.map fun table => share.flatMap (insertion.clauseDraft dialect table)).getD []
  | .update change =>
      (change.table.map fun table => change.shareDraft dialect table fragment share).getD []
  | .delete deletion =>
      (deletion.table.map fun table => share.flatMap (deletion.loneDraft dialect table)).getD []
  | .truncate emptying => share.flatMap (emptying.clauseDraft dialect)

theorem Statement.eq_shareDraft {statement : Statement}
    (found : statement.portion? dialect fragment share = some ⟨draft, []⟩)
    (clean : draft.Clean) : draft = statement.shareDraft dialect fragment share := by
  cases statement with
  | select query => exact SelectParts.eq_shareDraft found clean
  | insert insertion =>
      cases named : insertion.table with
      | none => simp [portion?, named] at found
      | some table =>
          rw [portion?_insert named] at found
          simpa [shareDraft, named] using Insert.eq_flatMap_clauseDraft found
  | update change =>
      cases named : change.table with
      | none => simp [portion?, named] at found
      | some table =>
          rw [portion?_update named] at found
          simpa [shareDraft, named] using Update.eq_shareDraft found
  | delete deletion =>
      cases named : deletion.table with
      | none => simp [portion?, named] at found
      | some table =>
          rw [portion?_delete named] at found
          simpa [shareDraft, named] using Delete.eq_flatMap_loneDraft found
  | truncate emptying => exact Truncate.eq_flatMap_clauseDraft found

end Fragments

end SqlDialects
