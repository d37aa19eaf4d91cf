import SqlDialects.Proofs.Draft.Kinds
import SqlDialects.Proofs.Draft.Writing

/-!
An insertion around one of its clauses. Each fragment of an insertion writes a single clause, so an
insertion falls into what is written ahead of a clause, the clause, and a rest that does not depend
on the clause.
-/

namespace SqlDialects

open Draft

def Fragment.insertClause? : Fragment → Option Clause
  | .commonTables => some .commonTables
  | .insertOpening => some .opening
  | .insertTable => some .table
  | .insertValues => some .values
  | .conflict => some .conflict
  | .returning => some .returning
  | _ => none

namespace Draft

def arrange (dialect : String) (clauseDraft : Clause → Draft) : List Fragment → List Clause → Draft
  | [], pending => remainder dialect .insert pending
  | fragment :: rest, pending =>
      match fragment.insertClause? with
      | none => misconfigured dialect (.misplaced fragment .insert)
      | some clause =>
          if clause ∈ pending then
            clauseDraft clause ++ arrange dialect clauseDraft rest (pending.erase clause)
          else arrange dialect clauseDraft rest pending

/-- What the order writes before it comes to a clause. -/
def ahead (dialect : String) (clauseDraft : Clause → Draft) (clause : Clause) :
    List Fragment → List Clause → Draft
  | [], _ => []
  | fragment :: rest, pending =>
      match fragment.insertClause? with
      | none => misconfigured dialect (.misplaced fragment .insert)
      | some other =>
          if other = clause then []
          else if other ∈ pending then
            clauseDraft other ++ ahead dialect clauseDraft clause rest (pending.erase other)
          else ahead dialect clauseDraft clause rest pending

variable {name : String} {clauseDraft otherDraft : Clause → Draft} {clause : Clause}

theorem arrange_related (related : Draft → Draft → Prop) (refl : ∀ draft, related draft draft)
    (append : ∀ {left right left' right' : Draft}, related left right → related left' right' →
      related (left ++ left') (right ++ right'))
    {order : List Fragment} {pending : List Clause}
    (each : ∀ clause ∈ pending, related (clauseDraft clause) (otherDraft clause)) :
    related (arrange name clauseDraft order pending) (arrange name otherDraft order pending) := by
  fun_induction arrange name clauseDraft order pending with
  | case1 => exact refl _
  | case2 fragment rest pending foreign => simpa [arrange, foreign] using refl _
  | case3 fragment rest pending clause known member ih =>
      simp only [arrange, known, member, if_true]
      exact append (each clause member)
        (ih fun other inside => each other (List.mem_of_mem_erase inside))
  | case4 fragment rest pending clause known missing ih =>
      simp only [arrange, known, missing, if_false]
      exact ih each

theorem arrange_congr {order : List Fragment} {pending : List Clause}
    (same : ∀ clause ∈ pending, clauseDraft clause = otherDraft clause) :
    arrange name clauseDraft order pending = arrange name otherDraft order pending :=
  arrange_related (· = ·) (fun _ => rfl) (fun left right => by rw [left, right]) same

theorem ahead_congr (same : ∀ other, other ≠ clause → clauseDraft other = otherDraft other)
    (order : List Fragment) (pending : List Clause) :
    ahead name clauseDraft clause order pending = ahead name otherDraft clause order pending := by
  fun_induction ahead name clauseDraft clause order pending with
  | case1 => rfl
  | case2 fragment rest pending foreign => simp [ahead, foreign]
  | case3 fragment rest pending known => simp [ahead, known]
  | case4 fragment rest pending other known different member ih =>
      rw [ih, same other different]
      simp [ahead, known, different, member]
  | case5 fragment rest pending other known different missing ih =>
      rw [ih]
      simp [ahead, known, different, missing]

theorem ahead_erase (order : List Fragment) (pending : List Clause) :
    ahead name clauseDraft clause order (pending.erase clause) =
      ahead name clauseDraft clause order pending := by
  fun_induction ahead name clauseDraft clause order pending with
  | case1 => rfl
  | case2 fragment rest pending foreign => simp [ahead, foreign]
  | case3 fragment rest pending known => simp [ahead, known]
  | case4 fragment rest pending other known different member ih =>
      rw [List.erase_comm] at ih
      simp [ahead, known, different, member, ih, List.mem_erase_of_ne different]
  | case5 fragment rest pending other known different missing ih =>
      simp [ahead, known, different, missing, ih, List.mem_erase_of_ne different]

theorem exists_fragment_of_clean {order : List Fragment} {pending : List Clause}
    (member : clause ∈ pending) (clean : (arrange name clauseDraft order pending).Clean) :
    ∃ fragment ∈ order, fragment.insertClause? = some clause := by
  fun_induction arrange name clauseDraft order pending with
  | case1 pending =>
      obtain ⟨first, rest, rfl⟩ := List.exists_cons_of_ne_nil (List.ne_nil_of_mem member)
      rw [remainder] at clean
      split at clean <;> simp at clean
  | case2 fragment rest pending foreign => simp at clean
  | case3 fragment rest pending other known inside ih =>
      by_cases here : other = clause
      · subst here
        exact ⟨fragment, List.mem_cons_self, known⟩
      · obtain ⟨later, listed, writes⟩ :=
          ih ((List.mem_erase_of_ne (Ne.symm here)).mpr member) ((clean_append _ _).mp clean).2
        exact ⟨later, List.mem_cons_of_mem _ listed, writes⟩
  | case4 fragment rest pending other known missing ih =>
      obtain ⟨later, listed, writes⟩ := ih member clean
      exact ⟨later, List.mem_cons_of_mem _ listed, writes⟩

theorem clean_ahead {order : List Fragment} {pending : List Clause}
    (clean : (arrange name clauseDraft order pending).Clean) (clause : Clause) :
    (ahead name clauseDraft clause order pending).Clean := by
  fun_induction arrange name clauseDraft order pending with
  | case1 => exact clean_nil
  | case2 fragment rest pending foreign => simp at clean
  | case3 fragment rest pending other known member ih =>
      obtain ⟨here, later⟩ := (clean_append _ _).mp clean
      simp only [ahead, known, member, if_true]
      split
      · exact clean_nil
      · exact (clean_append _ _).mpr ⟨here, ih later⟩
  | case4 fragment rest pending other known missing ih =>
      simp only [ahead, known, missing, if_false]
      split
      · exact clean_nil
      · exact ih clean

/-- Around a clause, the same stands whether or not the clause is pending. -/
theorem exists_later {fragment : Fragment} (writes : fragment.insertClause? = some clause)
    {order : List Fragment} (member : fragment ∈ order) {pending : List Clause}
    (nodup : pending.Nodup) (clean : (ahead name clauseDraft clause order pending).Clean) :
    ∃ later,
      arrange name clauseDraft order (pending.erase clause) =
        ahead name clauseDraft clause order pending ++ later ∧
      (clause ∈ pending → arrange name clauseDraft order pending =
        ahead name clauseDraft clause order pending ++ clauseDraft clause ++ later) := by
  induction order generalizing pending with
  | nil => simp at member
  | cons first rest ih =>
      cases known : first.insertClause? with
      | none => simp [ahead, known] at clean
      | some other =>
          by_cases here : other = clause
          · subst here
            refine ⟨arrange name clauseDraft rest (pending.erase other), ?_, fun inside => ?_⟩
            · simp [arrange, ahead, known, nodup.not_mem_erase]
            · simp [arrange, ahead, known, inside]
          · have further : fragment ∈ rest := by
              rcases List.mem_cons.mp member with rfl | later
              · rw [writes, Option.some.injEq] at known
                exact absurd known.symm here
              · exact later
            have still : other ∈ pending.erase clause ↔ other ∈ pending :=
              List.mem_erase_of_ne here
            by_cases inside : other ∈ pending
            · simp only [ahead, known, here, if_false, inside, if_true, clean_append] at clean
              obtain ⟨later, without, whole⟩ := ih further (nodup.erase other) clean.2
              rw [List.erase_comm] at without
              refine ⟨later, ?_, fun pendingClause => ?_⟩
              · simp [arrange, ahead, known, here, inside, still, without]
              · have kept : clause ∈ pending.erase other :=
                  (List.mem_erase_of_ne (Ne.symm here)).mpr pendingClause
                simp [arrange, ahead, known, here, inside, whole kept]
            · simp only [ahead, known, here, if_false, inside] at clean
              obtain ⟨later, without, whole⟩ := ih further nodup clean
              refine ⟨later, ?_, fun pendingClause => ?_⟩
              · simp [arrange, ahead, known, here, inside, still, without]
              · simp [arrange, ahead, known, here, inside, whole pendingClause]

end Draft

namespace Insert

theorem assemble_eq_arrange (insertion : Insert) (dialect : NamedDialect) (table : Expr)
    (order : List Fragment) (pending : List Clause) :
    assemble dialect.name .insert (insertion.portion? dialect table) order pending =
      arrange dialect.name (insertion.clauseDraft dialect table) order pending := by
  have portions : ∀ fragment pending, insertion.portion? dialect table fragment pending =
      fragment.insertClause?.map fun clause =>
        .take clause (insertion.clauseDraft dialect table clause) pending := by
    intro fragment pending
    cases fragment <;> rfl
  induction order generalizing pending with
  | nil => rfl
  | cons fragment rest ih =>
      rw [assemble, arrange, portions]
      cases fragment.insertClause? with
      | none => rfl
      | some clause =>
          by_cases member : clause ∈ pending
          · simp [Portion.take, member, ih]
          · simp [Portion.take, member, Portion.nothing, ih]

theorem draft_eq_arrange {insertion : Insert} {table : Expr}
    (named : insertion.table = some table) (dialect : NamedDialect) :
    insertion.draft dialect =
      arrange dialect.name (insertion.clauseDraft dialect table) dialect.orders.insert
        insertion.carried := by
  simp only [draft, named, assemble_eq_arrange]

theorem draft_congr_source (insertion : Insert) {columns others : List Expr}
    {source other : InsertSource} {dialect : NamedDialect}
    (drafted : dialect.insertSourceDraft columns source = dialect.insertSourceDraft others other) :
    ({ insertion with columns := columns, source := source } : Insert).draft dialect =
      ({ insertion with columns := others, source := other } : Insert).draft dialect := by
  cases target : insertion.table with
  | none => simp only [draft]
  | some table =>
      rw [draft_eq_arrange rfl, draft_eq_arrange rfl]
      refine arrange_congr fun clause _ => ?_
      cases clause <;> first | rfl | exact drafted

def draftAhead (insertion : Insert) (dialect : NamedDialect) (clause : Clause) : Draft :=
  match insertion.table with
  | none => invalid (.missingTable .insert)
  | some table =>
      ahead dialect.name (insertion.clauseDraft dialect table) clause dialect.orders.insert
        insertion.carried

theorem exists_table {insertion : Insert} {dialect : NamedDialect}
    (clean : (insertion.draft dialect).Clean) : ∃ table, insertion.table = some table := by
  cases named : insertion.table with
  | none => simp [draft, named] at clean
  | some table => exact ⟨table, rfl⟩

theorem clean_draftAhead {insertion : Insert} {dialect : NamedDialect}
    (clean : (insertion.draft dialect).Clean) (clause : Clause) :
    (insertion.draftAhead dialect clause).Clean := by
  obtain ⟨table, named⟩ := exists_table clean
  rw [draft_eq_arrange named] at clean
  simp only [draftAhead, named]
  exact clean_ahead clean clause

theorem exists_draft_parts {insertion : Insert} {dialect : NamedDialect} {clause : Clause}
    {fragment : Fragment} (writes : fragment.insertClause? = some clause)
    (listed : fragment ∈ dialect.orders.insert) (carried : clause ∈ insertion.carried)
    (clean : (insertion.draftAhead dialect clause).Clean) :
    ∃ table later, insertion.table = some table ∧ insertion.draft dialect =
      insertion.draftAhead dialect clause ++ insertion.clauseDraft dialect table clause
        ++ later := by
  cases named : insertion.table with
  | none => simp [draftAhead, named] at clean
  | some table =>
      simp only [draftAhead, named] at clean ⊢
      obtain ⟨later, -, whole⟩ :=
        exists_later writes listed (Statement.insert insertion).nodup_carried clean
      exact ⟨table, later, rfl, (draft_eq_arrange named dialect).trans (whole carried)⟩

theorem exists_clause_parts {insertion : Insert} {dialect : NamedDialect} (clause : Clause)
    (carried : clause ∈ insertion.carried) (clean : (insertion.draft dialect).Clean) :
    ∃ table later, insertion.table = some table ∧ insertion.draft dialect =
      insertion.draftAhead dialect clause ++ insertion.clauseDraft dialect table clause
        ++ later := by
  obtain ⟨table, named⟩ := exists_table clean
  have arranged := clean
  rw [draft_eq_arrange named] at arranged
  obtain ⟨fragment, listed, writes⟩ := exists_fragment_of_clean carried arranged
  exact exists_draft_parts writes listed carried (clean_draftAhead clean clause)

end Insert

end SqlDialects
