import SqlDialects.Proofs.Draft.Clauses
import SqlDialects.Proofs.Draft.Parts

/-!
Parts within a whole. What is put together out of drafts stands within a clean draft only with the
drafts that it is put together of, each of them whole and in one piece.
-/

namespace SqlDialects

open Draft

namespace Draft

variable {whole first second draft : Draft}

theorem within_append (inside : first ++ second <:+: whole) :
    first <:+: whole ∧ second <:+: whole :=
  ⟨List.infix_append_left.trans inside, List.infix_append_right.trans inside⟩

theorem clean_of_within (clean : whole.Clean) (inside : draft <:+: whole) : draft.Clean := by
  obtain ⟨before, after, rfl⟩ := inside
  simp only [clean_append] at clean
  exact clean.1.2

theorem within_enclosed {opening closing : String}
    (inside : enclosed opening draft closing <:+: whole) : draft <:+: whole :=
  (within_append (within_append inside).1).2

theorem within_parenthesizedIf {nested : Bool}
    (inside : parenthesizedIf nested draft <:+: whole) : draft <:+: whole := by
  cases nested with
  | false => exact inside
  | true => exact within_enclosed inside

theorem within_separated {separator : String} {drafts : List Draft}
    (inside : separated separator drafts <:+: whole) : ∀ draft ∈ drafts, draft <:+: whole := by
  induction drafts with
  | nil => simp
  | cons first rest ih =>
      cases rest with
      | nil => simpa [separated] using inside
      | cons second others =>
          rw [separated, List.intercalate_cons_cons] at inside
          obtain ⟨led, later⟩ := within_append inside
          have others := ih later
          have first := (within_append led).1
          exact List.forall_mem_cons.mpr ⟨first, others⟩

theorem within_flatMap {α : Type} {items : List α} {draftOf : α → Draft}
    (inside : items.flatMap draftOf <:+: whole) : ∀ item ∈ items, draftOf item <:+: whole := by
  intro item member
  rw [List.flatMap_def] at inside
  exact (List.infix_of_mem_flatten (List.mem_map_of_mem member)).trans inside

theorem within_range {test : RangeTest} {expr low high : Draft}
    (inside : range test expr low high <:+: whole) :
    expr <:+: whole ∧ low <:+: whole ∧ high <:+: whole := by
  obtain ⟨earlier, high⟩ := within_append inside
  have tested := (within_append earlier).1
  obtain ⟨started, low⟩ := within_append tested
  exact ⟨(within_append started).1, low, high⟩

theorem within_raw (clean : whole.Clean) {sql : String} {texts : List String}
    {arguments : List Draft} (inside : raw sql texts arguments <:+: whole) :
    ∀ argument ∈ arguments, argument <:+: whole := by
  have rawClean := clean_of_within clean inside
  fun_induction raw sql texts arguments with
  | case1 => simp
  | case2 => simp at rawClean
  | case3 => simp
  | case4 => simp at rawClean
  | case5 => simp
  | case6 piece next rest argument arguments ih =>
      obtain ⟨started, later⟩ := within_append inside
      have here := (within_append started).2
      have others := ih later (clean_of_within clean later)
      exact List.forall_mem_cons.mpr ⟨here, others⟩

theorem within_call (clean : whole.Clean) {name : String} {arguments : List Draft}
    {distinct : Bool} (inside : call name arguments distinct <:+: whole) :
    ∀ argument ∈ arguments, argument <:+: whole := by
  have named := ((clean_call name arguments distinct).mp (clean_of_within clean inside)).1
  simp only [call, named, Bool.false_eq_true, if_false] at inside
  exact within_separated (within_append (within_enclosed inside)).2

theorem within_columns {drafts : List Draft} (inside : columns drafts <:+: whole) :
    ∀ draft ∈ drafts, draft <:+: whole := by
  cases drafts with
  | nil => simp
  | cons first rest => exact within_separated (within_append inside).2

theorem within_columnList {drafts : List Draft} (inside : columnList drafts <:+: whole) :
    ∀ draft ∈ drafts, draft <:+: whole := by
  cases drafts with
  | nil => simp
  | cons first rest => exact within_separated (within_enclosed inside)

theorem within_tuples {rows : List (List Draft)} (inside : tuples rows <:+: whole) :
    ∀ row ∈ rows, ∀ cell ∈ row, cell <:+: whole := by
  intro row member
  have listed := within_separated (within_append inside).2
  exact within_separated (within_enclosed (listed _ (List.mem_map_of_mem member)))

theorem within_conditions (clean : whole.Clean) {connective : Connective} {nested : Bool}
    {items : List Condition} (inside : conditions connective nested items <:+: whole) :
    ∀ item ∈ items, item.isEmpty ∨ ∃ inner, item.draft inner <:+: whole := by
  have kept : ∀ item ∈ items.filter fun item => !item.isEmpty,
      ∃ inner, item.draft inner <:+: whole := by
    unfold conditions at inside
    split at inside
    · exact absurd (clean_of_within clean inside) (not_clean_invalid _)
    · next single alone =>
      intro item member
      rw [alone, List.mem_singleton] at member
      exact ⟨nested, member ▸ inside⟩
    · have each := within_separated (within_parenthesizedIf inside)
      exact fun item member => ⟨item.isList, each _ (List.mem_map_of_mem member)⟩
  intro item member
  cases empty : item.isEmpty with
  | true => exact .inl rfl
  | false => exact .inr (kept item (List.mem_filter.mpr ⟨member, by simp [empty]⟩))

end Draft

namespace NamedDialect

variable {dialect : NamedDialect} {whole : Draft}

theorem within_comparisonDraft {comparison : Comparison} {left right : Draft}
    {truth : Option Bool}
    (inside : dialect.comparisonDraft comparison left truth right <:+: whole) :
    left <:+: whole ∧ (truth = none → right <:+: whole) := by
  unfold comparisonDraft at inside
  split at inside
  · exact ⟨(within_append inside).1, by simp⟩
  · exact ⟨(within_append inside).1, by simp⟩
  · obtain ⟨led, right⟩ := within_append inside
    exact ⟨(within_append led).1, fun _ => right⟩

theorem within_bitwiseDraft (clean : whole.Clean) {operator : BitOperator} {left? : Option Draft}
    {right : Draft} (inside : dialect.bitwiseDraft operator left? right <:+: whole) :
    right <:+: whole ∧ (operator ≠ .invert → ∀ left ∈ left?, left <:+: whole) := by
  unfold bitwiseDraft at inside
  split at inside
  · exact absurd (clean_of_within clean inside) (not_clean_unsupported _ _)
  · have body := within_enclosed inside
    split at body
    · next inverts => exact ⟨(within_append body).2, fun other => absurd inverts other⟩
    · split at body
      · obtain ⟨led, right⟩ := within_append body
        have left := (within_append led).1
        exact ⟨right, fun _ other same => by cases same; exact left⟩
      · exact absurd (clean_of_within clean body) (not_clean_invalid _)

theorem within_tupleDraft {items : List Draft} (inside : dialect.tupleDraft items <:+: whole) :
    ∀ item ∈ items, item <:+: whole := by
  cases items with
  | nil => simp
  | cons first rest => exact within_separated (within_enclosed inside)

theorem within_windowDraft {parent : Option String} {partition order : List Draft}
    (inside : dialect.windowDraft parent partition order <:+: whole) :
    (∀ key ∈ partition, key <:+: whole) ∧ ∀ key ∈ order, key <:+: whole := by
  have each := within_separated inside
  constructor
  · cases partition with
    | nil => simp
    | cons first rest =>
        have led : ofText "PARTITION BY " ++ commaSeparated (first :: rest) <:+: whole :=
          each _ (by simp)
        exact within_separated (within_append led).2
  · cases order with
    | nil => simp
    | cons first rest =>
        have led : ofText "ORDER BY " ++ commaSeparated (first :: rest) <:+: whole :=
          each _ (by simp)
        exact within_separated (within_append led).2

theorem within_namedWindowDraft (clean : whole.Clean) {name : Option String} {body : Draft}
    (inside : dialect.namedWindowDraft name body <:+: whole) : body <:+: whole := by
  cases name with
  | none => exact absurd (clean_of_within clean inside) (not_clean_invalid _)
  | some name => exact within_enclosed (within_append inside).2

end NamedDialect

/-- What each fragment takes away of the pending clauses it writes, unless it ends in a fault. -/
def WritesClauses (portion? : Fragment → List Clause → Option Portion)
    (cores : Clause → List Draft) : Prop :=
  ∀ {fragment pending portion}, portion? fragment pending = some portion → portion.draft.Clean →
    ∀ clause ∈ pending, clause ∉ portion.pending → ∀ core ∈ cores clause, core <:+: portion.draft

namespace Draft

theorem within_assemble {name : String} {kind : StatementKind}
    {portion? : Fragment → List Clause → Option Portion} {cores : Clause → List Draft}
    (writes : WritesClauses portion? cores) {order : List Fragment} {pending : List Clause}
    (clean : (assemble name kind portion? order pending).Clean) :
    ∀ clause ∈ pending, ∀ core ∈ cores clause,
      core <:+: assemble name kind portion? order pending := by
  induction order generalizing pending with
  | nil =>
      cases pending with
      | nil => simp
      | cons clause rest =>
          simp only [assemble, remainder] at clean
          split at clean <;> simp at clean
  | cons fragment rest ih =>
      simp only [assemble] at clean ⊢
      cases found : portion? fragment pending with
      | none => simp [found] at clean
      | some portion =>
          simp only [found, clean_append] at clean
          intro clause member core listed
          by_cases later : clause ∈ portion.pending
          · exact List.infix_append_of_infix_right (ih clean.2 clause later core listed)
          · exact List.infix_append_of_infix_left
              (writes found clean.1 clause member later core listed)

end Draft

theorem eq_or_mem_erase {clause : Clause} {pending : List Clause} (member : clause ∈ pending)
    (taken : Clause) : clause = taken ∨ clause ∈ pending.erase taken := by
  by_cases same : clause = taken
  · exact .inl same
  · exact .inr ((List.mem_erase_of_ne same).mpr member)

namespace Portion

variable {cores : Clause → List Draft} {pending : List Clause}

theorem writes_take {taken : Clause} {draft : Draft}
    (each : ∀ core ∈ cores taken, core <:+: draft) :
    ∀ clause ∈ pending, clause ∉ (take taken draft pending).pending →
      ∀ core ∈ cores clause, core <:+: (take taken draft pending).draft := by
  intro clause member gone
  unfold take at gone ⊢
  split at gone
  · next present =>
    simp only [present, if_true]
    rcases eq_or_mem_erase member taken with rfl | left
    · exact each
    · exact absurd left gone
  · exact absurd member gone

theorem writes_takeWith {lead other : Clause} {together : Bool} {alone both : Draft}
    (leadAlone : ∀ core ∈ cores lead, core <:+: alone)
    (leadBoth : ∀ core ∈ cores lead, core <:+: both)
    (otherBoth : ∀ core ∈ cores other, core <:+: both) :
    ∀ clause ∈ pending, clause ∉ (takeWith lead other together alone both pending).pending →
      ∀ core ∈ cores clause,
        core <:+: (takeWith lead other together alone both pending).draft := by
  intro clause member gone
  unfold takeWith at gone ⊢
  split at gone
  · next present =>
    simp only [present, if_true]
    split at gone
    · next beside =>
      simp only [beside, if_true]
      rcases eq_or_mem_erase member lead with rfl | left
      · exact leadBoth
      · rcases eq_or_mem_erase left other with rfl | left
        · exact otherBoth
        · exact absurd left gone
    · next apart =>
      simp only [apart]
      rcases eq_or_mem_erase member lead with rfl | left
      · exact leadAlone
      · exact absurd left gone
  · exact absurd member gone

end Portion

namespace SelectParts

variable (parts : SelectParts)

/-- What is written of a clause in one piece: a limit may stand in the middle of the columns. -/
def cores : Clause → List Draft
  | .columns => [parts.opening, parts.columns]
  | clause => [parts.clauseDraft clause]

theorem writes_orderWithOffsetFetch {pending : List Clause}
    (clean : (parts.orderWithOffsetFetch pending).draft.Clean) :
    ∀ clause ∈ pending, clause ∉ (parts.orderWithOffsetFetch pending).pending →
      ∀ core ∈ parts.cores clause, core <:+: (parts.orderWithOffsetFetch pending).draft := by
  unfold orderWithOffsetFetch at clean ⊢
  split
  · next offsetPending =>
    split
    · next orderPending =>
      obtain ⟨ordered, shifted⟩ := within_append
        (List.infix_refl (parts.order ++ enclosed " OFFSET " parts.offset " ROWS"))
      have offsetInside := within_enclosed shifted
      simp only
      split
      · next limitPending =>
        obtain ⟨earlier, fetched⟩ := within_append (List.infix_refl
          (parts.order ++ enclosed " OFFSET " parts.offset " ROWS"
            ++ enclosed " FETCH NEXT " parts.limit " ROWS ONLY"))
        intro clause member gone
        rcases eq_or_mem_erase member .order with rfl | left
        · simpa [cores, clauseDraft] using ordered.trans earlier
        · rcases eq_or_mem_erase left .offset with rfl | left
          · simpa [cores, clauseDraft] using offsetInside.trans earlier
          · rcases eq_or_mem_erase left .limit with rfl | left
            · simpa [cores, clauseDraft] using within_enclosed fetched
            · exact absurd left gone
      · intro clause member gone
        rcases eq_or_mem_erase member .order with rfl | left
        · simpa [cores, clauseDraft] using ordered
        · rcases eq_or_mem_erase left .offset with rfl | left
          · simpa [cores, clauseDraft] using offsetInside
          · exact absurd left gone
    · next orderMissing =>
      rw [if_pos offsetPending, if_neg orderMissing] at clean
      simp at clean
  · exact Portion.writes_take (by simp [cores, clauseDraft])

theorem writesClauses : WritesClauses parts.portion? parts.cores := by
  intro fragment pending portion found clean
  unfold portion? at found
  split at found <;> cases found
  case h_3 =>
    rw [columnsWithLimit_eq_takeWith]
    obtain ⟨led, columns⟩ := within_append
      (List.infix_refl (parts.opening ++ enclosed " TOP (" parts.limit ")" ++ parts.columns))
    obtain ⟨opening, limited⟩ := within_append led
    apply Portion.writes_takeWith
    · simp [cores, List.infix_append_left, List.infix_append_right]
    · simpa [cores] using And.intro opening columns
    · simpa [cores, clauseDraft] using within_enclosed limited
  case h_12 => exact parts.writes_orderWithOffsetFetch clean
  all_goals
    apply Portion.writes_take
    simp [cores, clauseDraft, List.infix_append_left, List.infix_append_right]

end SelectParts

namespace Insert

theorem writesClauses (insert : Insert) (dialect : NamedDialect) (table : Expr) :
    WritesClauses (insert.portion? dialect table)
      fun clause => [insert.clauseDraft dialect table clause] := by
  intro fragment pending portion found _
  unfold portion? at found
  split at found <;> cases found <;> apply Portion.writes_take <;> simp [clauseDraft]

end Insert

namespace Update

/-- What is written of a clause in one piece. -/
def cores (update : Update) (dialect : NamedDialect) (table : Expr) : Clause → List Draft
  | .furtherTables => [commaSeparated (expressionDrafts dialect false update.furtherTables)]
  | .limit => []
  | clause => [update.clauseDraft dialect table clause]

theorem writesClauses (update : Update) (dialect : NamedDialect) (table : Expr) :
    WritesClauses (update.portion? dialect table) (update.cores dialect table) := by
  intro fragment pending portion found _
  unfold portion? at found
  split at found <;> cases found
  case h_3 =>
    rw [tables_eq_takeWith]
    apply Portion.writes_takeWith
    · simp [cores, clauseDraft]
    · simp [cores, clauseDraft, List.infix_append_left]
    · have further := (within_append (List.infix_refl (update.furtherTablesDraft dialect ", "))).2
      simpa [cores] using List.infix_append_of_infix_right further
  case h_5 =>
    split
    · apply Portion.writes_take
      have further :=
        (within_append (List.infix_refl (update.furtherTablesDraft dialect " FROM "))).2
      simpa [cores] using further
    · exact fun clause member gone => absurd member gone
  all_goals
    apply Portion.writes_take
    simp [cores, clauseDraft]

end Update

namespace Delete

def cores (delete : Delete) (dialect : NamedDialect) (table : Expr) : Clause → List Draft
  | .limit => []
  | clause => [delete.clauseDraft dialect table clause]

theorem writesClauses (delete : Delete) (dialect : NamedDialect) (table : Expr) :
    WritesClauses (delete.portion? dialect table) (delete.cores dialect table) := by
  intro fragment pending portion found _
  unfold portion? at found
  split at found <;> cases found <;> apply Portion.writes_take <;> simp [cores, clauseDraft]

end Delete

namespace Truncate

theorem writesClauses (truncate : Truncate) (dialect : NamedDialect) :
    WritesClauses (truncate.portion? dialect)
      fun clause => [truncate.clauseDraft dialect clause] := by
  intro fragment pending portion found _
  unfold portion? at found
  split at found <;> cases found
  apply Portion.writes_take
  simp [clauseDraft]

end Truncate

end SqlDialects
