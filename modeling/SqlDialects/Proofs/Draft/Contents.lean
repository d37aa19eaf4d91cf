import SqlDialects.Proofs.Related

/-!
What the draft of a statement holds: texts, literals that can be bound, numbers of rows, defects of
the statement, features that the dialect lacks, and what is wrong with its orders of fragments.
-/

namespace SqlDialects

open Draft Fragment

/-- The pieces that may stand in a draft under a dialect. -/
structure NamedDialect.Permits (dialect : NamedDialect) (allowed : Piece → Prop) : Prop where
  text : ∀ text, allowed (.text text)
  literal : ∀ value : Value, value.isBindable → allowed (.value .literal value)
  rowCount : ∀ number, allowed (.value .rowCount (.integer number))
  invalid : ∀ defect, allowed (.fault (.invalid defect))
  unsupported : ∀ feature, dialect.supports feature = false →
    allowed (.fault (.unsupported feature dialect.name))
  misplaced : ∀ kind, ∀ fragment ∈ dialect.order kind, clauses? kind fragment = none →
    allowed (.fault (.misconfigured (.misplaced fragment kind) dialect.name))
  unwritten : ∀ kind, ∀ clause ∈ kind.clauses,
    (∀ fragment ∈ dialect.order kind,
      clause ∉ fragment.leads kind dialect.conventions.furtherTablesInFrom) →
    (remainder dialect.name kind [clause]).Holds allowed

theorem Portion.holds_of_related {allowed : Piece → Prop} {left right : Option Portion}
    (related : Option.Rel (Related fun draft _ => draft.Holds allowed) left right)
    {portion : Portion} (found : left = some portion) : portion.draft.Holds allowed := by
  subst found
  cases related with
  | some written => exact written.draft

namespace NamedDialect.Permits

variable {dialect : NamedDialect} {allowed : Piece → Prop} (permits : dialect.Permits allowed)

include permits

theorem holds_ofText (text : String) : (ofText text).Holds allowed :=
  (holds_singleton _).mpr (permits.text text)

theorem holds_literal (value : Value) (bindable : value.isBindable) :
    Holds allowed [.value .literal value] :=
  (holds_singleton _).mpr (permits.literal value bindable)

theorem congruent : Congruent False fun draft _ => draft.Holds allowed where
  nil := holds_nil
  append := fun left right => (holds_append _ _).mpr ⟨left, right⟩
  word := fun _ => permits.holds_ofText _
  rowCount := fun number => (holds_singleton _).mpr (permits.rowCount number)
  invalid := fun defect => (holds_singleton _).mpr (permits.invalid defect)

theorem holds_assemble {kind : StatementKind}
    {portion? : Fragment → List Clause → Option Portion}
    (orderly : Orderly kind (leads kind dialect.conventions.furtherTablesInFrom) portion?)
    {pending : List Clause} (nodup : pending.Nodup) (known : pending ⊆ kind.clauses)
    (portions : ∀ fragment later, Option.Rel (Portion.Related fun draft _ => draft.Holds allowed)
      (portion? fragment later) (portion? fragment later)) :
    (assemble dialect.name kind portion? (dialect.order kind) pending).Holds allowed :=
  orderly.holds_assemble nodup
    (fun fragment _ later _ _ found => Portion.holds_of_related (portions fragment later) found)
    (permits.misplaced kind) fun clause member => permits.unwritten kind clause (known member)

theorem relatesWords : dialect.RelatesWords False dialect fun draft _ => draft.Holds allowed where
  toCongruent := permits.congruent
  unsupported := fun feature _ lacks _ =>
    (holds_singleton _).mpr (permits.unsupported feature lacks)
  supports := fun _ supported => supported
  widens := False.elim

theorem relates : dialect.Relates False dialect fun draft _ => draft.Holds allowed where
  toRelatesWords := permits.relatesWords
  booleanTest := by
    intro negated truth
    have spelled := permits.relatesWords.related_comparisonSpelling
    have text := permits.holds_ofText (dialect.booleanText truth)
    have value := permits.literal (.boolean truth) rfl
    unfold booleanTestDraft
    simp only
    split
    · simp [spelled, text]
    · split <;> simp [spelled, text, value]
  parentheses := by
    intro left right inside
    exact @Congruent.related_parenthesizedIf _ _ permits.congruent _ left right inside
  missingTarget := by
    split
    · exact (holds_singleton _).mpr (permits.invalid _)
    · exact holds_nil
  skippedConflict := by
    have capable : (demand dialect.name dialect.capabilities.onConflict (.clause .conflict)).Holds
        allowed :=
      permits.relatesWords.related_demand rfl rfl
    simp only [conflictDraft, conflictFaults, holds_append, List.isEmpty_nil, if_true, capable,
      holds_nil, List.any_nil, Bool.false_eq_true, if_false, true_and]
    split
    · exact holds_nil
    · simp [conflictActionDraft, Draft.columnList, permits.holds_ofText]
  select := by
    intro query left right same parts
    have nodup : query.carried.Nodup := (Statement.select query).nodup_carried
    unfold SelectParts.draft
    rw [same]
    refine permits.holds_assemble (left.orderly _) nodup query.carried_subset_clauses ?_
    intro fragment later
    have portion := permits.congruent.related_portion? parts fragment later
    cases found : left.portion? fragment later with
    | none => exact .none
    | some written => exact .some ⟨rfl, Portion.holds_of_related portion found⟩

end NamedDialect.Permits

theorem Statement.draft_holds {dialect : NamedDialect} {allowed : Piece → Prop}
    (permits : dialect.Permits allowed) (statement : Statement) :
    (statement.draft dialect).Holds allowed := by
  cases named : statement.hasTable with
  | false =>
      rw [draft_of_no_table dialect named]
      exact (holds_singleton _).mpr (permits.invalid _)
  | true =>
      rw [draft_eq_assemble dialect named]
      exact permits.holds_assemble (statement.orderly dialect named) statement.nodup_carried
        statement.carried_subset_clauses
        (statement.portion?_related permits.relates permits.holds_literal rfl
          fun _ _ => permits.holds_ofText _)

end SqlDialects
