import SqlDialects.Dialect.Bundled
import SqlDialects.Proofs.Agreement
import SqlDialects.Proofs.Draft.Parts

/-!
What can go wrong under the bundled dialects. Their orders name fragments of their kind only and
leave out nothing that a statement needs, so no compilation blames the dialect. The standard dialect
also has every feature and demands nothing of its own: a statement that it refuses has a defect, and
every other dialect refuses it too.
-/

namespace SqlDialects

open Draft Fragment

namespace Dialect

/-- A dialect that is never to blame for a failure: its fragments stand in the orders of their kind,
some fragment leads with each clause that a statement needs, and its time pattern has a meaning. -/
structure WellFormed (dialect : Dialect) : Prop where
  fragments : ∀ kind, ∀ fragment ∈ dialect.order kind, clauses? kind fragment ≠ none
  required : ∀ kind, ∀ clause ∈ kind.clauses, clause.isRequired →
    ∃ fragment ∈ dialect.order kind,
      clause ∈ fragment.leads kind dialect.conventions.furtherTablesInFrom
  timePattern : TimePattern.items? dialect.lexicon.timePattern ≠ none

/-- A dialect that writes every statement without a defect: it has every feature, a fragment for
every clause and an escape for its quote, and demands neither a conflict target nor an order beside
an offset. -/
structure Complete (dialect : Dialect) : Prop extends WellFormed dialect where
  supports : ∀ feature, dialect.supports feature
  clauses : ∀ kind, ∀ clause ∈ kind.clauses,
    ∃ fragment ∈ dialect.order kind,
      clause ∈ fragment.leads kind dialect.conventions.furtherTablesInFrom
  textQuote : dialect.lexicon.escapes.find? dialect.lexicon.textQuote ≠ none
  conflictUpdateNeedsTarget : dialect.conventions.conflictUpdateNeedsTarget = false
  orderWithOffsetFetch : ∀ kind, .orderWithOffsetFetch ∉ dialect.order kind

end Dialect

theorem BundledDialect.wellFormed (bundled : BundledDialect) : bundled.dialect.WellFormed where
  fragments := by
    intro kind
    cases bundled <;> cases kind <;> decide
  required := by
    intro kind
    cases bundled <;> cases kind <;> decide
  timePattern := by cases bundled <;> decide

theorem Dialect.standard_supports (feature : Feature) : standard.supports feature := by
  cases feature with
  | comparison operator => cases operator <;> rfl
  | bitwise operator => cases operator <;> rfl
  | join kind => cases kind <;> rfl
  | compound kind => cases kind <;> rfl
  | lock strength => cases strength <;> rfl
  | clause clause => cases clause <;> rfl
  | _ => rfl

theorem Dialect.standard_complete : standard.Complete where
  toWellFormed := BundledDialect.standard.wellFormed
  supports := standard_supports
  clauses := by
    intro kind
    cases kind <;> decide
  textQuote := by decide
  conflictUpdateNeedsTarget := rfl
  orderWithOffsetFetch := by
    intro kind
    cases kind <;> decide

section Failures

variable {dialect : Dialect} {statement : Statement} {name : String} {mode : Mode}

theorem origin_of_compile_eq_error {failure : Failure}
    (failed : compile statement name dialect mode = .error failure) :
    (∃ piece ∈ statement.draft ⟨dialect, name⟩, piece.fault? = some failure) ∨
      mode = .inline ∧
        ((∃ character,
            NamedDialect.escapeCharacter ⟨dialect, name⟩ character = .error failure) ∨
          TimePattern.items? dialect.lexicon.timePattern = none) := by
  rcases head?_faults_or_of_write_error failed with first | ⟨value, member, earlier, failing⟩
  · exact .inl (List.mem_filterMap.mp (List.mem_of_mem_head? first))
  · -- Binding a value never fails, so this is a value that is written into the text.
    cases mode with
    | prepared => simp [Mode.writeValue, Dialect.bindValue] at failing
    | inline =>
        have bindable := Statement.isBindable_of_mem_values member
        have literal := map_eq_error_iff.mp failing
        rcases NamedDialect.character_or_timePattern_of_literalText_error bindable literal with
          unescapable | ⟨meaningless, _⟩
        · exact .inr ⟨rfl, .inl unescapable⟩
        · exact .inr ⟨rfl, .inr meaningless⟩

namespace Dialect.WellFormed

variable (wellFormed : dialect.WellFormed)

include wellFormed

theorem permits_blameless (name : String) :
    NamedDialect.Permits ⟨dialect, name⟩ fun piece =>
      ∀ cause other, piece.fault? ≠ some (.misconfigured cause other) where
  text := by simp [Piece.fault?]
  literal := by simp [Piece.fault?]
  rowCount := by simp [Piece.fault?]
  invalid := by simp [Piece.fault?]
  unsupported := by simp [Piece.fault?]
  misplaced := by
    intro kind fragment listed foreign
    exact absurd foreign (wellFormed.fragments kind fragment listed)
  unwritten := by
    intro kind clause member unled
    have dispensable : clause.isRequired = false := by
      rw [Bool.eq_false_iff]
      intro needed
      obtain ⟨fragment, listed, leads⟩ := wellFormed.required kind clause member needed
      exact unled fragment listed leads
    simp [remainder, dispensable, Draft.unsupported, Piece.fault?]

theorem compile_ne_misconfigured (cause : Misconfiguration) (other : String) :
    compile statement name dialect mode ≠ .error (.misconfigured cause other) := by
  intro failed
  rcases origin_of_compile_eq_error failed with
    ⟨piece, member, found⟩ | ⟨_, ⟨character, unescapable⟩ | meaningless⟩
  · exact statement.draft_holds (wellFormed.permits_blameless name) piece member cause other found
  · cases (NamedDialect.escapeCharacter_eq_error unescapable).1
  · exact wellFormed.timePattern meaningless

end Dialect.WellFormed

namespace Dialect.Complete

variable (complete : dialect.Complete)

include complete

theorem permits_defects (name : String) :
    NamedDialect.Permits ⟨dialect, name⟩ fun piece =>
      ∀ failure ∈ piece.fault?, ∃ defect, failure = .invalid defect where
  text := by simp [Piece.fault?]
  literal := by simp [Piece.fault?]
  rowCount := by simp [Piece.fault?]
  invalid := by simp [Piece.fault?]
  unsupported := by
    intro feature lacks
    rw [complete.supports feature] at lacks
    cases lacks
  misplaced := by
    intro kind fragment listed foreign
    exact absurd foreign (complete.fragments kind fragment listed)
  unwritten := by
    intro kind clause member unled
    obtain ⟨fragment, listed, leads⟩ := complete.clauses kind clause member
    exact absurd leads (unled fragment listed)

theorem unescapable_eq_null {character : Char} {failure : Failure}
    (failed : NamedDialect.escapeCharacter ⟨dialect, name⟩ character = .error failure) :
    failure = .unescapable '\x00' name := by
  obtain ⟨rfl, missing, rfl | rfl⟩ := NamedDialect.escapeCharacter_eq_error failed
  · exact absurd missing complete.textQuote
  · rfl

theorem compile_cases (statement : Statement) (name : String) (mode : Mode) :
    (∃ compiled, compile statement name dialect mode = .ok compiled) ∨
    (∃ defect, compile statement name dialect mode = .error (.invalid defect)) ∨
    (mode = .inline ∧
      compile statement name dialect mode = .error (.unescapable '\x00' name)) := by
  cases done : compile statement name dialect mode with
  | ok compiled => exact .inl ⟨compiled, rfl⟩
  | error failure =>
      rcases origin_of_compile_eq_error done with
        ⟨piece, member, found⟩ | ⟨inline, ⟨character, unescapable⟩ | meaningless⟩
      · have blame := statement.draft_holds (complete.permits_defects name)
        obtain ⟨defect, rfl⟩ := blame piece member failure found
        exact .inr (.inl ⟨defect, rfl⟩)
      · rw [complete.unescapable_eq_null unescapable]
        exact .inr (.inr ⟨inline, rfl⟩)
      · exact absurd meaningless complete.timePattern

end Dialect.Complete

end Failures

/-- The second draft has no fault if the first one has none. -/
def Draft.Spares (narrow wide : Draft) : Prop :=
  narrow.Clean → wide.Clean

theorem Draft.congruent_spares : Congruent False Spares where
  nil := id
  append := by
    intro left right left' right' spares spares' clean
    obtain ⟨leftClean, leftClean'⟩ := (clean_append _ _).mp clean
    exact (clean_append _ _).mpr ⟨spares leftClean, spares' leftClean'⟩
  word := fun _ _ => clean_ofText _
  rowCount := fun _ => id
  invalid := fun _ => id

namespace Dialect.Complete

variable {wide : NamedDialect} (complete : wide.Complete)

include complete

theorem clean_assemble {name : String} {kind : StatementKind}
    {portion? : Fragment → List Clause → Option Portion} {clauseDraft : Clause → Draft}
    (orderly : Orderly kind (leads kind wide.conventions.furtherTablesInFrom) portion?)
    (faults : ∀ {fragment}, fragment ≠ .orderWithOffsetFetch →
      FaultsOfClauses portion? clauseDraft fragment)
    {pending : List Clause} (nodup : pending.Nodup) (known : pending ⊆ kind.clauses)
    (clean : ∀ clause ∈ pending, (clauseDraft clause).Clean) :
    (assemble name kind portion? (wide.order kind) pending).Clean := by
  rw [clean_iff_holds]
  refine orderly.holds_assemble nodup ?_ ?_ ?_
  · intro fragment listed later inside portion found
    have lenient : fragment ≠ .orderWithOffsetFetch := by
      rintro rfl
      exact complete.orderWithOffsetFetch kind listed
    rw [← clean_iff_holds]
    exact faults lenient (fun clause member => clean clause (inside member)) found
  · intro fragment listed foreign
    exact absurd foreign (complete.fragments kind fragment listed)
  · intro clause member unled
    obtain ⟨fragment, listed, leads⟩ := complete.clauses kind clause (known member)
    exact absurd leads (unled fragment listed)

theorem clean_skippedConflict : (wide.conflictDraft ⟨[], .nothing⟩).Clean := by
  have capable : wide.capabilities.onConflict = true := complete.supports (.clause .conflict)
  have noFault : (wide.conflictFaults ⟨[], .nothing⟩).Clean := by
    simp [NamedDialect.conflictFaults, capable]
  rw [NamedDialect.conflictDraft, clean_append]
  refine ⟨noFault, ?_⟩
  split <;> simp [NamedDialect.conflictActionDraft, Draft.columnList]

theorem relates (narrow : NamedDialect) : narrow.Relates False wide Spares where
  toCongruent := congruent_spares
  unsupported := fun _ _ _ _ clean => absurd clean (not_clean_unsupported _ _)
  supports := fun feature _ => complete.supports feature
  widens := False.elim
  booleanTest := by
    intro negated truth _
    simp only [NamedDialect.booleanTestDraft]
    split
    · simp [complete.supports]
    · split <;> simp [complete.supports]
  parentheses := by
    intro left right spares clean
    rw [clean_parenthesizedIf] at clean ⊢
    exact spares clean
  missingTarget := by
    intro _
    simp [complete.conflictUpdateNeedsTarget]
  skippedConflict := fun _ => complete.clean_skippedConflict
  select := by
    intro query left right same parts clean
    -- The orders may differ, so the drafts are taken apart into clauses and put together again.
    have carried : right.carried = query.carried := parts.carried.trans same
    have nodup : right.carried.Nodup := carried ▸ (Statement.select query).nodup_carried
    have known : right.carried ⊆ StatementKind.select.clauses :=
      carried ▸ query.carried_subset_clauses
    refine complete.clean_assemble (right.orderly _) right.faultsOfClauses nodup known ?_
    intro clause member
    apply parts.clauseDraft congruent_spares clause
    exact clean_of_assemble left.conserves_portion? clean (parts.carried ▸ member)

/-- A statement that some dialect drafts without a fault has no fault under a complete dialect. -/
theorem clean_draft {narrow : NamedDialect} {statement : Statement}
    (clean : (statement.draft narrow).Clean) : (statement.draft wide).Clean := by
  have named := statement.hasTable_of_clean narrow clean
  rw [statement.draft_eq_assemble wide named]
  refine complete.clean_assemble (statement.orderly wide named)
    (statement.faultsOfClauses wide named) statement.nodup_carried
    statement.carried_subset_clauses ?_
  intro clause member
  apply statement.clauseDraft_related (complete.relates narrow) (fun _ _ => id)
    (fun _ _ _ => clean_ofText _) clause
  exact statement.clean_clauseDraft narrow clean member

end Dialect.Complete

theorem Dialect.Complete.compile_prepared {wide narrow : Dialect} (complete : wide.Complete)
    {statement : Statement} {name other : String} {compiled : Compiled}
    (done : compile statement name narrow .prepared = .ok compiled) :
    ∃ written, compile statement other wide .prepared = .ok written := by
  have clean : (statement.draft ⟨wide, other⟩).Clean :=
    clean_draft complete (clean_of_compile_eq_ok done)
  exact ⟨_, compile_prepared_eq_ok_iff.mpr ⟨clean, rfl⟩⟩

/-- Under the standard dialect a statement compiles unless it has a defect or, inline, a text with
the null character; no bundled dialect is misconfigured; and what one of them prepares, the standard
dialect prepares too. -/
theorem standard_complete_bundled_wellFormed (statement : Statement) (name : String) :
    (∀ mode,
      (∃ compiled, compile statement name .standard mode = .ok compiled) ∨
      (∃ defect, compile statement name .standard mode = .error (.invalid defect)) ∨
      (mode = .inline ∧
        compile statement name .standard mode = .error (.unescapable '\x00' name))) ∧
    (∀ (bundled : BundledDialect) (mode : Mode) (cause : Misconfiguration) (other : String),
      compile statement name bundled.dialect mode ≠ .error (.misconfigured cause other)) ∧
    (∀ (bundled : BundledDialect) (compiled : Compiled),
      compile statement name bundled.dialect .prepared = .ok compiled →
      ∃ other, compile statement name .standard .prepared = .ok other) := by
  have complete := Dialect.standard_complete
  refine ⟨complete.compile_cases statement name, ?_, ?_⟩
  · intro bundled mode
    exact bundled.wellFormed.compile_ne_misconfigured
  · intro bundled compiled done
    exact complete.compile_prepared done

example :
    compile (.select { Select.empty with columns := [.literal (.text "\x00")] }) "default"
      .standard .inline = .error (.unescapable '\x00' "default") := rfl

end SqlDialects
