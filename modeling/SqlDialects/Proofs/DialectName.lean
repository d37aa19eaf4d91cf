import SqlDialects.Proofs.Outcome
import SqlDialects.Proofs.Related

/-!
The name of a dialect decides nothing. Every renderer may put it into a failure, and none of them
looks at it: two drafts under two names differ in their failures alone, and so do their writings.
-/

namespace SqlDialects

open Draft

namespace Failure

def dialect? : Failure → Option String
  | .unknownDialect dialect => some dialect
  | .unsupported _ dialect => some dialect
  | .invalid _ => none
  | .unescapable _ dialect => some dialect
  | .misconfigured _ dialect => some dialect

def renamed (former name : String) : Failure → Failure
  | .unknownDialect dialect => .unknownDialect (if dialect = former then name else dialect)
  | .unsupported feature dialect =>
      .unsupported feature (if dialect = former then name else dialect)
  | .invalid defect => .invalid defect
  | .unescapable character dialect =>
      .unescapable character (if dialect = former then name else dialect)
  | .misconfigured cause dialect =>
      .misconfigured cause (if dialect = former then name else dialect)

/-- The same failure of one dialect under two names. -/
inductive Renames (first second : String) : Failure → Failure → Prop
  | unsupported (feature : Feature) :
      Renames first second (.unsupported feature first) (.unsupported feature second)
  | invalid (defect : Defect) : Renames first second (.invalid defect) (.invalid defect)
  | unescapable (character : Char) :
      Renames first second (.unescapable character first) (.unescapable character second)
  | misconfigured (cause : Misconfiguration) :
      Renames first second (.misconfigured cause first) (.misconfigured cause second)

namespace Renames

variable {first second : String} {failure other : Failure}

theorem eq_renamed (renames : Renames first second failure other) :
    other = failure.renamed first second := by
  cases renames <;> simp [renamed]

theorem dialect?_eq (renames : Renames first second failure other) :
    failure.dialect? = some first ∨ ∃ defect, failure = .invalid defect := by
  cases renames <;> simp [dialect?]

theorem ne_unknownDialect (renames : Renames first second failure other) (unknown : String) :
    failure ≠ .unknownDialect unknown := by
  cases renames <;> simp

end Renames

end Failure

namespace Draft

inductive Piece.Renames (first second : String) : Piece → Piece → Prop
  | text (text : String) : Renames first second (.text text) (.text text)
  | value (origin : Origin) (value : Value) :
      Renames first second (.value origin value) (.value origin value)
  | fault {failure other : Failure} (renames : failure.Renames first second other) :
      Renames first second (.fault failure) (.fault other)

/-- Drafts of one statement under two names of a dialect. -/
def Renames (first second : String) : Draft → Draft → Prop :=
  List.Forall₂ (Piece.Renames first second)

variable (dialect : Dialect) (first second : String)

theorem renames_misconfigured (cause : Misconfiguration) :
    Renames first second (misconfigured first cause) (misconfigured second cause) :=
  .cons (.fault (.misconfigured cause)) .nil

theorem renames_unsupported (feature : Feature) :
    Renames first second (unsupported first feature) (unsupported second feature) :=
  .cons (.fault (.unsupported feature)) .nil

theorem congruent_renames : Congruent True (Renames first second) where
  nil := .nil
  append := fun here later => List.rel_append here later
  word := by
    intro text text' same
    rw [same trivial]
    exact .cons (.text text) .nil
  rowCount := fun number => .cons (.value .rowCount (.integer number)) .nil
  invalid := fun defect => .cons (.fault (.invalid defect)) .nil

theorem relates_renames :
    NamedDialect.Relates True ⟨dialect, first⟩ ⟨dialect, second⟩ (Renames first second) :=
  (congruent_renames first second).relates dialect (renames_unsupported first second)
    (renames_misconfigured first second) fun truth => .cons (.value .literal (.boolean truth)) .nil

end Draft

/-- A name that the renderers know reaches nothing of a draft but its failures. -/
theorem Statement.draft_renames (statement : Statement) (dialect : Dialect)
    (first second : String) :
    Renames first second (statement.draft ⟨dialect, first⟩) (statement.draft ⟨dialect, second⟩) :=
  Statement.draft_related (relates_renames dialect first second)
    (fun value _ => .cons (.value .literal value) .nil) statement
    (renames_misconfigured first second) (renames_unsupported first second) rfl rfl
    fun _ _ => (congruent_renames first second).related_ofText _

inductive Outcome.Renames (first second : String) {α : Type} :
    Except Failure α → Except Failure α → Prop
  | ok (result : α) : Renames first second (.ok result) (.ok result)
  | error {failure other : Failure} (renames : failure.Renames first second other) :
      Renames first second (.error failure) (.error other)

namespace Outcome.Renames

variable {first second : String} {α β : Type} {outcome other : Except Failure α}

theorem bind (renames : Renames first second outcome other) {next next' : α → Except Failure β}
    (later : ∀ result, Renames first second (next result) (next' result)) :
    Renames first second (outcome.bind next) (other.bind next') := by
  cases renames with
  | ok result => exact later result
  | error renames => exact .error renames

theorem map (renames : Renames first second outcome other) (change : α → β) :
    Renames first second (outcome.map change) (other.map change) := by
  cases renames with
  | ok result => exact .ok (change result)
  | error renames => exact .error renames

theorem eq_ok_iff (renames : Renames first second outcome other) (result : α) :
    outcome = .ok result ↔ other = .ok result := by
  cases renames <;> simp

theorem exists_renames (renames : Renames first second outcome other) {failure : Failure}
    (failed : outcome = .error failure) :
    ∃ otherFailure, other = .error otherFailure ∧
      failure.Renames first second otherFailure := by
  cases renames with
  | ok result => cases failed
  | error renames =>
      cases failed
      exact ⟨_, rfl, renames⟩

end Outcome.Renames

section Writing

variable (dialect : Dialect) (first second : String)

open Outcome (Renames)

theorem NamedDialect.escapeCharacter_renames (character : Char) :
    Renames first second (escapeCharacter ⟨dialect, first⟩ character)
      (escapeCharacter ⟨dialect, second⟩ character) := by
  simp only [escapeCharacter]
  split
  · exact .ok _
  · split
    · exact .error (.unescapable character)
    · exact .ok _

theorem NamedDialect.quoteText_renames (text : String) :
    Renames first second (quoteText ⟨dialect, first⟩ text) (quoteText ⟨dialect, second⟩ text) := by
  have escaped : ∀ characters : List Char,
      Renames first second (escapeCharacters ⟨dialect, first⟩ characters)
        (escapeCharacters ⟨dialect, second⟩ characters) := by
    intro characters
    induction characters with
    | nil => exact .ok ""
    | cons character rest ih =>
        exact (escapeCharacter_renames dialect first second character).bind fun text =>
          ih.map (text ++ ·)
  exact (escaped text.toList).map _

theorem NamedDialect.literalText_renames (value : Value) :
    Renames first second (literalText ⟨dialect, first⟩ value)
      (literalText ⟨dialect, second⟩ value) := by
  cases value with
  | null | boolean | integer | blob => exact .ok _
  | float number =>
      simp only [literalText]
      split
      · exact .ok _
      · exact .error (.invalid _)
  | text content => exact quoteText_renames dialect first second content
  | timestamp time =>
      simp only [literalText, timeText]
      split
      · exact quoteText_renames dialect first second _
      · exact .error (.misconfigured _)

theorem Mode.writeValue_renames (mode : Mode) (count : Nat) (value : Value) :
    Renames first second (mode.writeValue ⟨dialect, first⟩ count value)
      (mode.writeValue ⟨dialect, second⟩ count value) := by
  cases mode with
  | inline => exact (NamedDialect.literalText_renames dialect first second value).map _
  | prepared => exact .ok _

variable {dialect first second}

theorem write_renames {draft other : Draft} (renames : draft.Renames first second other)
    (mode : Mode) (count : Nat) :
    Outcome.Renames first second (draft.write (mode.writeValue ⟨dialect, first⟩) count)
      (other.write (mode.writeValue ⟨dialect, second⟩) count) := by
  induction renames generalizing count with
  | nil => exact .ok Compiled.empty
  | cons piece _ ih =>
      cases piece with
      | text text => exact (ih count).map _
      | value origin value =>
          exact (mode.writeValue_renames dialect first second count value).bind fun written =>
            (ih (count + 1)).map written.append
      | fault failure => exact .error failure

end Writing

/-- Under another name a statement compiles to the same text and arguments, or fails with the same
failure but for the name in it; a failure that tells no name finds a defect in the statement. -/
theorem outcome_under_other_name (statement : Statement) (dialect : Dialect) (mode : Mode)
    (first second : String) :
    (∀ compiled, compile statement first dialect mode = .ok compiled ↔
      compile statement second dialect mode = .ok compiled) ∧
    (∀ failure, compile statement first dialect mode = .error failure →
      compile statement second dialect mode = .error (failure.renamed first second) ∧
      (failure.dialect? = some first ∨ ∃ defect, failure = .invalid defect) ∧
      ∀ unknown, failure ≠ .unknownDialect unknown) := by
  have outcomes : Outcome.Renames first second (compile statement first dialect mode)
      (compile statement second dialect mode) :=
    write_renames (statement.draft_renames dialect first second) mode 0
  refine ⟨outcomes.eq_ok_iff, fun failure failed => ?_⟩
  obtain ⟨other, otherFailed, renames⟩ := outcomes.exists_renames failed
  rw [← renames.eq_renamed]
  exact ⟨otherFailed, renames.dialect?_eq, renames.ne_unknownDialect⟩

end SqlDialects
