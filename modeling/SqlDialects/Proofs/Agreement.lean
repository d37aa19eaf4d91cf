import SqlDialects.Proofs.Draft.Contents
import SqlDialects.Proofs.Draft.Inline
import SqlDialects.Proofs.Outcome

/-!
Prepared and inline compilation agree: they write the same texts around the same values, and inline
compilation fails more often only by what a text literal or a time pattern cannot express.
-/

namespace SqlDialects

open Draft

namespace NamedDialect

theorem escapeCharacter_eq_error {dialect : NamedDialect} {character : Char} {fault : Failure}
    (failed : dialect.escapeCharacter character = .error fault) :
    fault = .unescapable character dialect.name ∧ dialect.lexicon.escapes.find? character = none ∧
      (character = dialect.lexicon.textQuote ∨ character = '\x00') := by
  unfold escapeCharacter at failed
  split at failed
  · simp at failed
  · next unescaped =>
    split at failed
    · next special =>
      simp only [Bool.or_eq_true, decide_eq_true_eq] at special
      exact ⟨by simpa using failed.symm, unescaped, special⟩
    · simp at failed

theorem escapeCharacters_eq_error {dialect : NamedDialect} {characters : List Char}
    {fault : Failure}
    (failed : dialect.escapeCharacters characters = .error fault) :
    ∃ character, dialect.escapeCharacter character = .error fault := by
  induction characters with
  | nil => simp [escapeCharacters] at failed
  | cons character rest ih =>
      rw [escapeCharacters, bind_eq_error_iff] at failed
      rcases failed with here | ⟨text, _, failed⟩
      · exact ⟨character, here⟩
      · exact ih (map_eq_error_iff.mp failed)

theorem quoteText_eq_error {dialect : NamedDialect} {text : String} {fault : Failure}
    (failed : dialect.quoteText text = .error fault) :
    ∃ character, dialect.escapeCharacter character = .error fault :=
  escapeCharacters_eq_error (map_eq_error_iff.mp failed)

theorem character_or_timePattern_of_literalText_error {dialect : NamedDialect} {value : Value}
    {fault : Failure} (bindable : value.isBindable)
    (failed : dialect.literalText value = .error fault) :
    (∃ character, dialect.escapeCharacter character = .error fault) ∨
      TimePattern.items? dialect.lexicon.timePattern = none ∧
        fault = .misconfigured (.timePattern dialect.lexicon.timePattern) dialect.name := by
  cases value with
  | null | boolean | integer | blob => simp [literalText] at failed
  | float number =>
      have finite : number.isFinite = true := bindable
      simp [literalText, finite] at failed
  | text content => exact .inl (quoteText_eq_error failed)
  | timestamp time =>
      simp only [literalText, timeText] at failed
      split at failed
      · exact .inl (quoteText_eq_error failed)
      · next meaningless =>
        have unread : TimePattern.items? dialect.lexicon.timePattern = none := by
          simpa [TimePattern.format?] using meaningless
        exact .inr ⟨unread, by simpa using failed.symm⟩

theorem literalText_eq_error {dialect : NamedDialect} {value : Value} {fault : Failure}
    (bindable : value.isBindable) (failed : dialect.literalText value = .error fault) :
    (∃ character, fault = .unescapable character dialect.name) ∨
      fault = .misconfigured (.timePattern dialect.lexicon.timePattern) dialect.name := by
  rcases character_or_timePattern_of_literalText_error bindable failed with
    ⟨character, unescapable⟩ | ⟨_, same⟩
  · exact .inl ⟨character, (escapeCharacter_eq_error unescapable).1⟩
  · exact .inr same

end NamedDialect

theorem permits_bindable (dialect : NamedDialect) :
    dialect.Permits fun piece => ∀ value ∈ piece.value?, value.isBindable where
  text := by simp [Piece.value?]
  literal := by simp [Piece.value?]
  rowCount := by simp [Piece.value?, Value.isBindable]
  invalid := by simp [Piece.value?]
  unsupported := by simp [Piece.value?]
  misplaced := by simp [Piece.value?]
  unwritten := by
    intro kind clause _ _
    simp only [remainder]
    split <;> simp [misconfigured, Draft.unsupported, Piece.value?]

theorem Statement.isBindable_of_mem_values {statement : Statement} {dialect : NamedDialect}
    {value : Value} (member : value ∈ (statement.draft dialect).values) : value.isBindable := by
  obtain ⟨piece, inside, same⟩ := List.mem_filterMap.mp member
  have holds := statement.draft_holds (permits_bindable dialect)
  exact holds piece inside value same

/-- Inline compilation has no success of its own; where both succeed, a placeholder stands for the
literal of each argument; and a failure of prepared compilation is one of inline compilation too,
unless a literal before it cannot be written. -/
theorem modes_agree (statement : Statement) (name : String) (dialect : Dialect) :
    (∀ inlined, compile statement name dialect .inline = .ok inlined →
      ∃ prepared, compile statement name dialect .prepared = .ok prepared) ∧
    (∀ prepared inlined,
      compile statement name dialect .prepared = .ok prepared →
      compile statement name dialect .inline = .ok inlined →
      ∃ gaps literals : List String,
        gaps.length = prepared.arguments.length + 1 ∧
        prepared.arguments.map (NamedDialect.literalText ⟨dialect, name⟩) = literals.map .ok ∧
        prepared.sql =
          weave gaps ((List.range prepared.arguments.length).map dialect.placeholderText) ∧
        inlined.sql = weave gaps literals ∧
        inlined.arguments = []) ∧
    (∀ failure, compile statement name dialect .prepared = .error failure →
      ∃ other, compile statement name dialect .inline = .error other ∧
        (other = failure ∨ (∃ character, other = .unescapable character name) ∨
          other = .misconfigured (.timePattern dialect.lexicon.timePattern) name)) := by
  refine ⟨?_, ?_, ?_⟩
  · intro inlined done
    exact ⟨_, compile_prepared_eq_ok_iff.mpr ⟨clean_of_compile_eq_ok done, rfl⟩⟩
  · intro prepared inlined prepare inline
    obtain ⟨clean, rfl⟩ := compile_prepared_eq_ok_iff.mp prepare
    rw [compile, write_of_clean _ clean] at inline
    obtain ⟨texts, values, rfl⟩ := map_eq_ok_iff.mp inline
    obtain ⟨literals, none⟩ := writeValues_inlineValue values
    refine ⟨_, texts.map Compiled.sql, length_gaps _, ?_, rfl, rfl, none⟩
    rw [List.map_map]
    exact literals
  · intro failure failed
    have first := write_bindValue_eq_error failed
    cases inline : compile statement name dialect .inline with
    | ok compiled =>
        have clean := clean_of_write_ok inline
        simp [Clean] at clean
        simp [clean] at first
    | error other =>
        refine ⟨other, rfl, ?_⟩
        rcases head?_faults_or_of_write_error inline with same | ⟨value, member, earlier, failing⟩
        · rw [first] at same
          cases same
          exact .inl rfl
        · have literal := map_eq_error_iff.mp failing
          rcases NamedDialect.literalText_eq_error
            (Statement.isBindable_of_mem_values member) literal
            with ⟨character, rfl⟩ | rfl
          · exact .inr (.inl ⟨character, rfl⟩)
          · exact .inr (.inr rfl)

end SqlDialects
