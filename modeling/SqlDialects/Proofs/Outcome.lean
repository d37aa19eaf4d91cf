import SqlDialects.Compile
import SqlDialects.Proofs.Draft.Writing

/-!
When a statement compiles and what comes out. Binding values never fails, so a prepared statement
compiles when its draft is clean, and its arguments are the values of the draft in their order.
Literals depend on nothing but the lexicon of a dialect.
-/

namespace SqlDialects

open Draft

namespace NamedDialect

variable {first second : NamedDialect}

section Lexicon

variable (same : second.lexicon = first.lexicon) (named : second.name = first.name)

include same named

theorem quoteText_of_lexicon (text : String) : second.quoteText text = first.quoteText text := by
  have escaped : ∀ characters : List Char,
      second.escapeCharacters characters = first.escapeCharacters characters := by
    intro characters
    induction characters with
    | nil => rfl
    | cons character rest ih =>
        rw [escapeCharacters, escapeCharacters, ih, escapeCharacter, escapeCharacter, same, named]
  rw [quoteText, quoteText, escaped, same]

theorem literalText_of_lexicon (value : Value) :
    second.literalText value = first.literalText value := by
  cases value <;>
    simp only [literalText, Dialect.booleanText, Dialect.blobText, timeText,
      quoteText_of_lexicon same named, same, named]

end Lexicon

end NamedDialect

theorem Mode.writeValue_of_lexicon (mode : Mode) {first second : NamedDialect}
    (lexicon : second.lexicon = first.lexicon) (named : second.name = first.name)
    (numbered :
      second.conventions.numberedPlaceholders = first.conventions.numberedPlaceholders) :
    mode.writeValue second = mode.writeValue first := by
  funext count value
  cases mode with
  | inline =>
      rw [writeValue, writeValue, NamedDialect.inlineValue, NamedDialect.inlineValue,
        NamedDialect.literalText_of_lexicon lexicon named]
  | prepared =>
      rw [writeValue, writeValue, Dialect.bindValue, Dialect.bindValue, Dialect.placeholderText,
        Dialect.placeholderText, lexicon, numbered]

variable {statement : Statement} {name : String} {dialect : Dialect} {mode : Mode}

theorem compile_congr {first second : Statement}
    (drafts : first.draft ⟨dialect, name⟩ = second.draft ⟨dialect, name⟩) :
    compile first name dialect mode = compile second name dialect mode := by
  rw [compile, compile, drafts]

theorem clean_of_compile_eq_ok {compiled : Compiled}
    (done : compile statement name dialect mode = .ok compiled) :
    (statement.draft ⟨dialect, name⟩).Clean :=
  clean_of_write_ok done

namespace Draft

theorem writeValues_bindValue (dialect : Dialect) (count : Nat) (values : List Value) :
    ∃ written, writeValues dialect.bindValue count values = .ok written ∧
      written.map Compiled.sql =
        (List.range' count values.length).map dialect.placeholderText ∧
      written.flatMap Compiled.arguments = values := by
  induction values generalizing count with
  | nil => exact ⟨[], rfl, rfl, rfl⟩
  | cons value rest ih =>
      obtain ⟨later, done, texts, bound⟩ := ih (count + 1)
      refine ⟨⟨dialect.placeholderText count, [value]⟩ :: later, ?_, ?_, ?_⟩
      · simp [writeValues, Dialect.bindValue, done, Except.bind, Except.map]
      · simp [texts, List.range'_succ]
      · simp [bound]

/-- A clean draft is written with a placeholder for every value, numbered on from `count`. -/
theorem write_bindValue_behind {draft : Draft} (clean : draft.Clean) (dialect : Dialect)
    (count : Nat) :
    draft.write dialect.bindValue count =
      .ok ⟨weave draft.gaps ((List.range' count draft.values.length).map dialect.placeholderText),
        draft.values⟩ := by
  obtain ⟨written, done, texts, values⟩ := writeValues_bindValue dialect count draft.values
  rw [write_of_clean draft clean, done]
  simp [Except.map, woven, texts, values]

/-- A clean draft with a placeholder for every value. -/
def bound (draft : Draft) (dialect : Dialect) : Compiled :=
  ⟨weave draft.gaps ((List.range draft.values.length).map dialect.placeholderText), draft.values⟩

theorem write_bindValue_of_clean {draft : Draft} (clean : draft.Clean) (dialect : Dialect) :
    draft.write dialect.bindValue 0 = .ok (draft.bound dialect) := by
  rw [write_bindValue_behind clean dialect 0, bound, List.range_eq_range']

theorem write_bindValue_eq_error {draft : Draft} {dialect : Dialect} {fault : Failure}
    (failed : draft.write dialect.bindValue 0 = .error fault) :
    draft.faults.head? = some fault := by
  rcases head?_faults_or_of_write_error failed with first | ⟨value, _, earlier, failing⟩
  · exact first
  · simp [Dialect.bindValue] at failing

end Draft

theorem compile_prepared_eq_ok_iff {compiled : Compiled} :
    compile statement name dialect .prepared = .ok compiled ↔
      (statement.draft ⟨dialect, name⟩).Clean ∧
        compiled = (statement.draft ⟨dialect, name⟩).bound dialect := by
  constructor
  · intro done
    have clean := clean_of_compile_eq_ok done
    simp only [compile, Mode.writeValue, write_bindValue_of_clean clean, Except.ok.injEq] at done
    exact ⟨clean, done.symm⟩
  · rintro ⟨clean, rfl⟩
    exact write_bindValue_of_clean clean dialect

end SqlDialects
