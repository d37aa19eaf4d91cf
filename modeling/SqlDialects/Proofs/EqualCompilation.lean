import SqlDialects.Proofs.Agreement
import SqlDialects.Proofs.EqualStatements

/-!
Compiling equal statements. Equality sees neither the order of the columns of a record nor the sign
of a zero, but both are written. Equal statements whose columns come in the same orders fail alike,
are prepared as one text with equal arguments, and differ inline at most in signs of zeros.
-/

namespace SqlDialects

open Draft

section Values

variable (dialect : NamedDialect) {left right : Value}

/-- Texts that differ at most as the texts of the two zeros do. -/
def AlikeButForZeros (left right : String) : Prop :=
  left = right ∨ left ∈ ["0", "-0"] ∧ right ∈ ["0", "-0"]

theorem literalText_float_of_isZero {number : Binary64} (zero : number.isZero) :
    ∃ text ∈ ["0", "-0"], dialect.literalText (.float number) = .ok text := by
  have finite : number.isFinite = true := by
    simp_all [Binary64.isZero, Binary64.isFinite]
  have isNumber : number.isNaN = false := by
    simp_all [Binary64.isZero, Binary64.isNaN]
  refine ⟨number.text, ?_, by simp [NamedDialect.literalText, finite]⟩
  cases negative : number.isNegative <;>
    simp [Binary64.text, finite, isNumber, zero, negative]

theorem literalText_of_unsigned_eq (equal : left.unsigned = right.unsigned) :
    dialect.literalText left = dialect.literalText right ∨
      ∃ first ∈ ["0", "-0"], ∃ second ∈ ["0", "-0"],
        dialect.literalText left = .ok first ∧ dialect.literalText right = .ok second := by
  rcases Value.eq_or_zeros_of_unsigned_eq equal with rfl | ⟨_, _, rfl, rfl, zero, other⟩
  · exact .inl rfl
  · obtain ⟨first, firstZero, here⟩ := literalText_float_of_isZero dialect zero
    obtain ⟨second, secondZero, there⟩ := literalText_float_of_isZero dialect other
    exact .inr ⟨first, firstZero, second, secondZero, here, there⟩

theorem writeValue_eq_error_of_unsigned_eq (equal : left.unsigned = right.unsigned) (mode : Mode)
    (count : Nat) (fault : Failure) :
    mode.writeValue dialect count left = .error fault ↔
      mode.writeValue dialect count right = .error fault := by
  cases mode with
  | prepared => simp [Mode.writeValue, Dialect.bindValue]
  | inline =>
      simp only [Mode.writeValue, NamedDialect.inlineValue, map_eq_error_iff]
      rcases literalText_of_unsigned_eq dialect equal with
        texts | ⟨_, _, _, _, here, there⟩
      · rw [texts]
      · simp [here, there]

theorem literalTexts_alike {values others : List Value} {texts otherTexts : List String}
    (equal : values.map Value.unsigned = others.map Value.unsigned)
    (written : values.map dialect.literalText = texts.map .ok)
    (otherWritten : others.map dialect.literalText = otherTexts.map .ok) :
    List.Forall₂ AlikeButForZeros texts otherTexts := by
  induction values generalizing others texts otherTexts with
  | nil =>
      have noOthers : others = [] := by simpa using equal.symm
      subst noOthers
      have noTexts : texts = [] := by simpa using written.symm
      have noOtherTexts : otherTexts = [] := by simpa using otherWritten.symm
      rw [noTexts, noOtherTexts]
      exact .nil
  | cons value values ih =>
      obtain ⟨other, others, rfl, same, later⟩ := List.map_eq_cons_iff.mp equal.symm
      obtain ⟨text, texts, rfl, here, rest⟩ := List.map_eq_cons_iff.mp written.symm
      obtain ⟨otherText, otherTexts, rfl, there, otherRest⟩ :=
        List.map_eq_cons_iff.mp otherWritten.symm
      refine .cons ?_ (ih later.symm rest.symm otherRest.symm)
      rcases literalText_of_unsigned_eq dialect same.symm with
        texts | ⟨first, firstZero, second, secondZero, firstText, secondText⟩
      · rw [← here, ← there] at texts
        exact .inl (Except.ok.inj texts)
      · rw [← here] at firstText
        rw [← there] at secondText
        cases firstText
        cases secondText
        exact .inr ⟨firstZero, secondZero⟩

end Values

namespace Draft

theorem gaps_mapLiterals (replace : Value → Value) (draft : Draft) :
    (draft.mapLiterals replace).gaps = draft.gaps := by
  induction draft with
  | nil => rfl
  | cons piece rest ih =>
      simp only [mapLiterals] at ih
      cases piece with
      | value origin value => cases origin <;> simp [mapLiterals, Piece.mapLiteral, gaps, ih]
      | text _ | fault _ => simp [mapLiterals, Piece.mapLiteral, gaps, ih]

theorem values_mapLiterals_unsigned (draft : Draft) :
    (draft.mapLiterals Value.unsigned).values.map Value.unsigned =
      draft.values.map Value.unsigned := by
  induction draft with
  | nil => rfl
  | cons piece rest ih =>
      simp only [mapLiterals] at ih
      cases piece with
      | value origin value =>
          cases origin <;> simp [mapLiterals, Piece.mapLiteral, ih, Value.unsigned_unsigned]
      | text _ | fault _ => simpa [mapLiterals, Piece.mapLiteral] using ih

theorem bind_map_eq_error_congr {α β γ : Type} {first other : Except Failure α}
    {later others : Except Failure β} {join : α → β → γ}
    (firsts : ∀ fault, first = .error fault ↔ other = .error fault)
    (laters : ∀ fault, later = .error fault ↔ others = .error fault) (fault : Failure) :
    (first.bind fun value => later.map (join value)) = .error fault ↔
      (other.bind fun value => others.map (join value)) = .error fault := by
  cases first with
  | error cause =>
      rw [(firsts cause).mp rfl]
      rfl
  | ok value =>
      cases other with
      | error cause => exact absurd ((firsts cause).mpr rfl) (by simp)
      | ok otherValue => simpa [Except.bind, map_eq_error_iff] using laters fault

theorem write_mapLiterals_unsigned_eq_error (mode : Mode) (dialect : NamedDialect) (draft : Draft)
    (count : Nat) (fault : Failure) :
    (draft.mapLiterals Value.unsigned).write (mode.writeValue dialect) count = .error fault ↔
      draft.write (mode.writeValue dialect) count = .error fault := by
  induction draft generalizing count fault with
  | nil => rfl
  | cons piece rest ih =>
      simp only [mapLiterals] at ih
      cases piece with
      | text text =>
          simp only [mapLiterals, List.map_cons, Piece.mapLiteral, write, map_eq_error_iff, ih]
      | value origin value =>
          have here : ∀ cause,
              mode.writeValue dialect count (origin.replaced Value.unsigned value) =
                .error cause ↔ mode.writeValue dialect count value = .error cause := by
            intro cause
            cases origin with
            | rowCount => rfl
            | literal =>
                exact writeValue_eq_error_of_unsigned_eq dialect value.unsigned_unsigned mode count
                  cause
          have pieces : Piece.mapLiteral Value.unsigned (.value origin value) =
              .value origin (origin.replaced Value.unsigned value) := by
            cases origin <;> rfl
          rw [mapLiterals, List.map_cons, pieces, write, write]
          exact bind_map_eq_error_congr here (ih (count + 1)) fault
      | fault fault => rfl

end Draft

section Statements

variable {left right : Statement} (equal : left.same right)
  (ordered : left.columnOrders = right.columnOrders)

include equal ordered

theorem gaps_eq_of_same (dialect : NamedDialect) :
    (left.draft dialect).gaps = (right.draft dialect).gaps := by
  rw [← gaps_mapLiterals Value.unsigned, Statement.draft_eq_of_same dialect equal ordered,
    gaps_mapLiterals]

theorem values_unsigned_eq_of_same (dialect : NamedDialect) :
    (left.draft dialect).values.map Value.unsigned =
      (right.draft dialect).values.map Value.unsigned := by
  rw [← values_mapLiterals_unsigned, Statement.draft_eq_of_same dialect equal ordered,
    values_mapLiterals_unsigned]

theorem compile_eq_error_of_same (name : String) (dialect : Dialect) (mode : Mode)
    (failure : Failure) :
    compile left name dialect mode = .error failure ↔
      compile right name dialect mode = .error failure := by
  rw [compile, compile, ← write_mapLiterals_unsigned_eq_error mode _ (left.draft _),
    Statement.draft_eq_of_same _ equal ordered, write_mapLiterals_unsigned_eq_error]

theorem exists_compile_eq_ok_of_same {name : String} {dialect : Dialect} {mode : Mode}
    {compiled : Compiled}
    (done : compile left name dialect mode = .ok compiled) :
    ∃ other, compile right name dialect mode = .ok other := by
  cases result : compile right name dialect mode with
  | ok other => exact ⟨other, rfl⟩
  | error failure =>
      have failed := (compile_eq_error_of_same equal ordered name dialect mode failure).mpr result
      rw [done] at failed
      cases failed

theorem values_same_of_same (dialect : NamedDialect) :
    List.Forall₂ (fun first second : Value => first.same second) (left.draft dialect).values
      (right.draft dialect).values := by
  have signless := values_unsigned_eq_of_same equal ordered dialect
  rw [← List.forall₂_eq_eq_eq, List.forall₂_map_left_iff, List.forall₂_map_right_iff] at signless
  have bindable := (List.forall₂_and_left _ _).mpr
    ⟨fun _ member => Statement.isBindable_of_mem_values member, signless⟩
  refine bindable.imp fun first second ⟨finite, same⟩ => Value.same_of_unsigned_eq ?_ same
  rintro number rfl
  exact finite

end Statements

/-- Equal statements that take the same orders of columns fail alike, are prepared as one text with
equal arguments, and differ inline at most in the texts of zeros. -/
theorem equal_statements_compile_alike {left right : Statement} (equal : left.same right)
    (ordered : left.columnOrders = right.columnOrders) (name : String) (dialect : Dialect) :
    (∀ mode failure, compile left name dialect mode = .error failure ↔
      compile right name dialect mode = .error failure) ∧
    (∀ compiled, compile left name dialect .prepared = .ok compiled →
      ∃ other, compile right name dialect .prepared = .ok other ∧
        compiled.sql = other.sql ∧
        List.Forall₂ (fun first second : Value => first.same second)
          compiled.arguments other.arguments) ∧
    (∀ compiled, compile left name dialect .inline = .ok compiled →
      ∃ other, compile right name dialect .inline = .ok other ∧
        compiled.arguments = [] ∧ other.arguments = [] ∧
        ∃ gaps texts otherTexts : List String,
          gaps.length = texts.length + 1 ∧
          (left.draft ⟨dialect, name⟩).values.map (NamedDialect.literalText ⟨dialect, name⟩) =
            texts.map .ok ∧
          (right.draft ⟨dialect, name⟩).values.map (NamedDialect.literalText ⟨dialect, name⟩) =
            otherTexts.map .ok ∧
          compiled.sql = weave gaps texts ∧
          other.sql = weave gaps otherTexts ∧
          List.Forall₂ AlikeButForZeros texts otherTexts) := by
  have gaps := gaps_eq_of_same equal ordered ⟨dialect, name⟩
  refine ⟨compile_eq_error_of_same equal ordered name dialect, ?_, ?_⟩
  · intro compiled done
    obtain ⟨other, otherDone⟩ := exists_compile_eq_ok_of_same equal ordered done
    refine ⟨other, otherDone, ?_⟩
    obtain ⟨_, rfl⟩ := compile_prepared_eq_ok_iff.mp done
    obtain ⟨_, rfl⟩ := compile_prepared_eq_ok_iff.mp otherDone
    have values := values_same_of_same equal ordered ⟨dialect, name⟩
    refine ⟨?_, values⟩
    simp only [bound, gaps, values.length_eq]
  · intro compiled done
    obtain ⟨other, otherDone⟩ := exists_compile_eq_ok_of_same equal ordered done
    obtain ⟨texts, literals, sql, none⟩ :=
      exists_texts_of_write_inlineValue done
    obtain ⟨otherTexts, otherLiterals, otherSql, otherNone⟩ :=
      exists_texts_of_write_inlineValue otherDone
    have values := values_unsigned_eq_of_same equal ordered ⟨dialect, name⟩
    rw [← gaps] at otherSql
    have lengths := congrArg List.length literals
    simp only [List.length_map] at lengths
    exact ⟨other, otherDone, none, otherNone, _, texts, otherTexts,
      by rw [length_gaps, lengths], literals, otherLiterals, sql, otherSql,
      literalTexts_alike ⟨dialect, name⟩ values literals otherLiterals⟩

def scores (points : Binary64) (second : List (String × Expr)) : Statement :=
  .insert { Insert.empty with
    table := some (.column "scores")
    source := .records [
      .ofList [("id", .literal (.integer 1)), ("points", .literal (.float points))],
      .ofList second] }

def zeroScores : Statement :=
  scores ⟨0⟩ [("id", .literal (.integer 2)), ("points", .literal (.float ⟨0⟩))]

def otherZeroScores : Statement :=
  scores ⟨0x8000000000000000⟩ [("points", .literal (.float ⟨0⟩)), ("id", .literal (.integer 2))]

theorem equal_statements_compile_alike_scores :
    zeroScores.same otherZeroScores ∧
    zeroScores.columnOrders = otherZeroScores.columnOrders ∧
    (∃ compiled other, compile zeroScores "postgres" .postgres .prepared = .ok compiled ∧
      compile otherZeroScores "postgres" .postgres .prepared = .ok other ∧
      compiled.sql = other.sql ∧
      List.Forall₂ (fun first second : Value => first.same second)
        compiled.arguments other.arguments) ∧
    (∃ gaps texts otherTexts : List String,
      "INSERT INTO \"scores\" (\"id\", \"points\") VALUES (1, 0), (2, 0)" = weave gaps texts ∧
      "INSERT INTO \"scores\" (\"id\", \"points\") VALUES (1, -0), (2, 0)" =
        weave gaps otherTexts ∧
      List.Forall₂ AlikeButForZeros texts otherTexts) := by
  have equal : zeroScores.same otherZeroScores := by decide
  have ordered : zeroScores.columnOrders = otherZeroScores.columnOrders := by decide
  obtain ⟨_, prepared, inline⟩ :=
    equal_statements_compile_alike equal ordered "postgres" .postgres
  obtain ⟨other, otherDone, bound⟩ := prepared
    ⟨"INSERT INTO \"scores\" (\"id\", \"points\") VALUES ($1, $2), ($3, $4)",
      [.integer 1, .float ⟨0⟩, .integer 2, .float ⟨0⟩]⟩ rfl
  obtain ⟨inlined, written, _, _, gaps, texts, otherTexts, _, _, _, sql, otherSql, alike⟩ := inline
    ⟨"INSERT INTO \"scores\" (\"id\", \"points\") VALUES (1, 0), (2, 0)", []⟩ rfl
  have text : compile otherZeroScores "postgres" .postgres .inline =
      .ok ⟨"INSERT INTO \"scores\" (\"id\", \"points\") VALUES (1, -0), (2, 0)", []⟩ := rfl
  rw [text] at written
  cases written
  exact ⟨equal, ordered, ⟨_, other, rfl, otherDone, bound⟩,
    gaps, texts, otherTexts, sql, otherSql, alike⟩

def rescored (assignments : List (String × Expr)) : Statement :=
  .update { Update.empty with
    table := some (.column "scores")
    assignments := .ofList assignments }

/-- The order of assignments and the sign of a zero are written although equality sees neither. -/
theorem equal_updates_compile_apart :
    ((rescored [("level", .literal (.integer 1)), ("points", .literal (.integer 2))]).same
        (rescored [("points", .literal (.integer 2)), ("level", .literal (.integer 1))]) ∧
      compile (rescored [("level", .literal (.integer 1)), ("points", .literal (.integer 2))])
          "default" .standard .prepared =
        .ok ⟨"UPDATE \"scores\" SET \"level\" = ?, \"points\" = ?", [.integer 1, .integer 2]⟩ ∧
      compile (rescored [("points", .literal (.integer 2)), ("level", .literal (.integer 1))])
          "default" .standard .prepared =
        .ok ⟨"UPDATE \"scores\" SET \"points\" = ?, \"level\" = ?", [.integer 2, .integer 1]⟩) ∧
    ((rescored [("points", .literal (.float ⟨0⟩))]).same
        (rescored [("points", .literal (.float ⟨0x8000000000000000⟩))]) ∧
      compile (rescored [("points", .literal (.float ⟨0⟩))]) "default" .standard .inline =
        .ok ⟨"UPDATE \"scores\" SET \"points\" = 0", []⟩ ∧
      compile (rescored [("points", .literal (.float ⟨0x8000000000000000⟩))])
          "default" .standard .inline =
        .ok ⟨"UPDATE \"scores\" SET \"points\" = -0", []⟩) :=
  ⟨⟨rfl, rfl, rfl⟩, rfl, rfl, rfl⟩

end SqlDialects
