import SqlDialects.Dialect.Postgres
import SqlDialects.Proofs.Draft.Replacement
import SqlDialects.Proofs.Outcome

/-!
Bound values stay out of the text. Replacing the literals of a statement replaces the arguments
that came from literals; the text, the numbers of rows and every failure remain.
-/

namespace SqlDialects

open Draft

variable {replace : Value → Value}

/-- Replaces a value that was a literal of the statement. -/
def Origin.replaced (replace : Value → Value) : Origin → Value → Value
  | .literal, value => replace value
  | .rowCount, value => value

namespace Draft

/-- Writing with placeholders runs alike on both drafts: neither the count nor the text sees a
value. -/
theorem write_mapLiterals (replace : Value → Value) (dialect : NamedDialect) (draft : Draft)
    (count : Nat) :
    (draft.mapLiterals replace).write dialect.bindValue count =
      (draft.write dialect.bindValue count).map fun compiled =>
        ⟨compiled.sql,
          List.zipWith (Origin.replaced replace) draft.origins compiled.arguments⟩ := by
  induction draft generalizing count with
  | nil => rfl
  | cons piece rest ih =>
      cases piece with
      | text text =>
          have step := ih count
          simp only [mapLiterals] at step
          simp only [mapLiterals, List.map_cons, Piece.mapLiteral, write, step]
          cases write dialect.bindValue count rest <;> rfl
      | value origin value =>
          have step := ih (count + 1)
          simp only [mapLiterals] at step
          cases origin <;>
            simp only [mapLiterals, List.map_cons, Piece.mapLiteral, write, step,
              Dialect.bindValue, Except.bind] <;>
            cases write dialect.bindValue (count + 1) rest <;> rfl
      | fault fault => rfl

end Draft

theorem compile_mapLiterals (replacement : Value.IsReplacement replace) (statement : Statement)
    (name : String) (dialect : Dialect) :
    compile (statement.mapLiterals replace) name dialect .prepared =
      (compile statement name dialect .prepared).map fun compiled =>
        ⟨compiled.sql,
          List.zipWith (Origin.replaced replace) (statement.draft ⟨dialect, name⟩).origins
            compiled.arguments⟩ := by
  unfold compile
  rw [statement.draft_mapLiterals replacement, Mode.writeValue, write_mapLiterals]

/-- In prepared mode no literal reaches the text: another literal in its place gives the same
failure, or the same text with another argument in the same place. -/
theorem literals_stay_out_of_text (replacement : Value.IsReplacement replace)
    (statement : Statement) (name : String) (dialect : Dialect) :
    (∀ failure, compile statement name dialect .prepared = .error failure →
      compile (statement.mapLiterals replace) name dialect .prepared = .error failure) ∧
    (∀ compiled, compile statement name dialect .prepared = .ok compiled →
      (statement.draft ⟨dialect, name⟩).origins.length = compiled.arguments.length ∧
      compile (statement.mapLiterals replace) name dialect .prepared =
        .ok ⟨compiled.sql,
          List.zipWith (Origin.replaced replace) (statement.draft ⟨dialect, name⟩).origins
            compiled.arguments⟩) := by
  have replaced := compile_mapLiterals replacement statement name dialect
  refine ⟨?_, ?_⟩
  · intro failure failed
    rw [replaced, failed]
    rfl
  · intro compiled done
    obtain ⟨_, same⟩ := compile_prepared_eq_ok_iff.mp done
    refine ⟨?_, ?_⟩
    · rw [same]
      exact length_origins _
    · rw [replaced, done]
      rfl

def hideText : Value → Value
  | .text _ => .text "hidden"
  | other => other

theorem isReplacement_hideText : Value.IsReplacement hideText where
  fixed := by
    intro value kept
    cases value <;> simp_all [hideText, Value.isReplaceable]
  closed := by
    intro value moved
    cases value <;> simp_all [hideText, Value.isReplaceable]

theorem literals_stay_out_of_text_hideText :
    Value.IsReplacement hideText ∧
    compile
        ((Statement.select { Select.empty with
          columns := [.literal (.boolean true)]
          sources := [.column "users"]
          conditions := [.compare .equal (.column "name") (.literal (.text "' OR 1 = 1"))]
          limit := some 5 }).mapLiterals hideText)
        "postgres" .postgres .prepared =
      .ok ⟨"SELECT $1 FROM \"users\" WHERE \"name\" = $2 LIMIT $3",
        [.boolean true, .text "hidden", .integer 5]⟩ :=
  ⟨isReplacement_hideText,
    ((literals_stay_out_of_text isReplacement_hideText
      (.select { Select.empty with
        columns := [.literal (.boolean true)]
        sources := [.column "users"]
        conditions := [.compare .equal (.column "name") (.literal (.text "' OR 1 = 1"))]
        limit := some 5 })
      "postgres" .postgres).2
      ⟨"SELECT $1 FROM \"users\" WHERE \"name\" = $2 LIMIT $3",
        [.boolean true, .text "' OR 1 = 1", .integer 5]⟩ rfl).2⟩

end SqlDialects
