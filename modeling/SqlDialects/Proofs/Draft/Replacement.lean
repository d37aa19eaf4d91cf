import SqlDialects.Compile
import SqlDialects.Proofs.Related
import SqlDialects.Proofs.Replacement

/-!
Replacing the literals of a statement replaces the literals of its draft and changes nothing else
in it: no text, no fault, no number of rows, and no choice of a clause.
-/

namespace SqlDialects

open Draft

namespace Piece

def mapLiteral (replace : Value → Value) : Piece → Piece
  | .value .literal held => .value .literal (replace held)
  | .value .rowCount held => .value .rowCount held
  | .text content => .text content
  | .fault cause => .fault cause

end Piece

namespace Draft

def mapLiterals (replace : Value → Value) (draft : Draft) : Draft :=
  draft.map (Piece.mapLiteral replace)

/-- The first draft is the second one with other literals. -/
def Replaced (replace : Value → Value) (replaced draft : Draft) : Prop :=
  replaced = draft.mapLiterals replace

variable (replace : Value → Value)

theorem congruent_replaced : Congruent True (Replaced replace) where
  nil := rfl
  append := by
    intro left right left' right' here later
    rw [Replaced, mapLiterals, List.map_append, here, later, mapLiterals, mapLiterals]
  word := by
    intro text text' same
    rw [same trivial]
    rfl
  rowCount := fun _ => rfl
  invalid := fun _ => rfl

end Draft

namespace Value.IsReplacement

variable {replace : Value → Value} (replacement : IsReplacement replace) (dialect : NamedDialect)

include replacement

theorem replaced_valueDraft (value : Value) :
    Replaced replace (dialect.valueDraft (replace value)) (dialect.valueDraft value) := by
  have written : ∀ value : Value, value.isReplaceable →
      dialect.valueDraft value = [.value .literal value] := by
    intro value kept
    cases value <;> simp_all [isReplaceable, Dialect.valueDraft]
  cases kept : value.isReplaceable with
  | true =>
      rw [written value kept, written _ (replacement.closed value kept)]
      rfl
  | false =>
      rw [replacement.fixed value kept]
      cases value with
      | null => rfl
      | boolean truth =>
          simp [Replaced, Dialect.valueDraft, Draft.mapLiterals, Piece.mapLiteral,
            replacement.fixed (.boolean truth) rfl]
      | float number =>
          have infinite : number.isFinite = false := kept
          simp only [Dialect.valueDraft, infinite, Bool.false_eq_true, if_false]
          rfl
      | integer | text | blob | timestamp => simp [isReplaceable] at kept

theorem relates_replaced : dialect.Relates True dialect (Replaced replace) := by
  refine (congruent_replaced replace).relates dialect.toDialect (fun _ => rfl) (fun _ => rfl) ?_
  intro truth
  simp [Replaced, Draft.mapLiterals, Piece.mapLiteral, replacement.fixed (.boolean truth) rfl]

theorem rewriting_relates :
    (Rewriting.literals replace).Relates True dialect dialect (Replaced replace) where
  toRelates := replacement.relates_replaced dialect
  toKeepsTruth := replacement.keepsTruth
  value := replacement.replaced_valueDraft dialect
  joinColumns := fun kind columns =>
    (replacement.relates_replaced dialect).related_joinPartDraft kind (.using columns)

end Value.IsReplacement

theorem Statement.draft_mapLiterals {replace : Value → Value}
    (replacement : Value.IsReplacement replace) {dialect : NamedDialect} (statement : Statement) :
    (statement.mapLiterals replace).draft dialect =
      (statement.draft dialect).mapLiterals replace :=
  statement.draft_rewrite (replacement.rewriting_relates dialect) (fun _ => rfl) (fun _ => rfl)
    rfl rfl fun _ _ => rfl

end SqlDialects
