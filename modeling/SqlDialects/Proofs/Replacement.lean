import SqlDialects.Proofs.Rewriting

/-!
Replacing the literals of a statement, wherever they stand. What a draft asks of a literal besides
its value is whether it is null, a boolean, or a float that is not finite; a replacement leaves
these values alone and does not produce them out of others.
-/

namespace SqlDialects

/-- Neither null nor a boolean nor a float that is not finite. -/
def Value.isReplaceable : Value → Bool
  | .null | .boolean _ => false
  | .float number => number.isFinite
  | _ => true

structure Value.IsReplacement (replace : Value → Value) : Prop where
  fixed : ∀ value : Value, value.isReplaceable = false → replace value = value
  closed : ∀ value : Value, value.isReplaceable → (replace value).isReplaceable

def Rewriting.literals (replace : Value → Value) : Rewriting where
  literal := replace
  joinColumns := fun columns => columns

def Statement.mapLiterals (replace : Value → Value) (statement : Statement) : Statement :=
  statement.rewrite (.literals replace)

theorem Value.IsReplacement.keepsTruth {replace : Value → Value}
    (replacement : IsReplacement replace) : (Rewriting.literals replace).KeepsTruth where
  boolean? := by
    intro value
    simp only [Rewriting.literals]
    cases kept : value.isReplaceable with
    | false => rw [replacement.fixed value kept]
    | true =>
        have moved := replacement.closed value kept
        cases value <;> cases image : replace _ <;> simp_all [isReplaceable, Value.boolean?]
  isNullOrBoolean := by
    intro value
    simp only [Rewriting.literals]
    cases kept : value.isReplaceable with
    | false => rw [replacement.fixed value kept]
    | true =>
        have moved := replacement.closed value kept
        cases value <;> cases image : replace _ <;>
          simp_all [isReplaceable, Value.isNullOrBoolean]

end SqlDialects
