import SqlDialects.Expr.Same
import SqlDialects.Proofs.Replacement

/-!
Equality of expressions and queries. Equal ones are made of the same parts, up to the sign of a
zero, which equality of numbers does not see.
-/

namespace SqlDialects

namespace Value

/-- A value without the sign of a zero. -/
def unsigned : Value → Value
  | .float number => if number.isZero then .float ⟨0⟩ else .float number
  | other => other

theorem isReplaceable_float_of_isZero {number : Binary64} (zero : number.isZero) :
    (float number).isReplaceable := by
  simp_all [isReplaceable, Binary64.isFinite, Binary64.isZero]

theorem isReplacement_unsigned : IsReplacement unsigned where
  fixed := by
    intro value kept
    cases value with
    | float number =>
        by_cases zero : number.isZero
        · simp [isReplaceable_float_of_isZero zero] at kept
        · simp [unsigned, zero]
    | null | boolean _ | integer _ | text _ | blob _ | timestamp _ => rfl
  closed := by
    intro value moved
    cases value with
    | float number =>
        by_cases zero : number.isZero
        · simp only [unsigned, zero, if_true]
          decide
        · simpa [unsigned, zero] using moved
    | null | boolean _ | integer _ | text _ | blob _ | timestamp _ => exact moved

theorem unsigned_eq_of_same {left right : Value} (equal : left.same right) :
    left.unsigned = right.unsigned := by
  cases left with
  | float first =>
      cases right with
      | float second =>
          simp only [same, Binary64.same, Bool.and_eq_true, Bool.or_eq_true,
            decide_eq_true_eq] at equal
          obtain ⟨_, zeros | bits⟩ := equal
          · simp [unsigned, zeros.1, zeros.2]
          · have numbers : first = second := congrArg Binary64.mk bits
            rw [numbers]
      | _ => simp [same] at equal
  | _ =>
      have values := of_decide_eq_true equal
      rw [values]

theorem exists_unsigned_float (number : Binary64) :
    ∃ other, (float number).unsigned = float other := by
  by_cases zero : number.isZero <;> simp [unsigned, zero]

theorem unsigned_unsigned (value : Value) : value.unsigned.unsigned = value.unsigned := by
  cases value with
  | float number =>
      have cleared : (⟨0⟩ : Binary64).isZero := by decide
      by_cases zero : number.isZero <;> simp [unsigned, zero, cleared]
  | null | boolean _ | integer _ | text _ | blob _ | timestamp _ => rfl

theorem unsigned_float_eq {first second : Binary64}
    (equal : (float first).unsigned = (float second).unsigned) :
    first = second ∨ first.isZero ∧ second.isZero := by
  have cleared : (⟨0⟩ : Binary64).isZero := by decide
  simp only [unsigned] at equal
  by_cases zero : first.isZero <;> by_cases other : second.isZero <;>
    simp only [zero, other, if_true, if_false, Bool.false_eq_true, float.injEq] at equal
  · exact .inr ⟨zero, other⟩
  · rw [← equal] at other
    exact absurd cleared other
  · rw [equal] at zero
    exact absurd cleared zero
  · exact .inl equal

theorem eq_or_zeros_of_unsigned_eq {left right : Value} (equal : left.unsigned = right.unsigned) :
    left = right ∨ ∃ first second, left = float first ∧ right = float second ∧
      first.isZero ∧ second.isZero := by
  cases left with
  | float first =>
      cases right with
      | float second =>
          rcases unsigned_float_eq equal with rfl | zeros
          · exact .inl rfl
          · exact .inr ⟨first, second, rfl, rfl, zeros⟩
      | _ =>
          obtain ⟨number, signless⟩ := exists_unsigned_float first
          rw [signless] at equal
          cases equal
  | _ =>
      cases right with
      | float second =>
          obtain ⟨number, signless⟩ := exists_unsigned_float second
          rw [signless] at equal
          cases equal
      | _ => exact .inl equal

theorem same_of_unsigned_eq {left right : Value}
    (finite : ∀ number, left = float number → number.isFinite)
    (equal : left.unsigned = right.unsigned) : left.same right := by
  rcases eq_or_zeros_of_unsigned_eq equal with rfl | ⟨first, second, rfl, rfl, zero, other⟩
  · cases left with
    | float number =>
        have here := finite number rfl
        simp_all [same, Binary64.same, Binary64.isFinite, Binary64.isNaN]
    | _ => simp [same]
  · simp_all [same, Binary64.same, Binary64.isZero, Binary64.isNaN]

end Value

def Rewriting.unsigned : Rewriting :=
  .literals Value.unsigned

section Conjuncts

variable {first second third fourth : Bool}

theorem conjuncts₃ (all : (first && second && third) = true) : first ∧ second ∧ third := by
  simpa [and_assoc] using all

theorem conjuncts₄ (all : (first && second && third && fourth) = true) :
    first ∧ second ∧ third ∧ fourth := by
  simpa [and_assoc] using all

end Conjuncts

mutual

theorem Expr.rewrite_eq_of_same : ∀ left right : Expr, left.same right →
    left.rewrite .unsigned = right.rewrite .unsigned
  | .identifier name, right, equal => by
      cases right <;> try cases equal
      next =>
        rw [of_decide_eq_true equal]
  | .literal value, right, equal => by
      cases right <;> try cases equal
      next =>
        exact congrArg Expr.literal (Value.unsigned_eq_of_same equal)
  | .raw sql arguments, right, equal => by
      cases right <;> try cases equal
      next =>
        obtain ⟨here, there⟩ := Bool.and_eq_true_iff.mp equal
        rw [Expr.rewrite, Expr.rewrite, of_decide_eq_true here,
          rewriteExprs_eq_of_same _ _ there]
  | .aliased expr name, right, equal => by
      cases right <;> try cases equal
      next =>
        obtain ⟨here, there⟩ := Bool.and_eq_true_iff.mp equal
        rw [Expr.rewrite, Expr.rewrite, expr.rewrite_eq_of_same _ here,
          of_decide_eq_true there]
  | .comparison operator first second, right, equal => by
      cases right <;> try cases equal
      next =>
        obtain ⟨head, middle, last⟩ := conjuncts₃ equal
        rw [Expr.rewrite, Expr.rewrite, of_decide_eq_true head,
          first.rewrite_eq_of_same _ middle, second.rewrite_eq_of_same _ last]
  | .bitwise operator first second, right, equal => by
      cases right <;> try cases equal
      next =>
        obtain ⟨head, middle, last⟩ := conjuncts₃ equal
        rw [Expr.rewrite, Expr.rewrite, of_decide_eq_true head,
          first.rewrite_eq_of_same _ middle, second.rewrite_eq_of_same _ last]
  | .rightBitwise operator second, right, equal => by
      cases right <;> try cases equal
      next =>
        obtain ⟨here, there⟩ := Bool.and_eq_true_iff.mp equal
        rw [Expr.rewrite, Expr.rewrite, of_decide_eq_true here,
          second.rewrite_eq_of_same _ there]
  | .range test expr low high, right, equal => by
      cases right <;> try cases equal
      next =>
        obtain ⟨one, two, three, four⟩ := conjuncts₄ equal
        rw [Expr.rewrite, Expr.rewrite, of_decide_eq_true one,
          expr.rewrite_eq_of_same _ two, low.rewrite_eq_of_same _ three,
          high.rewrite_eq_of_same _ four]
  | .conditions connective items, right, equal => by
      cases right <;> try cases equal
      next =>
        obtain ⟨here, there⟩ := Bool.and_eq_true_iff.mp equal
        rw [Expr.rewrite, Expr.rewrite, of_decide_eq_true here,
          rewriteExprs_eq_of_same _ _ there]
  | .tuple items, right, equal => by
      cases right <;> try cases equal
      next =>
        rw [Expr.rewrite, Expr.rewrite, rewriteExprs_eq_of_same _ _ equal]
  | .ordered expr direction nulls, right, equal => by
      cases right <;> try cases equal
      next =>
        obtain ⟨head, middle, last⟩ := conjuncts₃ equal
        rw [Expr.rewrite, Expr.rewrite, expr.rewrite_eq_of_same _ head,
          of_decide_eq_true middle, of_decide_eq_true last]
  | .cast expr type, right, equal => by
      cases right <;> try cases equal
      next =>
        obtain ⟨here, there⟩ := Bool.and_eq_true_iff.mp equal
        rw [Expr.rewrite, Expr.rewrite, expr.rewrite_eq_of_same _ here,
          of_decide_eq_true there]
  | .function name arguments distinct window, right, equal => by
      cases right <;> try cases equal
      next =>
        obtain ⟨one, two, three, four⟩ := conjuncts₄ equal
        rw [Expr.rewrite, Expr.rewrite, of_decide_eq_true one, rewriteExprs_eq_of_same _ _ two,
          of_decide_eq_true three, window.rewrite_eq_of_same _ four]
  | .subquery query, right, equal => by
      cases right <;> try cases equal
      next =>
        rw [Expr.rewrite, Expr.rewrite, query.rewrite_eq_of_same _ equal]
  | .not expr, right, equal => by
      cases right <;> try cases equal
      next =>
        rw [Expr.rewrite, Expr.rewrite, expr.rewrite_eq_of_same _ equal]
  | .filter filter, right, equal => by
      cases right <;> try cases equal
      next =>
        rw [Expr.rewrite, Expr.rewrite, filter.rewrite_eq_of_same _ equal]
  | .excluded column, right, equal => by
      cases right <;> try cases equal
      next =>
        rw [of_decide_eq_true equal]
  | .default, right, equal => by
      cases right <;> try cases equal
      rfl
termination_by structural left => left

theorem rewriteExprs_eq_of_same : ∀ left right : List Expr, sameExprs left right →
    rewriteExprs .unsigned left = rewriteExprs .unsigned right
  | [], right, equal => by
      cases right <;> try cases equal
      rfl
  | first :: rest, right, equal => by
      cases right <;> try cases equal
      next =>
        obtain ⟨here, there⟩ := Bool.and_eq_true_iff.mp equal
        rw [rewriteExprs, rewriteExprs, first.rewrite_eq_of_same _ here,
          rewriteExprs_eq_of_same rest _ there]
termination_by structural left => left

theorem Over.rewrite_eq_of_same : ∀ left right : Over, left.same right →
    left.rewrite .unsigned = right.rewrite .unsigned
  | .absent, right, equal => by
      cases right <;> try cases equal
      rfl
  | .named name, right, equal => by
      cases right <;> try cases equal
      next =>
        rw [of_decide_eq_true equal]
  | .inline window, right, equal => by
      cases right <;> try cases equal
      next =>
        rw [Over.rewrite, Over.rewrite, window.rewrite_eq_of_same _ equal]
termination_by structural left => left

theorem Window.rewrite_eq_of_same : ∀ left right : Window, left.same right →
    left.rewrite .unsigned = right.rewrite .unsigned
  | ⟨_, _, partition, order⟩, ⟨_, _, otherPartition, otherOrder⟩, equal => by
      simp only [Window.same, Bool.and_eq_true, decide_eq_true_eq] at equal
      obtain ⟨⟨⟨rfl, rfl⟩, partitions⟩, orders⟩ := equal
      rw [Window.rewrite, Window.rewrite, rewriteExprs_eq_of_same _ _ partitions,
        rewriteExprs_eq_of_same _ _ orders]
termination_by structural left => left

theorem rewriteWindows_eq_of_same : ∀ left right : List Window, sameWindows left right →
    rewriteWindows .unsigned left = rewriteWindows .unsigned right
  | [], right, equal => by
      cases right <;> try cases equal
      rfl
  | first :: rest, right, equal => by
      cases right <;> try cases equal
      next =>
        obtain ⟨here, there⟩ := Bool.and_eq_true_iff.mp equal
        rw [rewriteWindows, rewriteWindows, first.rewrite_eq_of_same _ here,
          rewriteWindows_eq_of_same rest _ there]
termination_by structural left => left

theorem Filter.rewrite_eq_of_same : ∀ left right : Filter, left.same right →
    left.rewrite .unsigned = right.rewrite .unsigned
  | ⟨_, entries⟩, ⟨_, others⟩, equal => by
      simp only [Filter.same, Bool.and_eq_true, decide_eq_true_eq] at equal
      rw [Filter.rewrite, Filter.rewrite, equal.1, rewriteFilterEntries_eq_of_same _ _ equal.2]
termination_by structural left => left

theorem FilterEntry.rewrite_eq_of_same : ∀ left right : FilterEntry, left.same right →
    left.rewrite .unsigned = right.rewrite .unsigned
  | .value column operand, right, equal => by
      cases right <;> try cases equal
      next =>
        obtain ⟨here, there⟩ := Bool.and_eq_true_iff.mp equal
        rw [FilterEntry.rewrite, FilterEntry.rewrite, of_decide_eq_true here,
          operand.rewrite_eq_of_same _ there]
  | .tests column tests, right, equal => by
      cases right <;> try cases equal
      next =>
        obtain ⟨here, there⟩ := Bool.and_eq_true_iff.mp equal
        rw [FilterEntry.rewrite, FilterEntry.rewrite, of_decide_eq_true here,
          rewriteFilterTests_eq_of_same _ _ there]
termination_by structural left => left

theorem rewriteFilterEntries_eq_of_same :
    ∀ left right : List FilterEntry, sameFilterEntries left right →
    rewriteFilterEntries .unsigned left = rewriteFilterEntries .unsigned right
  | [], right, equal => by
      cases right <;> try cases equal
      rfl
  | first :: rest, right, equal => by
      cases right <;> try cases equal
      next =>
        obtain ⟨here, there⟩ := Bool.and_eq_true_iff.mp equal
        rw [rewriteFilterEntries, rewriteFilterEntries, first.rewrite_eq_of_same _ here,
          rewriteFilterEntries_eq_of_same rest _ there]
termination_by structural left => left

theorem FilterTest.rewrite_eq_of_same : ∀ left right : FilterTest, left.same right →
    left.rewrite .unsigned = right.rewrite .unsigned
  | .comparison operator operand, right, equal => by
      cases right <;> try cases equal
      next =>
        obtain ⟨here, there⟩ := Bool.and_eq_true_iff.mp equal
        rw [FilterTest.rewrite, FilterTest.rewrite, of_decide_eq_true here,
          operand.rewrite_eq_of_same _ there]
  | .range test low high, right, equal => by
      cases right <;> try cases equal
      next =>
        obtain ⟨head, middle, last⟩ := conjuncts₃ equal
        rw [FilterTest.rewrite, FilterTest.rewrite, of_decide_eq_true head,
          low.rewrite_eq_of_same _ middle, high.rewrite_eq_of_same _ last]
termination_by structural left => left

theorem rewriteFilterTests_eq_of_same : ∀ left right : List FilterTest, sameFilterTests left right →
    rewriteFilterTests .unsigned left = rewriteFilterTests .unsigned right
  | [], right, equal => by
      cases right <;> try cases equal
      rfl
  | first :: rest, right, equal => by
      cases right <;> try cases equal
      next =>
        obtain ⟨here, there⟩ := Bool.and_eq_true_iff.mp equal
        rw [rewriteFilterTests, rewriteFilterTests, first.rewrite_eq_of_same _ here,
          rewriteFilterTests_eq_of_same rest _ there]
termination_by structural left => left

theorem JoinCondition.rewrite_eq_of_same : ∀ left right : JoinCondition, left.same right →
    left.rewrite .unsigned = right.rewrite .unsigned
  | .none, right, equal => by
      cases right <;> try cases equal
      rfl
  | .on condition, right, equal => by
      cases right <;> try cases equal
      next =>
        rw [JoinCondition.rewrite, JoinCondition.rewrite,
          condition.rewrite_eq_of_same _ equal]
  | .using columns, right, equal => by
      cases right <;> try cases equal
      next =>
        rw [of_decide_eq_true equal]
termination_by structural left => left

theorem Join.rewrite_eq_of_same : ∀ left right : Join, left.same right →
    left.rewrite .unsigned = right.rewrite .unsigned
  | ⟨_, source, condition⟩, ⟨_, otherSource, otherCondition⟩, equal => by
      simp only [Join.same, Bool.and_eq_true, decide_eq_true_eq] at equal
      rw [Join.rewrite, Join.rewrite, equal.1.1, source.rewrite_eq_of_same _ equal.1.2,
        condition.rewrite_eq_of_same _ equal.2]
termination_by structural left => left

theorem rewriteJoins_eq_of_same : ∀ left right : List Join, sameJoins left right →
    rewriteJoins .unsigned left = rewriteJoins .unsigned right
  | [], right, equal => by
      cases right <;> try cases equal
      rfl
  | first :: rest, right, equal => by
      cases right <;> try cases equal
      next =>
        obtain ⟨here, there⟩ := Bool.and_eq_true_iff.mp equal
        rw [rewriteJoins, rewriteJoins, first.rewrite_eq_of_same _ here,
          rewriteJoins_eq_of_same rest _ there]
termination_by structural left => left

theorem CommonTable.rewrite_eq_of_same : ∀ left right : CommonTable, left.same right →
    left.rewrite .unsigned = right.rewrite .unsigned
  | ⟨_, query⟩, ⟨_, other⟩, equal => by
      simp only [CommonTable.same, Bool.and_eq_true, decide_eq_true_eq] at equal
      rw [CommonTable.rewrite, CommonTable.rewrite, equal.1,
        query.rewrite_eq_of_same _ equal.2]
termination_by structural left => left

theorem rewriteCommonTables_eq_of_same : ∀ left right : List CommonTable, sameTables left right →
    rewriteCommonTables .unsigned left = rewriteCommonTables .unsigned right
  | [], right, equal => by
      cases right <;> try cases equal
      rfl
  | first :: rest, right, equal => by
      cases right <;> try cases equal
      next =>
        obtain ⟨here, there⟩ := Bool.and_eq_true_iff.mp equal
        rw [rewriteCommonTables, rewriteCommonTables, first.rewrite_eq_of_same _ here,
          rewriteCommonTables_eq_of_same rest _ there]
termination_by structural left => left

theorem CommonTables.rewrite_eq_of_same : ∀ left right : CommonTables, left.same right →
    left.rewrite .unsigned = right.rewrite .unsigned
  | ⟨_, tables⟩, ⟨_, others⟩, equal => by
      simp only [CommonTables.same, Bool.and_eq_true, decide_eq_true_eq] at equal
      rw [CommonTables.rewrite, CommonTables.rewrite, equal.1,
        rewriteCommonTables_eq_of_same _ _ equal.2]
termination_by structural left => left

theorem Compound.rewrite_eq_of_same : ∀ left right : Compound, left.same right →
    left.rewrite .unsigned = right.rewrite .unsigned
  | ⟨_, query⟩, ⟨_, other⟩, equal => by
      simp only [Compound.same, Bool.and_eq_true, decide_eq_true_eq] at equal
      rw [Compound.rewrite, Compound.rewrite, equal.1,
        query.rewrite_eq_of_same _ equal.2]
termination_by structural left => left

theorem rewriteCompounds_eq_of_same : ∀ left right : List Compound, sameCompounds left right →
    rewriteCompounds .unsigned left = rewriteCompounds .unsigned right
  | [], right, equal => by
      cases right <;> try cases equal
      rfl
  | first :: rest, right, equal => by
      cases right <;> try cases equal
      next =>
        obtain ⟨here, there⟩ := Bool.and_eq_true_iff.mp equal
        rw [rewriteCompounds, rewriteCompounds, first.rewrite_eq_of_same _ here,
          rewriteCompounds_eq_of_same rest _ there]
termination_by structural left => left

theorem Distinct.rewrite_eq_of_same : ∀ left right : Distinct, left.same right →
    left.rewrite .unsigned = right.rewrite .unsigned
  | .none, right, equal => by
      cases right <;> try cases equal
      rfl
  | .all, right, equal => by
      cases right <;> try cases equal
      rfl
  | .on columns, right, equal => by
      cases right <;> try cases equal
      next =>
        rw [Distinct.rewrite, Distinct.rewrite, rewriteExprs_eq_of_same _ _ equal]
termination_by structural left => left

theorem Select.rewrite_eq_of_same : ∀ left right : Select, left.same right →
    left.rewrite .unsigned = right.rewrite .unsigned
  | ⟨tables, distinct, columns, sources, joins, conditions, groups, groupConditions, windows,
      compounds, order, _, _, _⟩,
    ⟨otherTables, otherDistinct, _, _, _, _, _, _, _, _, _, _, _, _⟩, equal => by
      simp only [Select.same, Bool.and_eq_true, decide_eq_true_eq] at equal
      obtain ⟨⟨⟨⟨⟨⟨⟨⟨⟨⟨⟨⟨⟨tablesSame, distinctSame⟩, columnsSame⟩, sourcesSame⟩, joinsSame⟩,
        conditionsSame⟩, groupsSame⟩, groupConditionsSame⟩, windowsSame⟩, compoundsSame⟩,
        orderSame⟩, rfl⟩, rfl⟩, rfl⟩ := equal
      rw [Select.rewrite, Select.rewrite, tables.rewrite_eq_of_same _ tablesSame,
        distinct.rewrite_eq_of_same _ distinctSame, rewriteExprs_eq_of_same _ _ columnsSame,
        rewriteExprs_eq_of_same _ _ sourcesSame, rewriteJoins_eq_of_same _ _ joinsSame,
        rewriteExprs_eq_of_same _ _ conditionsSame, rewriteExprs_eq_of_same _ _ groupsSame,
        rewriteExprs_eq_of_same _ _ groupConditionsSame, rewriteWindows_eq_of_same _ _ windowsSame,
        rewriteCompounds_eq_of_same _ _ compoundsSame, rewriteExprs_eq_of_same _ _ orderSame]
termination_by structural left => left

end

end SqlDialects
