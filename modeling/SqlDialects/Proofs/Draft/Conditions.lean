import SqlDialects.Proofs.Draft.Places

/-!
Lists of conditions. What is drafted of a list depends on those of its items only that ask
something.
-/

namespace SqlDialects

open Draft

def asking (conditions : List Expr) : List Expr :=
  conditions.filter fun condition => !condition.isEmptyCondition

theorem asking_eq_nil_iff {conditions : List Expr} :
    asking conditions = [] ↔ allEmptyConditions conditions = true := by
  simp [asking, allEmptyConditions_eq_all]

theorem asking_conditionItems (dialect : NamedDialect) (conditions : List Expr) :
    (conditionItems dialect conditions).filter (fun item => !item.isEmpty) =
      conditionItems dialect (asking conditions) := by
  simp only [conditionItems_eq_map, List.filter_map, asking]
  rfl

theorem asking_append (first second : List Expr) :
    asking (first ++ second) = asking first ++ asking second :=
  List.filter_append _ _

theorem asking_cons_of_empty {condition : Expr} (empty : condition.isEmptyCondition)
    (conditions : List Expr) : asking (condition :: conditions) = asking conditions :=
  List.filter_cons_of_neg (by simp [empty])

theorem asking_cons_of_asks {condition : Expr} (asks : condition.isEmptyCondition = false)
    (conditions : List Expr) :
    asking (condition :: conditions) = condition :: asking conditions :=
  List.filter_cons_of_pos (by simp [asks])

/-- Lists of conditions with the same questions in the same order. -/
def AskAlike (first second : List Expr) : Prop :=
  List.Forall₂ (Expr.Alike true) (asking first) (asking second)

namespace AskAlike

variable {first second : List Expr} {left right : Expr}

theorem cons (here : left.Alike true right) (later : AskAlike first second) :
    AskAlike (left :: first) (right :: second) := by
  have same := here.isEmptyCondition rfl
  unfold AskAlike
  cases empty : right.isEmptyCondition with
  | true =>
      rw [asking_cons_of_empty (same.trans empty), asking_cons_of_empty empty]
      exact later
  | false =>
      rw [asking_cons_of_asks (same.trans empty), asking_cons_of_asks empty]
      exact .cons here later

theorem refl (conditions : List Expr) : AskAlike conditions conditions :=
  List.forall₂_same.mpr fun condition _ => .refl true condition

theorem append_left (before : List Expr) (alike : AskAlike first second) :
    AskAlike (before ++ first) (before ++ second) := by
  unfold AskAlike
  rw [asking_append, asking_append]
  exact List.rel_append (refl before) alike

theorem allEmptyConditions_eq (alike : AskAlike first second) :
    allEmptyConditions first = allEmptyConditions second := by
  rw [Bool.eq_iff_iff, ← asking_eq_nil_iff, ← asking_eq_nil_iff, ← List.isEmpty_iff,
    ← List.isEmpty_iff, isEmpty_congr alike]

theorem conditions_eq (alike : AskAlike first second) (dialect : NamedDialect)
    (connective : Connective)
    (nested : Bool) :
    conditions connective nested (conditionItems dialect first) =
      conditions connective nested (conditionItems dialect second) := by
  unfold conditions
  rw [asking_conditionItems, asking_conditionItems, conditionItems_congr alike]

theorem alike_conditions (alike : AskAlike first second) (skips : Bool) (connective : Connective) :
    (Expr.conditions connective first).Alike skips (.conditions connective second) where
  draft dialect nested := alike.conditions_eq dialect connective nested
  look := rfl
  isEmptyCondition _ := alike.allEmptyConditions_eq

end AskAlike

theorem conditions_of_conjunction (dialect : NamedDialect) (items : List Expr) :
    conditions .and false (conditionItems dialect [.conditions .and items]) =
      conditions .and false (conditionItems dialect items) := by
  cases empty : (Expr.conditions .and items).isEmptyCondition with
  | false =>
      conv_lhs => unfold conditions
      rw [asking_conditionItems, asking_cons_of_asks empty]
      rfl
  | true =>
      have none : asking items = [] := asking_eq_nil_iff.mpr empty
      unfold conditions
      rw [asking_conditionItems, asking_conditionItems, asking_cons_of_empty empty, none]
      rfl

end SqlDialects
