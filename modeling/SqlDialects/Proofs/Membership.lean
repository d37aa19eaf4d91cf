import SqlDialects.Dialect.Bundled
import SqlDialects.Expr.Builder
import SqlDialects.Proofs.Outcome

/-!
Membership in a list, in the three-valued logic of SQL. A predicate holds for a value that equals an
item, and its negation for a value of which every item is known to differ; an empty list is written
as a list of null, of which nothing is known.
-/

namespace SqlDialects

open Draft

inductive Truth where
  | yes
  | no
  | unknown
deriving DecidableEq, Repr

namespace Truth

def ofBool (truth : Bool) : Truth :=
  if truth then yes else no

def not : Truth → Truth
  | yes => no
  | no => yes
  | unknown => unknown

def or : Truth → Truth → Truth
  | yes, _ | _, yes => yes
  | no, no => no
  | _, _ => unknown

@[simp] theorem not_eq_yes_iff {truth : Truth} : truth.not = yes ↔ truth = no := by
  cases truth <;> decide

@[simp] theorem or_eq_yes_iff {left right : Truth} :
    left.or right = yes ↔ left = yes ∨ right = yes := by
  cases left <;> cases right <;> decide

@[simp] theorem or_eq_no_iff {left right : Truth} :
    left.or right = no ↔ left = no ∧ right = no := by
  cases left <;> cases right <;> decide

@[simp] theorem ofBool_eq_yes_iff {truth : Bool} : ofBool truth = yes ↔ truth = true := by
  cases truth <;> decide

@[simp] theorem ofBool_eq_no_iff {truth : Bool} : ofBool truth = no ↔ truth = false := by
  cases truth <;> decide

end Truth

/-- What is known of the equality of two values, by an equality of those that are not null. -/
def Value.equals (equal : Value → Value → Bool) (left right : Value) : Truth :=
  if left.isNull || right.isNull then .unknown else .ofBool (equal left right)

/-- A predicate `IN` or `NOT IN`; its list has at least one item. -/
structure Membership where
  negated : Bool
  first : Value
  rest : List Value

namespace Membership

def items (membership : Membership) : List Value :=
  membership.first :: membership.rest

def found (equal : Value → Value → Bool) (value : Value) : List Value → Truth
  | [] => .no
  | item :: rest => (value.equals equal item).or (found equal value rest)

def truth (membership : Membership) (equal : Value → Value → Bool) (value : Value) : Truth :=
  let found := found equal value membership.items
  if membership.negated then found.not else found

def keyword (negated : Bool) : String :=
  if negated then "NOT IN" else "IN"

def draft (membership : Membership) (dialect : Dialect) (operand : Draft) : Draft :=
  operand ++ ofText (" " ++ keyword membership.negated ++ " ")
    ++ parenthesized (commaSeparated (membership.items.map dialect.valueDraft))

/-- The predicate for a list; for an empty one a null is its only item. -/
def ofList (negated : Bool) : List Value → Membership
  | [] => ⟨negated, .null, []⟩
  | first :: rest => ⟨negated, first, rest⟩

end Membership

/-- The condition that an operand is among the values, or that it is not. -/
def Expr.amid (operand : Expr) (negated : Bool) (values : List Value) : Expr :=
  .compare (if negated then .isNotIn else .isIn) operand (.tuple (values.map .literal))

section Truth

variable {equal : Value → Value → Bool} {value : Value} {items : List Value}

theorem Value.equals_of_known {item : Value} (known : value.isNull = false)
    (given : item.isNull = false) : value.equals equal item = .ofBool (equal value item) := by
  simp [equals, known, given]

variable (known : value.isNull = false) (given : ∀ item ∈ items, item.isNull = false)

include known given

theorem Membership.found_eq_yes_iff :
    found equal value items = .yes ↔ ∃ item ∈ items, equal value item = true := by
  induction items with
  | nil => simp [found]
  | cons item rest ih =>
      obtain ⟨here, later⟩ := List.forall_mem_cons.mp given
      simp [found, Value.equals_of_known known here, ih later]

theorem Membership.found_eq_no_iff :
    found equal value items = .no ↔ ∀ item ∈ items, equal value item = false := by
  induction items with
  | nil => simp [found]
  | cons item rest ih =>
      obtain ⟨here, later⟩ := List.forall_mem_cons.mp given
      simp [found, Value.equals_of_known known here, ih later]

theorem Membership.truth_ofList_eq_yes_iff :
    (ofList false items).truth equal value = .yes ↔ ∃ item ∈ items, equal value item = true := by
  cases items with
  | nil => simp [truth, ofList, Membership.items, found, Value.equals, Value.isNull]
  | cons first rest => exact found_eq_yes_iff known given

theorem Membership.truth_ofList_negated_eq_yes_iff :
    (ofList true items).truth equal value = .yes ↔
      items ≠ [] ∧ ∀ item ∈ items, equal value item = false := by
  cases items with
  | nil => simp [truth, ofList, Membership.items, found, Value.equals, Value.isNull]
  | cons first rest => simp [truth, ofList, Membership.items, found_eq_no_iff known given]

end Truth

theorem Membership.truth_ofList_nil (negated : Bool) (equal : Value → Value → Bool)
    (value : Value) : (ofList negated []).truth equal value = .unknown := by
  cases negated <;> simp [truth, ofList, items, found, Value.equals, Value.isNull] <;> decide

section Writing

variable {writeValue : Nat → Value → Except Failure Compiled}

theorem BundledDialect.write_emptyTuple (bundled : BundledDialect) (count : Nat) :
    (bundled.dialect.tupleDraft []).write writeValue count =
      (parenthesized (commaSeparated [bundled.dialect.valueDraft .null])).write writeValue
        count := by
  cases bundled <;> rfl

theorem write_append_congr {first second other : Draft}
    (same : ∀ count, second.write writeValue count = other.write writeValue count) (count : Nat) :
    (first ++ second).write writeValue count = (first ++ other).write writeValue count := by
  rw [write_append, write_append, same]

theorem write_parenthesizedIf_congr {draft other : Draft} (nested : Bool)
    (same : ∀ count, draft.write writeValue count = other.write writeValue count) (count : Nat) :
    (parenthesizedIf nested draft).write writeValue count =
      (parenthesizedIf nested other).write writeValue count := by
  cases nested with
  | false => exact same count
  | true => simp only [parenthesizedIf, if_true, parenthesized, write_enclosed, same]

end Writing

theorem Expr.draft_amid (bundled : BundledDialect) (name : String) (operand : Expr) (negated : Bool)
    (values : List Value) (nested : Bool) :
    (operand.amid negated values).draft ⟨bundled.dialect, name⟩ nested =
      parenthesizedIf nested (operand.draft ⟨bundled.dialect, name⟩ true
        ++ ofText (" " ++ Membership.keyword negated ++ " ")
        ++ bundled.dialect.tupleDraft (values.map bundled.dialect.valueDraft)) := by
  have items : expressionDrafts ⟨bundled.dialect, name⟩ false (values.map .literal) =
      values.map bundled.dialect.valueDraft := by
    rw [expressionDrafts_eq_map, List.map_map]
    exact List.map_congr_left fun value _ => by simp only [Function.comp, draft]
  cases negated <;> cases bundled <;>
    simp only [amid, compare, draft, items] <;> rfl

theorem Expr.write_amid (bundled : BundledDialect) (name : String) (operand : Expr)
    (negated : Bool) (values : List Value) (nested : Bool) (mode : Mode) (count : Nat) :
    ((operand.amid negated values).draft ⟨bundled.dialect, name⟩ nested).write
        (mode.writeValue ⟨bundled.dialect, name⟩) count =
      (parenthesizedIf nested ((Membership.ofList negated values).draft bundled.dialect
        (operand.draft ⟨bundled.dialect, name⟩ true))).write
          (mode.writeValue ⟨bundled.dialect, name⟩) count := by
  rw [operand.draft_amid]
  refine write_parenthesizedIf_congr nested (fun count => ?_) count
  cases values with
  | nil =>
      cases negated <;> exact write_append_congr bundled.write_emptyTuple count
  | cons first rest =>
      cases negated <;> rfl

/-- A membership is written as a predicate of SQL that holds for just the values in its list. So
does its negation for just the values out of the list, as long as the list is not empty; of an empty
list nothing is known, and neither predicate holds for any value. -/
theorem negated_membership_complements (bundled : BundledDialect) (name : String)
    (operand : Expr) (values : List Value) :
    (∀ negated nested (mode : Mode) count,
      ((operand.amid negated values).draft ⟨bundled.dialect, name⟩ nested).write
          (mode.writeValue ⟨bundled.dialect, name⟩) count =
        (parenthesizedIf nested ((Membership.ofList negated values).draft bundled.dialect
          (operand.draft ⟨bundled.dialect, name⟩ true))).write
            (mode.writeValue ⟨bundled.dialect, name⟩) count) ∧
    (∀ equal value, value.isNull = false → (∀ item ∈ values, item.isNull = false) →
      ((Membership.ofList false values).truth equal value = .yes ↔
        ∃ item ∈ values, equal value item = true) ∧
      ((Membership.ofList true values).truth equal value = .yes ↔
        values ≠ [] ∧ ¬∃ item ∈ values, equal value item = true)) ∧
    (values = [] → ∀ negated equal value,
      (Membership.ofList negated values).truth equal value = .unknown) := by
  refine ⟨fun negated nested mode count => operand.write_amid bundled name negated values nested
    mode count, fun equal value known given =>
      ⟨Membership.truth_ofList_eq_yes_iff known given, ?_⟩, ?_⟩
  · simpa using Membership.truth_ofList_negated_eq_yes_iff known given
  · rintro rfl negated equal value
    exact Membership.truth_ofList_nil negated equal value

def jobsWithout (ids : List Value) : Statement :=
  .select { Select.empty with
    sources := [.column "jobs"]
    conditions := [.amid (.column "id") true ids] }

theorem negated_membership_complements_jobs :
    compile (jobsWithout [.integer 1, .integer 2]) "default" .standard .inline =
      .ok ⟨"SELECT * FROM \"jobs\" WHERE \"id\" NOT IN (1, 2)", []⟩ ∧
    ((Expr.amid (.column "id") true [.integer 1, .integer 2]).draft ⟨.standard, "default"⟩
        false).write (Mode.inline.writeValue ⟨.standard, "default"⟩) 0 =
      .ok ⟨"\"id\" NOT IN (1, 2)", []⟩ ∧
    (Membership.ofList true [.integer 1, .integer 2]).truth Value.same (.integer 3) = .yes ∧
    (Membership.ofList true [.integer 1, .integer 2]).truth Value.same (.integer 2) ≠ .yes := by
  obtain ⟨written, holds, -⟩ := negated_membership_complements .standard "default"
    (.column "id") [.integer 1, .integer 2]
  have given : ∀ item ∈ [Value.integer 1, .integer 2], item.isNull = false := by decide
  refine ⟨rfl, (written true false .inline 0).trans rfl, ?_, ?_⟩
  · exact (holds Value.same (.integer 3) rfl given).2.mpr (by decide)
  · exact fun held => absurd ((holds Value.same (.integer 2) rfl given).2.mp held).2 (by decide)

theorem empty_list_excludes_everything :
    compile (jobsWithout []) "default" .standard .inline =
      .ok ⟨"SELECT * FROM \"jobs\" WHERE \"id\" NOT IN (NULL)", []⟩ ∧
    ((Expr.amid (.column "id") true []).draft ⟨.standard, "default"⟩ false).write
        (Mode.inline.writeValue ⟨.standard, "default"⟩) 0 =
      ((Membership.ofList true []).draft .standard
          ((Expr.column "id").draft ⟨.standard, "default"⟩ true)).write
        (Mode.inline.writeValue ⟨.standard, "default"⟩) 0 ∧
    Value.integer 1 ∉ ([] : List Value) ∧
    (Membership.ofList true []).truth Value.same (.integer 1) ≠ .yes := by
  refine ⟨rfl, Expr.write_amid .standard "default" (.column "id") true [] false .inline 0,
    by simp, ?_⟩
  decide

end SqlDialects
