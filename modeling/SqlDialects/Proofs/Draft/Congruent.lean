import Mathlib.Data.List.Forall2
import SqlDialects.Draft.Insert
import SqlDialects.Proofs.Draft.Pieces
import SqlDialects.Proofs.Draft.Supports

/-!
Relations between drafts that go from the parts of a draft to the whole: texts around and between
related drafts, checks that depend on no dialect, and the fragments of a query by one order.
-/

namespace SqlDialects

open Draft

theorem forall₂_map {α β : Type} {related : β → β → Prop} {items : List α} {left right : α → β}
    (each : ∀ item ∈ items, related (left item) (right item)) :
    List.Forall₂ related (items.map left) (items.map right) := by
  rw [List.forall₂_map_left_iff, List.forall₂_map_right_iff, List.forall₂_same]
  exact each

namespace Draft

structure Condition.Related (related : Draft → Draft → Prop) (left right : Condition) : Prop where
  isEmpty : right.isEmpty = left.isEmpty
  isList : right.isList = left.isList
  draft : ∀ nested, related (left.draft nested) (right.draft nested)

inductive JoinPart.Related (related : Draft → Draft → Prop) : JoinPart → JoinPart → Prop
  | none : Related related .none .none
  | on {left right : Draft} (conditions : related left right) :
      Related related (.on left) (.on right)
  | using (columns : List String) : Related related (.using columns) (.using columns)

/-- A relation that goes from the parts of drafts to the whole. It tells words apart where `same`
holds. -/
structure Congruent (same : Prop) (related : Draft → Draft → Prop) : Prop where
  nil : related [] []
  append : ∀ {left right left' right' : Draft}, related left right → related left' right' →
    related (left ++ left') (right ++ right')
  word : ∀ {text text' : String}, (same → text' = text) → related (ofText text) (ofText text')
  rowCount : ∀ number, related [.value .rowCount (.integer number)]
    [.value .rowCount (.integer number)]
  invalid : ∀ defect, related (invalid defect) (invalid defect)

namespace Congruent

variable {same : Prop} {related : Draft → Draft → Prop} (congruent : Congruent same related)

include congruent

theorem related_ofText (text : String) : related (ofText text) (ofText text) :=
  congruent.word fun _ => rfl

theorem related_separated (separator : String) {left right : List Draft}
    (each : List.Forall₂ related left right) :
    related (separated separator left) (separated separator right) := by
  unfold separated
  induction each with
  | nil => exact congruent.nil
  | cons head tail ih =>
      cases tail with
      | nil => simpa using head
      | cons next others =>
          rw [List.intercalate_cons_cons, List.intercalate_cons_cons]
          exact congruent.append (congruent.append head (congruent.related_ofText separator)) ih

theorem related_commaSeparated {left right : List Draft}
    (each : List.Forall₂ related left right) :
    related (commaSeparated left) (commaSeparated right) :=
  congruent.related_separated ", " each

theorem related_enclosed {opening opening' closing closing' : String} {left right : Draft}
    (opened : same → opening' = opening) (closed : same → closing' = closing)
    (inside : related left right) :
    related (enclosed opening left closing) (enclosed opening' right closing') :=
  congruent.append (congruent.append (congruent.word opened) inside) (congruent.word closed)

theorem related_wrapped (opening closing : String) {left right : Draft}
    (inside : related left right) :
    related (enclosed opening left closing) (enclosed opening right closing) :=
  congruent.related_enclosed (fun _ => rfl) (fun _ => rfl) inside

theorem related_parenthesizedIf (nested : Bool) {left right : Draft}
    (inside : related left right) :
    related (parenthesizedIf nested left) (parenthesizedIf nested right) := by
  cases nested with
  | false => exact inside
  | true => exact congruent.related_wrapped "(" ")" inside

theorem related_rowCount (rows : Nat) :
    related (Draft.rowCount rows) (Draft.rowCount rows) := by
  unfold Draft.rowCount
  split
  · exact congruent.rowCount _
  · exact congruent.invalid _

theorem related_rows (rows : Option Nat) : related (Draft.rows rows) (Draft.rows rows) := by
  cases rows with
  | none => exact congruent.nil
  | some rows => exact congruent.related_rowCount rows

theorem related_range (test : RangeTest) {expr expr' low low' high high' : Draft}
    (exprRelated : related expr expr') (lowRelated : related low low')
    (highRelated : related high high') :
    related (Draft.range test expr low high) (Draft.range test expr' low' high') :=
  congruent.append (congruent.append (congruent.append (congruent.append exprRelated
    (congruent.related_ofText _)) lowRelated) (congruent.related_ofText _)) highRelated

theorem related_conditions (connective : Connective) (nested : Bool)
    {left right : List Condition} (each : List.Forall₂ (Condition.Related related) left right) :
    related (Draft.conditions connective nested left)
      (Draft.conditions connective nested right) := by
  have asked : List.Forall₂ (Condition.Related related) (left.filter fun item => !item.isEmpty)
      (right.filter fun item => !item.isEmpty) := by
    refine List.rel_filter ?_ each
    intro item other alike
    simp [alike.isEmpty]
  unfold Draft.conditions
  generalize left.filter (fun item => !item.isEmpty) = kept at asked ⊢
  generalize right.filter (fun item => !item.isEmpty) = kept' at asked ⊢
  cases asked with
  | nil => exact congruent.invalid _
  | cons head tail =>
      cases tail with
      | nil => exact head.draft nested
      | cons next others =>
          apply congruent.related_parenthesizedIf
          apply congruent.related_separated
          have inside : ∀ item other : Condition, item.Related related other →
              related (item.draft item.isList) (other.draft other.isList) := by
            intro item other alike
            rw [alike.isList]
            exact alike.draft item.isList
          exact List.rel_map (fun item other => inside item other) (.cons head (.cons next others))

theorem related_raw (sql : String) (texts : List String) {left right : List Draft}
    (each : List.Forall₂ related left right) :
    related (Draft.raw sql texts left) (Draft.raw sql texts right) := by
  fun_induction Draft.raw sql texts left generalizing right with
  | case1 =>
      cases each
      exact congruent.nil
  | case2 =>
      cases each
      exact congruent.invalid _
  | case3 =>
      cases each
      exact congruent.related_ofText _
  | case4 =>
      cases each
      exact congruent.append (congruent.related_ofText _) (congruent.invalid _)
  | case5 =>
      cases each
      exact congruent.append (congruent.related_ofText _) (congruent.invalid _)
  | case6 piece next rest argument arguments ih =>
      cases each with
      | cons head tail =>
          exact congruent.append (congruent.append (congruent.related_ofText _) head) (ih tail)

theorem related_call (name : String) (distinct : Bool) {left right : List Draft}
    (each : List.Forall₂ related left right) :
    related (Draft.call name left distinct) (Draft.call name right distinct) := by
  unfold Draft.call
  split
  · exact congruent.invalid _
  · apply congruent.related_wrapped
    refine congruent.append ?_ (congruent.related_commaSeparated each)
    cases distinct with
    | false => exact congruent.nil
    | true => exact congruent.related_ofText _

theorem related_listed (opening : String) {left right : List Draft}
    (each : List.Forall₂ related left right) :
    related (ofText opening ++ commaSeparated left) (ofText opening ++ commaSeparated right) :=
  congruent.append (congruent.related_ofText opening) (congruent.related_commaSeparated each)

theorem related_columns {left right : List Draft} (each : List.Forall₂ related left right) :
    related (Draft.columns left) (Draft.columns right) := by
  cases each with
  | nil => exact congruent.append (congruent.related_ofText " ") (congruent.related_ofText "*")
  | cons head tail => exact congruent.related_listed " " (.cons head tail)

theorem related_asked (opening : String) {left right : List Condition}
    (each : List.Forall₂ (Condition.Related related) left right) :
    related (ofText opening ++ Draft.conditions .and false left)
      (ofText opening ++ Draft.conditions .and false right) :=
  congruent.append (congruent.related_ofText opening) (congruent.related_conditions .and false each)

theorem related_columnList {left right : List Draft} (each : List.Forall₂ related left right) :
    related (Draft.columnList left) (Draft.columnList right) := by
  cases each with
  | nil => exact congruent.nil
  | cons head tail =>
      exact congruent.related_wrapped " (" ")" (congruent.related_commaSeparated (.cons head tail))

theorem related_tuples {left right : List (List Draft)}
    (each : List.Forall₂ (List.Forall₂ related) left right) :
    related (Draft.tuples left) (Draft.tuples right) :=
  congruent.related_listed " VALUES " (List.rel_map (fun _ _ cells =>
    congruent.related_wrapped "(" ")" (congruent.related_commaSeparated cells)) each)

theorem related_rowFaults (columns index : Nat) (rows : List (List Expr)) :
    related (Draft.rowFaults columns index rows) (Draft.rowFaults columns index rows) := by
  fun_induction Draft.rowFaults columns index rows with
  | case1 => exact congruent.nil
  | case2 => exact congruent.invalid _
  | case3 => exact congruent.invalid _
  | case4 _ _ _ _ _ ih => exact ih

theorem related_recordFaults (columns : List String) (index : Nat) (records : List Record) :
    related (Draft.recordFaults columns index records)
      (Draft.recordFaults columns index records) := by
  fun_induction Draft.recordFaults columns index records with
  | case1 => exact congruent.nil
  | case2 => exact congruent.invalid _
  | case3 _ _ _ _ _ ih => exact ih
  | case4 => exact congruent.invalid _

theorem related_duplicateDraft (record : Record) :
    related record.duplicateDraft record.duplicateDraft := by
  unfold Record.duplicateDraft
  split
  · exact congruent.invalid _
  · exact congruent.nil

end Congruent

end Draft

structure SelectParts.Related (related : Draft → Draft → Prop) (left right : SelectParts) :
    Prop where
  carried : right.carried = left.carried
  hasOffset : right.hasOffset = left.hasOffset
  commonTables : related left.commonTables right.commonTables
  opening : related left.opening right.opening
  columns : related left.columns right.columns
  sources : related left.sources right.sources
  joins : related left.joins right.joins
  conditions : related left.conditions right.conditions
  groups : related left.groups right.groups
  groupConditions : related left.groupConditions right.groupConditions
  windows : related left.windows right.windows
  compounds : related left.compounds right.compounds
  order : related left.order right.order
  limit : related left.limit right.limit
  offset : related left.offset right.offset
  lock : related left.lock right.lock

structure Portion.Related (related : Draft → Draft → Prop) (left right : Portion) : Prop where
  pending : right.pending = left.pending
  draft : related left.draft right.draft

namespace Draft.Congruent

variable {same : Prop} {related : Draft → Draft → Prop} (congruent : Congruent same related)

include congruent

theorem related_take {left right : Draft} (inside : related left right) (clause : Clause)
    (pending : List Clause) :
    (Portion.take clause left pending).Related related (.take clause right pending) := by
  unfold Portion.take
  split
  · exact ⟨rfl, inside⟩
  · exact ⟨rfl, congruent.nil⟩

theorem related_columnsWithLimit {left right : SelectParts} (parts : left.Related related right)
    (pending : List Clause) :
    (left.columnsWithLimit pending).Related related (right.columnsWithLimit pending) := by
  unfold SelectParts.columnsWithLimit
  rw [parts.hasOffset]
  split
  · simp only
    split
    · exact ⟨rfl, congruent.append (congruent.append parts.opening
        (congruent.related_wrapped _ _ parts.limit)) parts.columns⟩
    · exact ⟨rfl, congruent.append parts.opening parts.columns⟩
  · exact ⟨rfl, congruent.nil⟩

theorem related_orderWithOffsetFetch {left right : SelectParts}
    (parts : left.Related related right) (pending : List Clause) :
    (left.orderWithOffsetFetch pending).Related related (right.orderWithOffsetFetch pending) := by
  have written := congruent.append parts.order
    (congruent.related_wrapped " OFFSET " " ROWS" parts.offset)
  unfold SelectParts.orderWithOffsetFetch
  split
  · split
    · simp only
      split
      · exact ⟨rfl, congruent.append written (congruent.related_wrapped _ _ parts.limit)⟩
      · exact ⟨rfl, written⟩
    · exact ⟨rfl, congruent.invalid _⟩
  · exact congruent.related_take parts.order .order pending

theorem related_portion? {left right : SelectParts} (parts : left.Related related right)
    (fragment : Fragment) (pending : List Clause) :
    Option.Rel (Portion.Related related) (left.portion? fragment pending)
      (right.portion? fragment pending) := by
  cases fragment with
  | commonTables => exact .some (congruent.related_take parts.commonTables _ _)
  | select =>
      exact .some (congruent.related_take (congruent.append parts.opening parts.columns) _ _)
  | selectWithLimit => exact .some (congruent.related_columnsWithLimit parts pending)
  | sources => exact .some (congruent.related_take parts.sources _ _)
  | joins => exact .some (congruent.related_take parts.joins _ _)
  | conditions => exact .some (congruent.related_take parts.conditions _ _)
  | groups => exact .some (congruent.related_take parts.groups _ _)
  | groupConditions => exact .some (congruent.related_take parts.groupConditions _ _)
  | windows => exact .some (congruent.related_take parts.windows _ _)
  | compounds => exact .some (congruent.related_take parts.compounds _ _)
  | order => exact .some (congruent.related_take parts.order _ _)
  | orderWithOffsetFetch => exact .some (congruent.related_orderWithOffsetFetch parts pending)
  | limit =>
      exact .some (congruent.related_take
        (congruent.append (congruent.related_ofText " LIMIT ") parts.limit) _ _)
  | offset =>
      exact .some (congruent.related_take
        (congruent.append (congruent.related_ofText " OFFSET ") parts.offset) _ _)
  | lock => exact .some (congruent.related_take parts.lock _ _)
  | _ => exact .none

section Assembly

variable {first second : String}
  (misconfigured : ∀ cause,
    related (Draft.misconfigured first cause) (Draft.misconfigured second cause))
  (unsupported : ∀ feature,
    related (Draft.unsupported first feature) (Draft.unsupported second feature))

include misconfigured unsupported

theorem related_assemble {kind : StatementKind}
    {left right : Fragment → List Clause → Option Portion}
    (portions : ∀ fragment pending,
      Option.Rel (Portion.Related related) (left fragment pending) (right fragment pending))
    (order : List Fragment) (pending : List Clause) :
    related (assemble first kind left order pending)
      (assemble second kind right order pending) := by
  induction order generalizing pending with
  | nil =>
      cases pending with
      | nil => exact congruent.nil
      | cons clause rest =>
          simp only [assemble, remainder]
          split
          · exact misconfigured _
          · exact unsupported _
  | cons fragment rest ih =>
      have portion := portions fragment pending
      simp only [assemble]
      generalize left fragment pending = before at portion ⊢
      generalize right fragment pending = after at portion ⊢
      cases portion with
      | none => exact misconfigured _
      | some written =>
          simp only [written.pending]
          exact congruent.append written.draft (ih _)

theorem related_select {left right : SelectParts} (parts : left.Related related right)
    (order : List Fragment) :
    related (left.draft first order) (right.draft second order) := by
  unfold SelectParts.draft
  rw [parts.carried]
  exact congruent.related_assemble misconfigured unsupported (congruent.related_portion? parts)
    order left.carried

end Assembly

end Draft.Congruent

end SqlDialects
