import SqlDialects.Proofs.ValueTables

/-!
The lists that a statement gives to its clauses, at every depth. In a clean draft each of them
stands with the words of its clause around it, and all but the list of `DISTINCT ON` have been
checked not to be empty or are left out where they are.
-/

namespace SqlDialects

open Draft

inductive ListPlace where
  | distinctOn
  | joinColumns
  | insertColumns
  | tuple
  | conflictTarget
  | assignments
  | conflictAssignments
  | truncatedTables
deriving DecidableEq, Repr

namespace ListPlace

/-- Nothing is written of an empty list there. -/
def isOptional : ListPlace → Bool
  | insertColumns | conflictTarget => true
  | _ => false

def draft (dialect : Dialect) (items : List Draft) : ListPlace → Draft
  | distinctOn => enclosed (dialect.keywords.distinct ++ " ON (") (commaSeparated items) ")"
  | joinColumns => enclosed " USING (" (commaSeparated items) ")"
  | insertColumns | conflictTarget => columnList items
  | tuple => parenthesized (commaSeparated items)
  | assignments => ofText " SET " ++ commaSeparated items
  | conflictAssignments => ofText dialect.keywords.doUpdate ++ commaSeparated items
  | truncatedTables => ofText dialect.keywords.truncate ++ ofText " " ++ commaSeparated items

def text (dialect : Dialect) (texts : List String) : ListPlace → String
  | distinctOn => dialect.keywords.distinct ++ " ON (" ++ ", ".intercalate texts ++ ")"
  | joinColumns => " USING (" ++ ", ".intercalate texts ++ ")"
  | insertColumns | conflictTarget => columnListText texts
  | tuple => "(" ++ ", ".intercalate texts ++ ")"
  | assignments => " SET " ++ ", ".intercalate texts
  | conflictAssignments => dialect.keywords.doUpdate ++ ", ".intercalate texts
  | truncatedTables => dialect.keywords.truncate ++ " " ++ ", ".intercalate texts

end ListPlace

structure ClauseList where
  place : ListPlace
  items : List Draft

namespace ClauseList

def draft (list : ClauseList) (dialect : Dialect) : Draft :=
  list.place.draft dialect list.items

/-- The list is filled, or of a place that does not ask for it. -/
def Checked (list : ClauseList) : Prop :=
  list.items = [] → list.place = .distinctOn ∨ list.place.isOptional

end ClauseList

def Distinct.lists (dialect : NamedDialect) : Distinct → List ClauseList
  | .none | .all => []
  | .on columns => [⟨.distinctOn, expressionDrafts dialect false columns⟩]

def JoinCondition.lists (dialect : Dialect) : JoinCondition → List ClauseList
  | .none | .on _ => []
  | .using columns => [⟨.joinColumns, columns.map dialect.nameDraft⟩]

def Subterm.lists (dialect : NamedDialect) : Subterm → List ClauseList
  | .expr _ => []
  | .query whole =>
      whole.distinct.lists dialect
        ++ whole.joins.flatMap fun join => join.condition.lists dialect

def Insert.sourceLists (insertion : Insert) (dialect : NamedDialect) : List ClauseList :=
  ⟨.insertColumns, insertion.columnDrafts dialect⟩
    :: (insertion.source.rows?.getD []).map fun row =>
      ⟨.tuple, expressionDrafts dialect false row⟩

def Conflict.lists (dialect : NamedDialect) (conflict : Conflict) : List ClauseList :=
  ⟨.conflictTarget, conflict.target.map dialect.nameDraft⟩ ::
    match conflict.action with
    | .nothing => []
    | .update assignments _ =>
        [⟨.conflictAssignments, assignments.entries.map (assignmentDraft dialect)⟩]

namespace Statement

def ownLists (dialect : NamedDialect) : Statement → List ClauseList
  | .select _ | .delete _ => []
  | .insert insertion =>
      insertion.sourceLists dialect ++ insertion.conflict.toList.flatMap (Conflict.lists dialect)
  | .update change =>
      [⟨.assignments, change.assignments.entries.map (assignmentDraft dialect)⟩]
  | .truncate truncation =>
      [⟨.truncatedTables, expressionDrafts dialect false truncation.tables⟩]

def lists (statement : Statement) (dialect : NamedDialect) : List ClauseList :=
  statement.ownLists dialect ++ statement.subterms.flatMap (Subterm.lists dialect)

end Statement

section Within

variable {dialect : NamedDialect} {whole : Draft}

def AllListed (dialect : NamedDialect) (whole : Draft) (lists : List ClauseList) : Prop :=
  ∀ list ∈ lists, list.draft dialect <:+: whole ∧ list.Checked

theorem allListed_append {first second : List ClauseList} :
    AllListed dialect whole (first ++ second) ↔
      AllListed dialect whole first ∧ AllListed dialect whole second :=
  List.forall_mem_append

theorem allListed_flatMap {α : Type} {items : List α} {lists : α → List ClauseList}
    (each : ∀ item ∈ items, AllListed dialect whole (lists item)) :
    AllListed dialect whole (items.flatMap lists) := by
  intro list member
  obtain ⟨item, listed, inside⟩ := List.mem_flatMap.mp member
  exact each item listed list inside

theorem allListed_singleton {list : ClauseList} (inside : list.draft dialect <:+: whole)
    (checked : list.Checked) : AllListed dialect whole [list] := by
  rintro other ⟨⟩
  · exact ⟨inside, checked⟩
  · contradiction

theorem Distinct.lists_within {distinct : Distinct}
    (inside : distinct.draft dialect <:+: whole) :
    AllListed dialect whole (distinct.lists dialect) := by
  cases distinct with
  | none | all => simp [lists, AllListed]
  | on columns =>
      simp only [Distinct.draft, NamedDialect.distinctOnDraft] at inside
      exact allListed_singleton (within_append inside).2 fun _ => .inl rfl

theorem Join.lists_within (clean : whole.Clean) {join : Join}
    (inside : join.draft dialect <:+: whole) :
    AllListed dialect whole (join.condition.lists dialect) := by
  obtain ⟨kind, source, condition⟩ := join
  have part := (within_append inside).2
  have partClean := clean_of_within clean part
  cases condition with
  | none | on condition => simp [JoinCondition.lists, AllListed]
  | «using» columns =>
      simp only [JoinCondition.part, Dialect.joinPartDraft] at part partClean
      split at part
      · next takes =>
        split at part
        · next empty => simp [takes, empty] at partClean
        · next filled =>
          exact allListed_singleton part fun none => absurd (by simpa using none) filled
      · next refuses => simp [refuses] at partClean

theorem Subterm.lists_within (clean : whole.Clean) {subterm : Subterm}
    (inside : subterm.Within dialect whole) :
    AllListed dialect whole (subterm.lists dialect) := by
  cases subterm with
  | expr expr => simp [lists, AllListed]
  | query query =>
      have clauses := Select.within clean inside
      exact allListed_append.mpr ⟨Distinct.lists_within clauses.distinct,
        allListed_flatMap fun join member => Join.lists_within clean (clauses.joins join member)⟩

theorem Insert.sourceLists_within (clean : whole.Clean) {insertion : Insert}
    (inside : dialect.insertSourceDraft insertion.columns insertion.source <:+: whole) :
    AllListed dialect whole (insertion.sourceLists dialect) := by
  have sourceClean := clean_of_within clean inside
  cases given : insertion.source.rows? with
  | none =>
      have listed : columnList (insertion.columnDrafts dialect) <:+: whole := by
        cases source : insertion.source with
        | query query =>
            rw [source] at inside
            simpa [columnDrafts, source] using (within_append (within_append inside).1).1
        | defaultValues =>
            rw [source] at sourceClean
            cases columns : insertion.columns with
            | nil => simp [columnDrafts, source, columns, expressionDrafts, columnList]
            | cons column others => simp [NamedDialect.insertSourceDraft, columns] at sourceClean
        | rows cells => simp [source, InsertSource.rows?] at given
        | records records => cases records <;> simp [source, InsertSource.rows?] at given
      rw [sourceLists, given]
      exact allListed_singleton listed fun _ => .inr rfl
  | some rows =>
      obtain ⟨-, filled, -, -, drafted⟩ := sourceDraft_of_clean given sourceClean
      rw [drafted] at inside
      obtain ⟨columns, tuples⟩ := within_append inside
      have each := within_separated (within_append tuples).2
      simp only [List.forall_mem_map] at each
      rw [sourceLists, given]
      refine List.forall_mem_cons.mpr ⟨⟨columns, fun _ => .inr rfl⟩, ?_⟩
      rw [Option.getD_some, List.forall_mem_map]
      refine fun row member => ⟨each row member, fun none => absurd ?_ (filled row member)⟩
      simpa [expressionDrafts_eq_map] using none

theorem assignmentsDraft_of_clean {assignments : Record}
    (clean : (dialect.assignmentsDraft assignments).Clean) :
    dialect.assignmentsDraft assignments =
      commaSeparated (assignments.entries.map (assignmentDraft dialect)) := by
  have unrepeated := ((clean_append _ _).mp clean).1
  unfold Record.duplicateDraft at unrepeated
  split at unrepeated
  · simp at unrepeated
  · next none => simp only [NamedDialect.assignmentsDraft, Record.duplicateDraft, none]; rfl

theorem Conflict.lists_within (clean : whole.Clean) {conflict : Conflict}
    (inside : dialect.conflictDraft conflict <:+: whole) :
    AllListed dialect whole (conflict.lists dialect) := by
  obtain ⟨target, action⟩ := conflict
  have listed : columnList (target.map dialect.nameDraft) <:+: whole := by
    have clause := (within_append inside).2
    split at clause
    · next skipped =>
      obtain rfl : target = [] := by
        cases target with
        | nil => rfl
        | cons column others => simp [Dialect.ignoresConflict] at skipped
      exact List.nil_infix
    · exact (within_append (within_append clause).1).2
  refine List.forall_mem_cons.mpr ⟨⟨listed, fun _ => .inr rfl⟩, ?_⟩
  cases action with
  | nothing => simp
  | update assignments condition =>
      have faultless := clean_of_within clean (within_append inside).1
      have filled : assignments.isEmpty = false := by
        simp only [NamedDialect.conflictFaults, clean_append] at faultless
        cases empty : assignments.isEmpty with
        | false => rfl
        | true => simp [empty] at faultless
      have assigned := (within_append (within_update inside)).1
      have drafted := assignmentsDraft_of_clean
        (clean_of_within clean (within_append assigned).2)
      rw [drafted] at assigned
      refine allListed_singleton assigned fun none => ?_
      simp [Record.isEmpty, List.map_eq_nil_iff.mp none] at filled

end Within

theorem Update.assignments_within {change : Update} {dialect : NamedDialect}
    (clean : (change.draft dialect).Clean) :
    AllListed dialect (change.draft dialect)
      [⟨.assignments, change.assignments.entries.map (assignmentDraft dialect)⟩] := by
  obtain ⟨table, _, part⟩ := Update.within_clauses clean
  have inside : change.assignmentsDraft dialect <:+: change.draft dialect :=
    part .assignments (by simp [carried]) _ (by simp [cores, clauseDraft])
  rw [assignmentsDraft] at inside
  split at inside
  · exact absurd (clean_of_within clean inside) (not_clean_invalid _)
  · next filled =>
    rw [assignmentsDraft_of_clean (clean_of_within clean (within_append inside).2)] at inside
    refine allListed_singleton inside fun none => absurd ?_ filled
    simp [Record.isEmpty, List.map_eq_nil_iff.mp none]

theorem Truncate.tables_within {truncation : Truncate} {dialect : NamedDialect}
    (clean : (truncation.draft dialect).Clean) :
    AllListed dialect (truncation.draft dialect)
      [⟨.truncatedTables, expressionDrafts dialect false truncation.tables⟩] := by
  have inside := (within_append (within_append (within_wholeDraft clean)).1).1
  refine allListed_singleton inside fun none => ?_
  have empty : truncation.tables = [] := by simpa [expressionDrafts_eq_map] using none
  simp [draft, empty] at clean

theorem Insert.ownLists_within {insertion : Insert} {dialect : NamedDialect}
    (clean : (insertion.draft dialect).Clean) :
    AllListed dialect (insertion.draft dialect)
      ((Statement.insert insertion).ownLists dialect) := by
  obtain ⟨table, _, part⟩ := Insert.within_clauses clean
  refine allListed_append.mpr ⟨Insert.sourceLists_within clean (part .values (by simp [carried])),
    allListed_flatMap fun conflict member => ?_⟩
  have given : insertion.conflict = some conflict := by simpa using member
  apply Conflict.lists_within clean
  simpa [clauseDraft, given] using part .conflict (by simp [carried, given])

/-- Every list of a statement stands in its clean draft, checked as its place asks for it. -/
theorem Statement.lists_within {statement : Statement} {dialect : NamedDialect}
    (clean : (statement.draft dialect).Clean) :
    AllListed dialect (statement.draft dialect) (statement.lists dialect) := by
  have own : AllListed dialect (statement.draft dialect) (statement.ownLists dialect) := by
    cases statement with
    | select query => simp [ownLists, AllListed]
    | delete deletion => simp [ownLists, AllListed]
    | insert insertion => exact Insert.ownLists_within clean
    | update change => exact Update.assignments_within clean
    | truncate truncation => exact Truncate.tables_within clean
  exact allListed_append.mpr ⟨own, allListed_flatMap fun subterm member =>
    Subterm.lists_within clean (allWithin clean subterm member)⟩

section Writing

variable {dialect : NamedDialect} {mode : Mode}

theorem ListPlace.texts_of_writtenAs {place : ListPlace} {items : List Draft} {text : String}
    (done : (place.draft dialect items).WrittenAs dialect mode text) :
    ∃ texts, List.Forall₂ (fun draft part => draft.WrittenAs dialect mode part) items texts ∧
      text = place.text dialect texts := by
  cases place with
  | distinctOn | joinColumns | tuple =>
      obtain ⟨_, inside, rfl⟩ := writtenAs_enclosed.mp done
      obtain ⟨texts, each, rfl⟩ := inside.separated
      exact ⟨texts, each, rfl⟩
  | insertColumns | conflictTarget => exact Draft.WrittenAs.columnList done
  | assignments | conflictAssignments =>
      obtain ⟨_, _, keyword, inside, rfl⟩ := Draft.WrittenAs.append done
      obtain rfl := (writtenAs_ofText _).mp keyword
      obtain ⟨texts, each, rfl⟩ := inside.separated
      exact ⟨texts, each, rfl⟩
  | truncatedTables =>
      obtain ⟨_, _, led, inside, rfl⟩ := Draft.WrittenAs.append done
      obtain ⟨_, _, keyword, space, rfl⟩ := led.append
      obtain rfl := (writtenAs_ofText _).mp keyword
      obtain rfl := (writtenAs_ofText _).mp space
      obtain ⟨texts, each, rfl⟩ := inside.separated
      exact ⟨texts, each, rfl⟩

theorem exists_text_of_within {whole draft : Draft} {compiled : Compiled}
    (inside : draft <:+: whole)
    (done : whole.write (mode.writeValue dialect) 0 = .ok compiled) :
    ∃ before text after, draft.WrittenAs dialect mode text ∧
      compiled.sql = before ++ text ++ after := by
  obtain ⟨earlier, later, rfl⟩ := inside
  obtain ⟨_, after, led, -, whole⟩ := Draft.WrittenAs.append ⟨0, compiled, done, rfl⟩
  obtain ⟨before, text, -, written, rfl⟩ := led.append
  exact ⟨before, text, after, written, whole⟩

end Writing

end SqlDialects
