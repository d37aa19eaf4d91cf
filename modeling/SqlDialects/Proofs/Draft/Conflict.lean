import SqlDialects.Compile
import SqlDialects.Proofs.Draft.Writing

/-!
Conflict clauses: what a dialect may have against one, when a keyword takes its place, and its text.
-/

namespace SqlDialects

open Draft

namespace ConflictAction

def keyword (dialect : Dialect) : ConflictAction → String
  | nothing => dialect.keywords.doNothing
  | update _ _ => dialect.keywords.doUpdate

def settings (dialect : NamedDialect) : ConflictAction → Draft
  | nothing => []
  | update assignments condition =>
      commaSeparated (assignments.entries.map fun (column, value) =>
          dialect.identifierDraft (.parse column) ++ ofText " = " ++ value.draft dialect false)
        ++ (match condition.filter fun test => !test.isEmptyCondition with
            | some test => ofText " WHERE " ++ test.draft dialect false
            | none => [])

end ConflictAction

namespace Conflict

/-- The dialect has a keyword of its own for insertions that skip existing rows. -/
def ByKeyword (conflict : Conflict) (dialect : Dialect) : Prop :=
  conflict.target = [] ∧ conflict.action = .nothing ∧ dialect.capabilities.insertIgnore

def targetText (conflict : Conflict) (dialect : Dialect) : String :=
  if conflict.target.isEmpty then ""
  else " (" ++ ", ".intercalate (conflict.target.map dialect.nameText) ++ ")"

/-- What the clause comes to behind `count` arguments. -/
def Renders (conflict : Conflict) (dialect : NamedDialect) (mode : Mode) (count : Nat)
    (rendered : Compiled) : Prop :=
  ∃ settings,
    (conflict.action.settings dialect).write (mode.writeValue dialect) count = .ok settings ∧
    rendered = ⟨dialect.keywords.onConflict ++ conflict.targetText dialect
      ++ conflict.action.keyword dialect ++ settings.sql, settings.arguments⟩

/-- What a dialect may have against the clause, and whether it has. -/
def objections (conflict : Conflict) (dialect : NamedDialect) : List (Bool × Failure) :=
  [(!dialect.capabilities.onConflict, .unsupported (.clause .conflict) dialect.name),
    (!conflict.target.isEmpty && !dialect.capabilities.conflictTarget,
      .unsupported .conflictTarget dialect.name)]
  ++ (match conflict.action with
      | .nothing => []
      | .update assignments condition =>
          [(Expr.asksSomething condition && !dialect.capabilities.conflictCondition,
              .unsupported .conflictCondition dialect.name),
            (assignments.isEmpty, .invalid .noConflictAssignments),
            (conflict.target.isEmpty && dialect.conventions.conflictUpdateNeedsTarget,
              .invalid .missingConflictTarget)])
  ++ [(conflict.target.any String.isEmpty, .invalid .emptyConflictColumn)]

def objection? (conflict : Conflict) (dialect : NamedDialect) : Option Failure :=
  ((conflict.objections dialect).find? Prod.fst).map Prod.snd

end Conflict

section Clause

variable {conflict : Conflict} {dialect : NamedDialect}

theorem filter_objection (applies : Bool) (fault : Failure) (rest : List (Bool × Failure)) :
    (((applies, fault) :: rest).filter Prod.fst).map (fun objection => Piece.fault objection.2) =
      (if applies then [.fault fault] else [])
        ++ (rest.filter Prod.fst).map fun objection => .fault objection.2 := by
  cases applies <;> rfl

theorem demand_eq_if (name : String) (capability : Bool) (feature : Feature) :
    demand name capability feature =
      if !capability then [.fault (.unsupported feature name)] else [] := by
  cases capability <;> rfl

theorem NamedDialect.conflictFaults_eq_objections (dialect : NamedDialect) (conflict : Conflict) :
    dialect.conflictFaults conflict =
      ((conflict.objections dialect).filter Prod.fst).map fun objection => .fault objection.2 := by
  have spared : ∀ skipped capability : Bool, ∀ fault : Failure,
      (if skipped then [] else if !capability then [Piece.fault fault] else []) =
        if !skipped && !capability then [.fault fault] else [] := by
    intro skipped capability fault
    cases skipped <;> rfl
  have demanded : ∀ asked capability : Bool, ∀ fault : Failure,
      (if asked then if !capability then [Piece.fault fault] else [] else []) =
        if asked && !capability then [.fault fault] else [] := by
    intro asked capability fault
    cases asked <;> rfl
  obtain ⟨target, action⟩ := conflict
  cases action <;>
    simp only [conflictFaults, Conflict.objections, demand_eq_if, spared, demanded, invalid,
      List.cons_append, List.nil_append, filter_objection, List.append_assoc, List.filter_nil,
      List.map_nil, List.append_nil]

theorem Conflict.exists_faults_of_objection {fault : Failure}
    (found : conflict.objection? dialect = some fault) :
    ∃ rest, dialect.conflictFaults conflict = .fault fault :: rest := by
  obtain ⟨objection, first, rfl⟩ := Option.map_eq_some_iff.mp found
  rw [← List.head?_filter] at first
  obtain ⟨rest, sorted⟩ := List.head?_eq_some_iff.mp first
  rw [NamedDialect.conflictFaults_eq_objections, sorted]
  exact ⟨_, rfl⟩

theorem Conflict.faults_of_objection_none (none : conflict.objection? dialect = none) :
    dialect.conflictFaults conflict = [] := by
  have nowhere : (conflict.objections dialect).find? Prod.fst = Option.none :=
    Option.map_eq_none_iff.mp none
  rw [← List.head?_filter, List.head?_eq_none_iff] at nowhere
  rw [NamedDialect.conflictFaults_eq_objections, nowhere]
  rfl

theorem Conflict.objection?_eq_none_iff :
    conflict.objection? dialect = none ↔ (dialect.conflictFaults conflict).Clean := by
  constructor
  · intro none
    rw [faults_of_objection_none none]
    exact clean_nil
  · intro clean
    cases found : conflict.objection? dialect with
    | none => rfl
    | some fault =>
        obtain ⟨rest, faults⟩ := exists_faults_of_objection found
        simp [faults] at clean

theorem Conflict.ignoresConflict_iff {dialect : Dialect}
    (capable : dialect.capabilities.onConflict) :
    dialect.ignoresConflict (some conflict) ↔ conflict.ByKeyword dialect := by
  obtain ⟨target, action⟩ := conflict
  cases target <;> cases action <;> simp [Dialect.ignoresConflict, ByKeyword, capable]

theorem Conflict.ByKeyword.conflictDraft_eq_nil {name : String} {dialect : Dialect}
    (skips : conflict.ByKeyword dialect) (capable : dialect.capabilities.onConflict) :
    NamedDialect.conflictDraft ⟨dialect, name⟩ conflict = [] := by
  have ignores := (Conflict.ignoresConflict_iff capable).mpr skips
  obtain ⟨target, action, -⟩ := skips
  simp [NamedDialect.conflictDraft, NamedDialect.conflictFaults, ignores, target, action,
    demand, capable]

variable {mode : Mode} {count : Nat} {rendered : Compiled}

theorem Conflict.write_target (conflict : Conflict)
    {writeValue : Nat → Value → Except Failure Compiled} (draft : Draft) :
    (columnList (conflict.target.map dialect.nameDraft) ++ draft).write writeValue count =
      (draft.write writeValue count).map fun inside =>
        ⟨conflict.targetText dialect ++ inside.sql, inside.arguments⟩ := by
  have names : conflict.target.map dialect.nameDraft =
      (conflict.target.map dialect.nameText).map ofText := by
    rw [List.map_map]
    rfl
  have written : (columnList (conflict.target.map dialect.nameDraft)).write writeValue count =
      .ok ⟨conflict.targetText dialect, []⟩ := by
    cases empty : conflict.target.isEmpty with
    | true => simp [columnList, targetText, empty, write, Compiled.empty]
    | false =>
        have filled : (conflict.target.map dialect.nameDraft).isEmpty = false := by
          simpa using empty
        rw [columnList, if_neg (by simp [filled]), write_enclosed, names, commaSeparated,
          write_separated_ofText, targetText, if_neg (by simp [empty])]
        rfl
  have values : (columnList (conflict.target.map dialect.nameDraft)).values = [] := by
    rw [names, columnList]
    split <;> simp
  rw [write_append, written, values]
  cases draft.write writeValue count <;> simp [Except.bind, Except.map, Compiled.append]

theorem ConflictAction.write_draft {action : ConflictAction}
    (written : (dialect.conflictActionDraft action).write (mode.writeValue dialect) count =
      .ok rendered) :
    ∃ settings, (action.settings dialect).write (mode.writeValue dialect) count = .ok settings ∧
      rendered = ⟨action.keyword dialect ++ settings.sql, settings.arguments⟩ := by
  have drafted : dialect.conflictActionDraft action =
      ofText (action.keyword dialect) ++ action.settings dialect := by
    cases action with
    | nothing => rfl
    | update assignments condition =>
        have unrepeated : assignments.duplicateDraft = [] := by
          have clean := clean_of_write_ok written
          simp only [NamedDialect.conflictActionDraft, NamedDialect.assignmentsDraft,
            clean_append] at clean
          obtain ⟨⟨-, clean, -⟩, -⟩ := clean
          unfold Record.duplicateDraft at clean ⊢
          split at clean
          · simp at clean
          · rfl
        simp only [NamedDialect.conflictActionDraft, NamedDialect.assignmentsDraft,
          unrepeated, keyword,
          settings, List.nil_append, List.append_assoc]
        congr 2
        cases condition with
        | none => rfl
        | some test => cases empty : test.isEmptyCondition <;> simp [Option.filter, empty]
  rw [drafted, write_opened] at written
  obtain ⟨settings, done, same⟩ := map_eq_ok_iff.mp written
  exact ⟨settings, done, same.symm⟩

theorem Conflict.renders_of_write (apart : dialect.ignoresConflict (some conflict) = false)
    (written : (dialect.conflictDraft conflict).write (mode.writeValue dialect) count =
      .ok rendered) : conflict.Renders dialect mode count rendered := by
  have clean := clean_of_write_ok written
  rw [NamedDialect.conflictDraft, clean_append, ← objection?_eq_none_iff] at clean
  rw [NamedDialect.conflictDraft, faults_of_objection_none clean.1, apart, List.nil_append,
    if_neg Bool.false_ne_true, List.append_assoc, write_opened, write_target] at written
  obtain ⟨_, inside, rfl⟩ := map_eq_ok_iff.mp written
  obtain ⟨_, acted, rfl⟩ := map_eq_ok_iff.mp inside
  obtain ⟨settings, done, rfl⟩ := ConflictAction.write_draft acted
  exact ⟨settings, done, by simp [String.append_assoc]⟩

end Clause

end SqlDialects
