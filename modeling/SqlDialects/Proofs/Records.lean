import Mathlib.Data.List.Forall2
import Mathlib.Data.List.Perm.Basic
import SqlDialects.Draft.Insert

/-!
Records as tables of columns and values. A record that sets the columns of another one gives, in
their order, each of its values once.
-/

namespace SqlDialects

open Draft

namespace Record

theorem find?_of_nodup {entries : List (String × Expr)} {entry : String × Expr}
    (nodup : (entries.map Prod.fst).Nodup) (member : entry ∈ entries) :
    entries.find? (fun other => other.1 = entry.1) = some entry := by
  induction entries with
  | nil => simp at member
  | cons first rest ih =>
      rw [List.map_cons, List.nodup_cons] at nodup
      cases member with
      | head => simp
      | tail _ later =>
          have different : first.1 ≠ entry.1 := by
            intro same
            exact nodup.1 (same ▸ List.mem_map_of_mem later)
          simpa [different] using ih nodup.2 later

variable {record : Record} {columns : List String}

theorem find?_eq_some_of_mem {entry : String × Expr} (member : entry ∈ record.entries) :
    record.find? entry.1 = some entry.2 := by
  simp [find?, find?_of_nodup record.columns_nodup member]

theorem mem_columns_of_find? {column : String} (found : (record.find? column).isSome) :
    column ∈ record.columns := by
  simp only [find?, Option.isSome_map, List.find?_isSome, decide_eq_true_eq] at found
  obtain ⟨entry, member, rfl⟩ := found
  exact List.mem_map_of_mem member

theorem isSome_find?_iff {column : String} :
    (record.find? column).isSome ↔ column ∈ record.columns := by
  refine ⟨mem_columns_of_find?, fun member => ?_⟩
  obtain ⟨entry, inside, rfl⟩ := List.mem_map.mp member
  simp [find?_eq_some_of_mem inside]

theorem find?_eq_none_of_not_mem {column : String} (missing : column ∉ record.columns) :
    record.find? column = none := by
  rw [← Option.not_isSome_iff_eq_none, isSome_find?_iff]
  exact missing

theorem perm_columns_of_sets (fits : record.sets columns) (nodup : columns.Nodup) :
    columns.Perm record.columns := by
  simp only [sets, Bool.and_eq_true, decide_eq_true_eq, List.all_eq_true] at fits
  obtain ⟨size, found⟩ := fits
  have subset : columns ⊆ record.columns :=
    fun column member => mem_columns_of_find? (found column member)
  refine (List.subperm_of_subset nodup subset).perm_of_length_le ?_
  simp only [Record.columns, List.length_map]
  exact Nat.le_of_eq size

theorem alignedDrafts_perm (dialect : NamedDialect) (fits : record.sets columns)
    (nodup : columns.Nodup) :
    (record.alignedDrafts dialect columns).Perm
      (record.entries.map fun entry => entry.2.draft dialect false) := by
  have sorted := perm_columns_of_sets fits nodup
  unfold alignedDrafts
  refine (sorted.map _).trans ?_
  simp only [Record.columns, List.map_map]
  apply List.Perm.of_eq
  apply List.map_congr_left
  intro entry member
  simp [find?_eq_some_of_mem member]

variable {left right : Record}

/-- Records that give an insertion the same, whatever columns it asks them for. -/
structure Interchangeable (left right : Record) : Prop where
  duplicate? : left.duplicate? = right.duplicate?
  sets : ∀ columns, left.sets columns = right.sets columns
  alignedDrafts : ∀ dialect columns,
    left.alignedDrafts dialect columns = right.alignedDrafts dialect columns

theorem Interchangeable.refl (record : Record) : record.Interchangeable record :=
  ⟨rfl, fun _ => rfl, fun _ _ => rfl⟩

theorem sets_congr (same : left.columns = right.columns) (columns : List String) :
    left.sets columns = right.sets columns := by
  have found : ∀ column, (left.find? column).isSome = (right.find? column).isSome := by
    intro column
    rw [Bool.eq_iff_iff, isSome_find?_iff, isSome_find?_iff, same]
  have sizes : left.size = right.size := by
    simpa [Record.columns, size] using congrArg List.length same
  simp only [sets, sizes, found]

theorem sets_nil (record : Record) : record.sets [] = record.isEmpty := by
  cases entries : record.entries <;> simp [sets, size, isEmpty, entries]

theorem Interchangeable.isEmpty_eq (alike : left.Interchangeable right) :
    left.isEmpty = right.isEmpty := by
  rw [← sets_nil, ← sets_nil, alike.sets]

/-- Records that cannot be told apart but by the order of their columns. -/
structure Alike (left right : Record) : Prop where
  size : left.size = right.size
  duplicates : left.duplicates = right.duplicates
  found : ∀ column, left.find? column = right.find? column

theorem Alike.interchangeable (alike : left.Alike right) : left.Interchangeable right where
  duplicate? := by simp only [duplicate?, alike.duplicates]
  sets columns := by simp only [sets, alike.size, alike.found]
  alignedDrafts dialect columns := by simp only [alignedDrafts, alike.found]

end Record

section Sources

variable {given others : List Record}

theorem recordFaults_congr (alike : List.Forall₂ Record.Interchangeable given others)
    (columns : List String) (index : Nat) :
    recordFaults columns index given = recordFaults columns index others := by
  induction alike generalizing index with
  | nil => rfl
  | cons first _ ih => simp only [recordFaults, first.duplicate?, first.sets, ih]

theorem recordsSourceDraft_congr {first other : Record}
    (alike : List.Forall₂ Record.Interchangeable (first :: given) (other :: others))
    (ordered : first.columns = other.columns) (dialect : NamedDialect) (columns : List Expr) :
    dialect.recordsSourceDraft columns (first :: given) =
      dialect.recordsSourceDraft columns (other :: others) := by
  have drafts : (first :: given).map (fun record => record.alignedDrafts dialect other.columns) =
      (other :: others).map fun record => record.alignedDrafts dialect other.columns := by
    rw [← List.forall₂_eq_eq_eq, List.forall₂_map_left_iff, List.forall₂_map_right_iff]
    exact alike.imp fun _ _ each => each.alignedDrafts dialect other.columns
  have faults := recordFaults_congr alike other.columns 0
  obtain ⟨head, _⟩ := List.forall₂_cons.mp alike
  simp only [NamedDialect.recordsSourceDraft, head.isEmpty_eq, ordered, faults, drafts]

end Sources

end SqlDialects
