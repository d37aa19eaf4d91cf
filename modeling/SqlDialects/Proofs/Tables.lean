import Mathlib.Data.List.Induction
import Mathlib.Data.List.Perm.Basic
import SqlDialects.Table

/-!
What tables find. A table made of a list of entries gives each key its latest value, and two tables
that find the same are the same.
-/

namespace SqlDialects

namespace Table

variable {κ α : Type}

/-- The value that a list of entries gives a key at last. -/
def IsLatest (entries : List (κ × α)) (key : κ) (value : α) : Prop :=
  ∃ earlier later, entries = earlier ++ (key, value) :: later ∧ key ∉ later.map Prod.fst

theorem not_isLatest_nil (key : κ) (value : α) : ¬IsLatest [] key value := by
  rintro ⟨earlier, later, same, _⟩
  simp at same

theorem isLatest_concat [DecidableEq κ] {entries : List (κ × α)} {key last : κ}
    {value given : α} :
    IsLatest (entries ++ [(last, given)]) key value ↔
      if key = last then given = value else IsLatest entries key value := by
  constructor
  · rintro ⟨earlier, later, same, absent⟩
    rcases List.eq_nil_or_concat later with rfl | ⟨before, entry, rfl⟩
    · obtain ⟨_, ends⟩ := List.append_inj' same rfl
      simp_all
    · rw [List.concat_eq_append, ← List.cons_append, ← List.append_assoc] at same
      obtain ⟨rfl, ends⟩ := List.append_inj' same rfl
      obtain rfl : (last, given) = entry := by simpa using ends
      simp only [List.concat_eq_append, List.map_append, List.mem_append, not_or] at absent
      rw [if_neg (by simpa using absent.2)]
      exact ⟨earlier, before, rfl, absent.1⟩
  · intro latest
    split at latest
    · next same =>
      subst same latest
      exact ⟨entries, [], rfl, by simp⟩
    · next different =>
      obtain ⟨earlier, later, rfl, absent⟩ := latest
      exact ⟨earlier, later ++ [(last, given)], by simp, by simp_all⟩

variable [Ord κ]

@[simp] theorem find?_empty (key : κ) : (empty : Table κ α).find? key = none :=
  rfl

theorem mem_of_valueAt? [Std.LawfulEqOrd κ] {entries : List (κ × α)} {key : κ} {value : α}
    (found : valueAt? key entries = some value) : (key, value) ∈ entries := by
  induction entries with
  | nil => simp [valueAt?] at found
  | cons entry rest ih =>
      obtain ⟨other, stored⟩ := entry
      simp only [valueAt?] at found
      split at found
      · next equal =>
        have same := Std.LawfulEqCmp.eq_of_compare equal
        simp_all
      · exact List.mem_cons_of_mem _ (ih found)

theorem valueAt?_of_mem [Std.TransOrd κ] {entries : List (κ × α)} (increasing : Increasing entries)
    {entry : κ × α} (member : entry ∈ entries) : valueAt? entry.1 entries = some entry.2 := by
  induction entries with
  | nil => simp at member
  | cons first rest ih =>
      obtain ⟨above, restIncreasing⟩ := List.pairwise_cons.mp increasing
      rcases List.mem_cons.mp member with rfl | later
      · simp [valueAt?]
      · have after : compare entry.1 first.1 = .gt := Std.OrientedCmp.gt_of_lt (above entry later)
        simp [valueAt?, after, ih restIncreasing later]

variable [Std.TransOrd κ] [Std.LawfulEqOrd κ]

theorem mem_entries_iff (table : Table κ α) {key : κ} {value : α} :
    (key, value) ∈ table.entries ↔ table.find? key = some value :=
  ⟨valueAt?_of_mem table.increasing, mem_of_valueAt?⟩

theorem mem_keys_iff (table : Table κ α) {key : κ} :
    key ∈ table.keys ↔ (table.find? key).isSome := by
  simp [keys, mem_entries_iff, Option.isSome_iff_exists]

theorem ext_find? {left right : Table κ α} (same : ∀ key, left.find? key = right.find? key) :
    left = right := by
  have distinct (table : Table κ α) : table.entries.Nodup :=
    table.increasing.imp fun before equal => by simp [equal] at before
  have members : left.entries.Perm right.entries :=
    (List.perm_ext_iff_of_nodup (distinct left) (distinct right)).mpr fun ⟨key, value⟩ => by
      rw [mem_entries_iff, mem_entries_iff, same]
  apply ext_entries
  refine members.eq_of_pairwise ?_ left.increasing right.increasing
  intro first second _ _ before after
  rw [Std.OrientedCmp.gt_of_lt before] at after
  cases after

theorem ofList_concat (entries : List (κ × α)) (entry : κ × α) :
    ofList (entries ++ [entry]) = (ofList entries).insert entry.1 entry.2 := by
  simp [ofList]

variable [DecidableEq κ]

theorem find?_insert (table : Table κ α) (key sought : κ) (value : α) :
    (table.insert key value).find? sought =
      if sought = key then some value else table.find? sought := by
  split
  · next same => rw [same, find?_insert_self]
  · next different => exact table.find?_insert_of_ne different value

theorem find?_ofList_eq_some_iff {entries : List (κ × α)} {key : κ} {value : α} :
    (ofList entries).find? key = some value ↔ IsLatest entries key value := by
  induction entries using List.reverseRecOn with
  | nil => simp [ofList, not_isLatest_nil]
  | append_singleton entries entry ih =>
      rw [ofList_concat, find?_insert, isLatest_concat, ← ih]
      split <;> simp

theorem isSome_find?_ofList_iff {entries : List (κ × α)} {key : κ} :
    ((ofList entries).find? key).isSome ↔ key ∈ entries.map Prod.fst := by
  induction entries using List.reverseRecOn with
  | nil => simp [ofList]
  | append_singleton entries entry ih =>
      rw [ofList_concat, find?_insert, List.map_append, List.mem_append, ← ih]
      split <;> simp_all

end Table

end SqlDialects
