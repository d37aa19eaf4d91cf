/-!
Finite tables in the order of their keys. The keys of a table increase strictly, so a key has at
most one entry and two tables with the same entries are the same table; insertion replaces.
-/

namespace SqlDialects

namespace Table

variable {κ α : Type} [Ord κ]

/-- Each entry's key comes before the keys of all later entries. -/
def Increasing (entries : List (κ × α)) : Prop :=
  entries.Pairwise fun earlier later => compare earlier.1 later.1 = .lt

def insertEntry (key : κ) (value : α) : List (κ × α) → List (κ × α)
  | [] => [(key, value)]
  | (other, stored) :: rest =>
      match compare key other with
      | .lt => (key, value) :: (other, stored) :: rest
      | .eq => (key, value) :: rest
      | .gt => (other, stored) :: insertEntry key value rest

def valueAt? (key : κ) : List (κ × α) → Option α
  | [] => none
  | (other, stored) :: rest =>
      match compare key other with
      | .eq => some stored
      | _ => valueAt? key rest

theorem mem_insertEntry {key : κ} {value : α} {entry : κ × α} {entries : List (κ × α)}
    (member : entry ∈ insertEntry key value entries) :
    entry = (key, value) ∨ entry ∈ entries := by
  induction entries with
  | nil => exact .inl (by simpa [insertEntry] using member)
  | cons first rest ih =>
      obtain ⟨other, stored⟩ := first
      simp only [insertEntry] at member
      split at member
      · simpa using member
      · rcases List.mem_cons.mp member with same | later
        · exact .inl same
        · exact .inr (by simp [later])
      · rcases List.mem_cons.mp member with same | later
        · exact .inr (by simp [same])
        · rcases ih later with same | found
          · exact .inl same
          · exact .inr (by simp [found])

theorem increasing_insertEntry [Std.TransOrd κ] [Std.LawfulEqOrd κ] (key : κ) (value : α)
    {entries : List (κ × α)} (increasing : Increasing entries) :
    Increasing (insertEntry key value entries) := by
  induction entries with
  | nil => simp [insertEntry, Increasing]
  | cons first rest ih =>
      obtain ⟨other, stored⟩ := first
      obtain ⟨above, restIncreasing⟩ := List.pairwise_cons.mp increasing
      simp only [insertEntry]
      split
      · next before =>
          refine List.pairwise_cons.mpr ⟨?_, increasing⟩
          intro entry member
          rcases List.mem_cons.mp member with same | later
          · subst same
            exact before
          · exact Std.TransCmp.lt_trans before (above entry later)
      · next equal =>
          have same := Std.LawfulEqCmp.eq_of_compare equal
          subst same
          exact List.pairwise_cons.mpr ⟨above, restIncreasing⟩
      · next after =>
          refine List.pairwise_cons.mpr ⟨?_, ih restIncreasing⟩
          intro entry member
          rcases mem_insertEntry member with same | later
          · subst same
            exact Std.OrientedCmp.lt_of_gt after
          · exact above entry later

theorem insertEntry_of_above {key : κ} {value : α} [Std.OrientedOrd κ] {entries : List (κ × α)}
    (above : ∀ entry ∈ entries, compare entry.1 key = .lt) :
    insertEntry key value entries = entries ++ [(key, value)] := by
  induction entries with
  | nil => rfl
  | cons first rest ih =>
      obtain ⟨other, stored⟩ := first
      have after : compare key other = .gt :=
        Std.OrientedCmp.gt_of_lt (above (other, stored) (by simp))
      simp only [insertEntry, after, List.cons_append]
      rw [ih fun entry member => above entry (by simp [member])]

theorem valueAt?_insertEntry_self [Std.ReflOrd κ] (key : κ) (value : α)
    (entries : List (κ × α)) : valueAt? key (insertEntry key value entries) = some value := by
  induction entries with
  | nil => simp [insertEntry, valueAt?]
  | cons first rest ih =>
      obtain ⟨other, stored⟩ := first
      simp only [insertEntry]
      split
      · simp [valueAt?]
      · simp [valueAt?]
      · next after => simp [valueAt?, after, ih]

theorem valueAt?_insertEntry_of_ne [Std.TransOrd κ] [Std.LawfulEqOrd κ] {key sought : κ}
    (different : sought ≠ key) (value : α) (entries : List (κ × α)) :
    valueAt? sought (insertEntry key value entries) = valueAt? sought entries := by
  have noMatch : compare sought key ≠ .eq := fun equal =>
    different (Std.LawfulEqCmp.eq_of_compare equal)
  induction entries with
  | nil => simp [insertEntry, valueAt?]
  | cons first rest ih =>
      obtain ⟨other, stored⟩ := first
      simp only [insertEntry]
      split
      · simp [valueAt?]
      · next equal =>
          have same := Std.LawfulEqCmp.eq_of_compare equal
          subst same
          simp [valueAt?]
      · simp only [valueAt?, ih]

end Table

structure Table (κ α : Type) [Ord κ] where
  entries : List (κ × α)
  increasing : Table.Increasing entries

namespace Table

variable {κ α : Type} [Ord κ]

instance [DecidableEq κ] [DecidableEq α] : DecidableEq (Table κ α) := fun left right =>
  if same : left.entries = right.entries then
    .isTrue (by cases left; cases right; simpa using same)
  else .isFalse fun equal => same (congrArg entries equal)

theorem ext_entries {left right : Table κ α} (same : left.entries = right.entries) :
    left = right := by
  cases left
  cases right
  simpa using same

def empty : Table κ α :=
  ⟨[], List.Pairwise.nil⟩

def find? (table : Table κ α) (key : κ) : Option α :=
  valueAt? key table.entries

def keys (table : Table κ α) : List κ :=
  table.entries.map Prod.fst

variable [Std.TransOrd κ] [Std.LawfulEqOrd κ]

def insert (table : Table κ α) (key : κ) (value : α) : Table κ α :=
  ⟨insertEntry key value table.entries, increasing_insertEntry key value table.increasing⟩

/-- Later entries of the list replace earlier ones with the same key. -/
def ofList (entries : List (κ × α)) : Table κ α :=
  entries.foldl (fun table entry => table.insert entry.1 entry.2) empty

theorem foldl_insert_entries (later : List (κ × α)) (table : Table κ α)
    (increasing : Increasing (table.entries ++ later)) :
    (later.foldl (fun table entry => table.insert entry.1 entry.2) table).entries =
      table.entries ++ later := by
  induction later generalizing table with
  | nil => simp
  | cons entry rest ih =>
      have above : ∀ earlier ∈ table.entries, compare earlier.1 entry.1 = .lt := by
        intro earlier member
        exact (List.pairwise_append.mp increasing).2.2 earlier member entry (by simp)
      have inserted : (table.insert entry.1 entry.2).entries = table.entries ++ [entry] :=
        insertEntry_of_above above
      rw [List.foldl_cons, ih]
      · simp [inserted]
      · simpa [inserted] using increasing

@[simp] theorem ofList_entries (table : Table κ α) : ofList table.entries = table :=
  ext_entries (by simpa [ofList, empty] using foldl_insert_entries table.entries empty (by
    simpa [empty] using table.increasing))

@[simp] theorem find?_insert_self (table : Table κ α) (key : κ) (value : α) :
    (table.insert key value).find? key = some value :=
  valueAt?_insertEntry_self key value table.entries

theorem find?_insert_of_ne (table : Table κ α) {key sought : κ} (different : sought ≠ key)
    (value : α) : (table.insert key value).find? sought = table.find? sought :=
  valueAt?_insertEntry_of_ne different value table.entries

end Table

end SqlDialects
