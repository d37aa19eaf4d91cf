import SqlDialects.Expr

/-!
Records of columns and their values, in the order in which the columns were first set. A column
that is set again keeps its first value and is noted as a duplicate.
-/

namespace SqlDialects

structure Record where
  entries : List (String × Expr)
  duplicates : List String
  columns_nodup : (entries.map Prod.fst).Nodup

namespace Record

def empty : Record :=
  ⟨[], [], List.nodup_nil⟩

def columns (record : Record) : List String :=
  record.entries.map Prod.fst

def size (record : Record) : Nat :=
  record.entries.length

def isEmpty (record : Record) : Bool :=
  record.entries.isEmpty

def find? (record : Record) (column : String) : Option Expr :=
  (record.entries.find? fun entry => entry.1 = column).map Prod.snd

def set (record : Record) (column : String) (value : Expr) : Record :=
  if present : column ∈ record.columns then
    { record with duplicates := record.duplicates ++ [column] }
  else
    { entries := record.entries ++ [(column, value)]
      duplicates := record.duplicates
      columns_nodup := by
        rw [List.map_append, List.nodup_append]
        refine ⟨record.columns_nodup, by simp, ?_⟩
        intro earlier member later last
        simp only [List.map_cons, List.map_nil, List.mem_singleton] at last
        subst last
        intro same
        subst same
        exact present member }

def ofList (entries : List (String × Expr)) : Record :=
  entries.foldl (fun record entry => record.set entry.1 entry.2) empty

/-- The column that was first set a second time. -/
def duplicate? (record : Record) : Option String :=
  record.duplicates.head?

theorem columns_set (record : Record) (column : String) (value : Expr) :
    (record.set column value).columns =
      if column ∈ record.columns then record.columns else record.columns ++ [column] := by
  unfold set
  split
  · next => simp [columns]
  · next => simp [columns]

end Record

end SqlDialects
