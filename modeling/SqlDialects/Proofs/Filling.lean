import SqlDialects.Proofs.Rewriting

/-!
Filling the empty lists of a statement: the columns of joins at every depth, and the rows, records,
assignments and tables of the statement itself. Everything else stays as it is.
-/

namespace SqlDialects

/-- What to put in the place of empty lists. -/
structure Filling where
  columns : List String
  row : List Expr
  record : Record
  tables : List Expr

def fillList {α : Type} (filler given : List α) : List α :=
  if given.isEmpty then filler else given

theorem fillList_of_ne_nil {α : Type} {filler given : List α} (filled : given ≠ []) :
    fillList filler given = given :=
  if_neg (mt List.isEmpty_iff.mp filled)

def Rewriting.filling (columns : List String) : Rewriting where
  literal := fun value => value
  joinColumns := fillList columns

def Filling.fillRecord (filling : Filling) (record : Record) : Record :=
  if record.isEmpty then filling.record else record

namespace InsertSource

def fillLists (filling : Filling) : InsertSource → InsertSource
  | .rows cells => .rows (cells.map (fillList filling.row))
  | .records given => .records (given.map filling.fillRecord)
  | .defaultValues => .defaultValues
  | .query select => .query select

/-- A row or a record of nothing. -/
def GivesEmptyList : InsertSource → Prop
  | .defaultValues | .query _ => False
  | .rows cells => [] ∈ cells
  | .records given => ∃ record ∈ given, record.isEmpty

end InsertSource

namespace ConflictAction

def fillLists (filling : Filling) : ConflictAction → ConflictAction
  | .nothing => .nothing
  | .update assignments condition => .update (filling.fillRecord assignments) condition

/-- Assignments of what to update on a conflict, but of no column. -/
def GivesEmptyList : ConflictAction → Prop
  | .nothing => False
  | .update assignments _ => assignments.isEmpty

end ConflictAction

def Conflict.fillLists (filling : Filling) (conflict : Conflict) : Conflict :=
  ⟨conflict.target, conflict.action.fillLists filling⟩

def Insert.fillLists (filling : Filling) (insert : Insert) : Insert :=
  { insert with
    source := insert.source.fillLists filling
    conflict := insert.conflict.map (Conflict.fillLists filling) }

def Update.fillLists (filling : Filling) (update : Update) : Update :=
  { update with assignments := filling.fillRecord update.assignments }

def Truncate.fillLists (filling : Filling) (truncate : Truncate) : Truncate :=
  { truncate with tables := fillList filling.tables truncate.tables }

namespace Statement

/-- The statement with the empty lists of its own clauses filled, except for those that may be left
out. -/
def fillLists (filling : Filling) : Statement → Statement
  | .select query => .select query
  | .insert insertion => .insert (insertion.fillLists filling)
  | .update change => .update (change.fillLists filling)
  | .delete deletion => .delete deletion
  | .truncate truncation => .truncate (truncation.fillLists filling)

/-- The statement with its empty lists filled, except for those that may be left out and the lists
of `DISTINCT ON`. -/
def fill (filling : Filling) (statement : Statement) : Statement :=
  (statement.rewrite (.filling filling.columns)).fillLists filling

end Statement

end SqlDialects
