import SqlDialects.Statement

/-!
The expressions and queries of a statement, at every depth and each in its place. The left operand
of an inversion is none of them, since no dialect writes it.
-/

namespace SqlDialects

/-- A part of a statement that may have parts of its own. -/
inductive Subterm where
  | expr (expr : Expr)
  | query (query : Select)

mutual

def Expr.subterms : Expr → List Subterm
  | .identifier identifier => [.expr (.identifier identifier)]
  | .literal value => [.expr (.literal value)]
  | .raw sql arguments => .expr (.raw sql arguments) :: exprSubterms arguments
  | .aliased expr name => .expr (.aliased expr name) :: expr.subterms
  | .comparison operator left right =>
      .expr (.comparison operator left right) :: (left.subterms ++ right.subterms)
  | .bitwise operator left right =>
      .expr (.bitwise operator left right)
        :: ((if operator = .invert then [] else left.subterms) ++ right.subterms)
  | .rightBitwise operator right => .expr (.rightBitwise operator right) :: right.subterms
  | .range test expr low high =>
      .expr (.range test expr low high) :: (expr.subterms ++ low.subterms ++ high.subterms)
  | .conditions connective items => .expr (.conditions connective items) :: exprSubterms items
  | .tuple items => .expr (.tuple items) :: exprSubterms items
  | .ordered expr direction nulls => .expr (.ordered expr direction nulls) :: expr.subterms
  | .cast expr type => .expr (.cast expr type) :: expr.subterms
  | .function name arguments distinct window =>
      .expr (.function name arguments distinct window)
        :: (exprSubterms arguments ++ window.subterms)
  | .subquery query => .expr (.subquery query) :: query.subterms
  | .not expr => .expr (.not expr) :: expr.subterms
  | .filter filter => .expr (.filter filter) :: filter.subterms
  | .excluded column => [.expr (.excluded column)]
  | .default => [.expr .default]

def exprSubterms : List Expr → List Subterm
  | [] => []
  | expr :: rest => expr.subterms ++ exprSubterms rest

def FilterTest.subterms : FilterTest → List Subterm
  | .comparison _ value => value.subterms
  | .range _ low high => low.subterms ++ high.subterms

def filterTestSubterms : List FilterTest → List Subterm
  | [] => []
  | test :: rest => test.subterms ++ filterTestSubterms rest

def FilterEntry.subterms : FilterEntry → List Subterm
  | .value _ operand => operand.subterms
  | .tests _ tests => filterTestSubterms tests

def filterEntrySubterms : List FilterEntry → List Subterm
  | [] => []
  | entry :: rest => entry.subterms ++ filterEntrySubterms rest

def Filter.subterms : Filter → List Subterm
  | ⟨_, entries⟩ => filterEntrySubterms entries

def Window.subterms : Window → List Subterm
  | ⟨_, _, partitionBy, orderBy⟩ => exprSubterms partitionBy ++ exprSubterms orderBy

def windowSubterms : List Window → List Subterm
  | [] => []
  | window :: rest => window.subterms ++ windowSubterms rest

def Over.subterms : Over → List Subterm
  | .absent => []
  | .named _ => []
  | .inline window => window.subterms

def JoinCondition.subterms : JoinCondition → List Subterm
  | .none => []
  | .on condition => condition.subterms
  | .using _ => []

def Join.subterms : Join → List Subterm
  | ⟨_, source, condition⟩ => source.subterms ++ condition.subterms

def joinSubterms : List Join → List Subterm
  | [] => []
  | join :: rest => join.subterms ++ joinSubterms rest

def CommonTable.subterms : CommonTable → List Subterm
  | ⟨_, query⟩ => query.subterms

def commonTableSubterms : List CommonTable → List Subterm
  | [] => []
  | table :: rest => table.subterms ++ commonTableSubterms rest

def CommonTables.subterms : CommonTables → List Subterm
  | ⟨_, tables⟩ => commonTableSubterms tables

def Compound.subterms : Compound → List Subterm
  | ⟨_, query⟩ => query.subterms

def compoundSubterms : List Compound → List Subterm
  | [] => []
  | compound :: rest => compound.subterms ++ compoundSubterms rest

def Distinct.subterms : Distinct → List Subterm
  | .none => []
  | .all => []
  | .on columns => exprSubterms columns

def Select.subterms : Select → List Subterm
  | ⟨commonTables, distinct, columns, sources, joins, conditions, groupBy, groupConditions, windows,
      compounds, orderBy, limit, offset, lock⟩ =>
    .query ⟨commonTables, distinct, columns, sources, joins, conditions, groupBy, groupConditions,
        windows, compounds, orderBy, limit, offset, lock⟩
      :: (commonTables.subterms ++ distinct.subterms ++ exprSubterms columns
        ++ exprSubterms sources ++ joinSubterms joins ++ exprSubterms conditions
        ++ exprSubterms groupBy ++ exprSubterms groupConditions ++ windowSubterms windows
        ++ compoundSubterms compounds ++ exprSubterms orderBy)

end

namespace Record

def subterms (record : Record) : List Subterm :=
  record.entries.flatMap fun entry => entry.2.subterms

end Record

namespace InsertSource

def subterms : InsertSource → List Subterm
  | .defaultValues => []
  | .rows cells => cells.flatMap exprSubterms
  | .records given => given.flatMap Record.subterms
  | .query select => select.subterms

end InsertSource

namespace ConflictAction

def subterms : ConflictAction → List Subterm
  | .nothing => []
  | .update assignments condition => assignments.subterms ++ exprSubterms condition.toList

end ConflictAction

namespace Insert

def subterms (insert : Insert) : List Subterm :=
  insert.commonTables.subterms ++ exprSubterms insert.table.toList ++ exprSubterms insert.columns
    ++ insert.source.subterms
    ++ insert.conflict.toList.flatMap (fun conflict => conflict.action.subterms)
    ++ exprSubterms insert.returning

end Insert

namespace Update

def subterms (update : Update) : List Subterm :=
  update.commonTables.subterms ++ exprSubterms update.table.toList ++ update.assignments.subterms
    ++ exprSubterms update.furtherTables ++ exprSubterms update.conditions
    ++ exprSubterms update.orderBy ++ exprSubterms update.returning

end Update

namespace Delete

def subterms (delete : Delete) : List Subterm :=
  delete.commonTables.subterms ++ exprSubterms delete.table.toList
    ++ exprSubterms delete.conditions ++ exprSubterms delete.orderBy
    ++ exprSubterms delete.returning

end Delete

namespace Statement

/-- Every expression and query that a statement is made of. -/
def subterms : Statement → List Subterm
  | .select query => query.subterms
  | .insert insertion => insertion.subterms
  | .update change => change.subterms
  | .delete deletion => deletion.subterms
  | .truncate truncation => exprSubterms truncation.tables

end Statement

end SqlDialects
