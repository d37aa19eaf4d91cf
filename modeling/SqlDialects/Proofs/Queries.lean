import SqlDialects.Compile

/-!
The queries inside a statement, however deep they are nested in its expressions.
-/

namespace SqlDialects

mutual

def Expr.queries : Expr → List Select
  | .identifier _ => []
  | .literal _ => []
  | .raw _ arguments => exprQueries arguments
  | .aliased expr _ => expr.queries
  | .comparison _ left right => left.queries ++ right.queries
  | .bitwise _ left right => left.queries ++ right.queries
  | .rightBitwise _ right => right.queries
  | .range _ expr low high => expr.queries ++ (low.queries ++ high.queries)
  | .conditions _ items => exprQueries items
  | .tuple items => exprQueries items
  | .ordered expr _ _ => expr.queries
  | .cast expr _ => expr.queries
  | .function _ arguments _ window => exprQueries arguments ++ window.queries
  | .subquery query => query.queries
  | .not expr => expr.queries
  | .filter filter => filter.queries
  | .excluded _ => []
  | .default => []

def exprQueries : List Expr → List Select
  | [] => []
  | expr :: rest => expr.queries ++ exprQueries rest

def FilterTest.queries : FilterTest → List Select
  | .comparison _ value => value.queries
  | .range _ low high => low.queries ++ high.queries

def filterTestQueries : List FilterTest → List Select
  | [] => []
  | test :: rest => test.queries ++ filterTestQueries rest

def FilterEntry.queries : FilterEntry → List Select
  | .value _ operand => operand.queries
  | .tests _ tests => filterTestQueries tests

def filterEntryQueries : List FilterEntry → List Select
  | [] => []
  | entry :: rest => entry.queries ++ filterEntryQueries rest

def Filter.queries : Filter → List Select
  | ⟨_, entries⟩ => filterEntryQueries entries

def Window.queries : Window → List Select
  | ⟨_, _, partitionBy, orderBy⟩ => exprQueries partitionBy ++ exprQueries orderBy

def windowQueries : List Window → List Select
  | [] => []
  | window :: rest => window.queries ++ windowQueries rest

def Over.queries : Over → List Select
  | .absent => []
  | .named _ => []
  | .inline window => window.queries

def JoinCondition.queries : JoinCondition → List Select
  | .none => []
  | .on condition => condition.queries
  | .using _ => []

def Join.queries : Join → List Select
  | ⟨_, source, condition⟩ => source.queries ++ condition.queries

def joinQueries : List Join → List Select
  | [] => []
  | join :: rest => join.queries ++ joinQueries rest

def CommonTable.queries : CommonTable → List Select
  | ⟨_, query⟩ => query.queries

def commonTableQueries : List CommonTable → List Select
  | [] => []
  | table :: rest => table.queries ++ commonTableQueries rest

def CommonTables.queries : CommonTables → List Select
  | ⟨_, tables⟩ => commonTableQueries tables

def Compound.queries : Compound → List Select
  | ⟨_, query⟩ => query.queries

def compoundQueries : List Compound → List Select
  | [] => []
  | compound :: rest => compound.queries ++ compoundQueries rest

def Distinct.queries : Distinct → List Select
  | .none => []
  | .all => []
  | .on columns => exprQueries columns

def Select.queries : Select → List Select
  | ⟨commonTables, distinct, columns, sources, joins, conditions, groupBy, groupConditions, windows,
      compounds, orderBy, limit, offset, lock⟩ =>
    ⟨commonTables, distinct, columns, sources, joins, conditions, groupBy, groupConditions, windows,
      compounds, orderBy, limit, offset, lock⟩ ::
    (commonTables.queries ++ (distinct.queries ++ (exprQueries columns ++ (exprQueries sources ++
      (joinQueries joins ++ (exprQueries conditions ++ (exprQueries groupBy ++
      (exprQueries groupConditions ++ (windowQueries windows ++ (compoundQueries compounds ++
      exprQueries orderBy))))))))))

end

theorem Select.mem_queries (query : Select) : query ∈ query.queries := by
  cases query
  simp [Select.queries]

namespace Record

def queries (record : Record) : List Select :=
  record.entries.flatMap fun entry => entry.2.queries

end Record

namespace InsertSource

def queries : InsertSource → List Select
  | .defaultValues => []
  | .rows cells => cells.flatMap exprQueries
  | .records given => given.flatMap Record.queries
  | .query select => select.queries

end InsertSource

namespace Conflict

def queries (conflict : Conflict) : List Select :=
  match conflict.action with
  | .nothing => []
  | .update assignments condition => assignments.queries ++ condition.elim [] Expr.queries

end Conflict

namespace Statement

/-- All queries in a statement, a selection itself included. -/
def queries : Statement → List Select
  | .select query => query.queries
  | .insert insertion =>
      insertion.commonTables.queries ++ (insertion.table.elim [] Expr.queries ++
        (exprQueries insertion.columns ++ (insertion.source.queries ++
        (insertion.conflict.elim [] Conflict.queries ++ exprQueries insertion.returning))))
  | .update change =>
      change.commonTables.queries ++ (change.table.elim [] Expr.queries ++
        (change.assignments.queries ++ (exprQueries change.furtherTables ++
        (exprQueries change.conditions ++ (exprQueries change.orderBy ++
        exprQueries change.returning)))))
  | .delete deletion =>
      deletion.commonTables.queries ++ (deletion.table.elim [] Expr.queries ++
        (exprQueries deletion.conditions ++ (exprQueries deletion.orderBy ++
        exprQueries deletion.returning)))
  | .truncate truncation => exprQueries truncation.tables

end Statement

end SqlDialects
