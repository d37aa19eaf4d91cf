import SqlDialects.Statement

/-!
Places for an expression inside a statement. A place is given by what it makes of the expression
that is put there. Lists of conditions and the clauses that hold conditions skip an expression that
asks nothing; all other surroundings write what they are given.
-/

namespace SqlDialects

mutual

/-- A place in an expression. `skips` says whether empty conditions are skipped at the place, and
the second argument whether they are skipped where the whole expression stands. -/
inductive Expr.Place (skips : Bool) : Bool → (Expr → Expr) → Prop
  | here : Expr.Place skips skips fun expr => expr
  | raw {outer : Bool} (sql : String) {arguments : Expr → List Expr}
      (inner : Expr.ListPlace skips false arguments) :
      Expr.Place skips outer fun expr => .raw sql (arguments expr)
  | aliased {outer : Bool} {place : Expr → Expr} (inner : Expr.Place skips false place)
      (name : Identifier) : Expr.Place skips outer fun expr => .aliased (place expr) name
  | comparisonLeft {outer : Bool} (operator : Comparison) {place : Expr → Expr}
      (inner : Expr.Place skips false place) (right : Expr) :
      Expr.Place skips outer fun expr => .comparison operator (place expr) right
  | comparisonRight {outer : Bool} (operator : Comparison) (left : Expr) {place : Expr → Expr}
      (inner : Expr.Place skips false place) :
      Expr.Place skips outer fun expr => .comparison operator left (place expr)
  | bitwiseLeft {outer : Bool} (operator : BitOperator) {place : Expr → Expr}
      (inner : Expr.Place skips false place) (right : Expr) :
      Expr.Place skips outer fun expr => .bitwise operator (place expr) right
  | bitwiseRight {outer : Bool} (operator : BitOperator) (left : Expr) {place : Expr → Expr}
      (inner : Expr.Place skips false place) :
      Expr.Place skips outer fun expr => .bitwise operator left (place expr)
  | rightBitwise {outer : Bool} (operator : BitOperator) {place : Expr → Expr}
      (inner : Expr.Place skips false place) :
      Expr.Place skips outer fun expr => .rightBitwise operator (place expr)
  | ranged {outer : Bool} (test : RangeTest) {place : Expr → Expr}
      (inner : Expr.Place skips false place) (low high : Expr) :
      Expr.Place skips outer fun expr => .range test (place expr) low high
  | low {outer : Bool} (test : RangeTest) (ranged : Expr) {place : Expr → Expr}
      (inner : Expr.Place skips false place) (high : Expr) :
      Expr.Place skips outer fun expr => .range test ranged (place expr) high
  | high {outer : Bool} (test : RangeTest) (ranged low : Expr) {place : Expr → Expr}
      (inner : Expr.Place skips false place) :
      Expr.Place skips outer fun expr => .range test ranged low (place expr)
  | conditions {outer : Bool} (connective : Connective) {items : Expr → List Expr}
      (inner : Expr.ListPlace skips true items) :
      Expr.Place skips outer fun expr => .conditions connective (items expr)
  | tuple {outer : Bool} {items : Expr → List Expr} (inner : Expr.ListPlace skips false items) :
      Expr.Place skips outer fun expr => .tuple (items expr)
  | ordered {outer : Bool} {place : Expr → Expr} (inner : Expr.Place skips false place)
      (direction : Direction) (nulls : Option NullsPlacement) :
      Expr.Place skips outer fun expr => .ordered (place expr) direction nulls
  | cast {outer : Bool} {place : Expr → Expr} (inner : Expr.Place skips false place)
      (type : String) : Expr.Place skips outer fun expr => .cast (place expr) type
  | arguments {outer : Bool} (name : String) {arguments : Expr → List Expr}
      (inner : Expr.ListPlace skips false arguments) (distinct : Bool) (window : Over) :
      Expr.Place skips outer fun expr => .function name (arguments expr) distinct window
  | over {outer : Bool} (name : String) (arguments : List Expr) (distinct : Bool)
      {window : Expr → Window} (inner : Window.Place skips window) :
      Expr.Place skips outer fun expr =>
        .function name arguments distinct (.inline (window expr))
  | subquery {outer : Bool} {query : Expr → Select} (inner : Select.Place skips query) :
      Expr.Place skips outer fun expr => .subquery (query expr)
  | not {outer : Bool} {place : Expr → Expr} (inner : Expr.Place skips false place) :
      Expr.Place skips outer fun expr => .not (place expr)
  | filter {outer : Bool} (any : Bool) (before : List FilterEntry) {entry : Expr → FilterEntry}
      (inner : FilterEntry.Place skips entry) (after : List FilterEntry) :
      Expr.Place skips outer fun expr => .filter ⟨any, before ++ entry expr :: after⟩

inductive Expr.ListPlace (skips : Bool) : Bool → (Expr → List Expr) → Prop
  | item {outer : Bool} (before : List Expr) {place : Expr → Expr}
      (inner : Expr.Place skips outer place) (after : List Expr) :
      Expr.ListPlace skips outer fun expr => before ++ place expr :: after

inductive FilterEntry.Place (skips : Bool) : (Expr → FilterEntry) → Prop
  | value (column : String) {place : Expr → Expr} (inner : Expr.Place skips false place) :
      FilterEntry.Place skips fun expr => .value column (place expr)
  | tests (column : String) (before : List FilterTest) {test : Expr → FilterTest}
      (inner : FilterTest.Place skips test) (after : List FilterTest) :
      FilterEntry.Place skips fun expr => .tests column (before ++ test expr :: after)

inductive FilterTest.Place (skips : Bool) : (Expr → FilterTest) → Prop
  | comparison (operator : Comparison) {place : Expr → Expr}
      (inner : Expr.Place skips false place) :
      FilterTest.Place skips fun expr => .comparison operator (place expr)
  | low (test : RangeTest) {place : Expr → Expr} (inner : Expr.Place skips false place)
      (high : Expr) : FilterTest.Place skips fun expr => .range test (place expr) high
  | high (test : RangeTest) (low : Expr) {place : Expr → Expr}
      (inner : Expr.Place skips false place) :
      FilterTest.Place skips fun expr => .range test low (place expr)

inductive Window.Place (skips : Bool) : (Expr → Window) → Prop
  | partitionBy (window : Window) {keys : Expr → List Expr}
      (inner : Expr.ListPlace skips false keys) :
      Window.Place skips fun expr => { window with partitionBy := keys expr }
  | orderBy (window : Window) {keys : Expr → List Expr}
      (inner : Expr.ListPlace skips false keys) :
      Window.Place skips fun expr => { window with orderBy := keys expr }

inductive Join.Place (skips : Bool) : (Expr → Join) → Prop
  | source (join : Join) {place : Expr → Expr} (inner : Expr.Place skips false place) :
      Join.Place skips fun expr => { join with source := place expr }
  | on (join : Join) {place : Expr → Expr} (inner : Expr.Place skips false place) :
      Join.Place skips fun expr => { join with condition := .on (place expr) }

inductive CommonTables.Place (skips : Bool) : (Expr → CommonTables) → Prop
  | table (recursive : Bool) (before : List CommonTable) (name : String)
      {query : Expr → Select} (inner : Select.Place skips query) (after : List CommonTable) :
      CommonTables.Place skips fun expr => ⟨recursive, before ++ ⟨name, query expr⟩ :: after⟩

inductive Select.Place (skips : Bool) : (Expr → Select) → Prop
  | commonTables (select : Select) {tables : Expr → CommonTables}
      (inner : CommonTables.Place skips tables) :
      Select.Place skips fun expr => { select with commonTables := tables expr }
  | distinct (select : Select) {columns : Expr → List Expr}
      (inner : Expr.ListPlace skips false columns) :
      Select.Place skips fun expr => { select with distinct := .on (columns expr) }
  | columns (select : Select) {columns : Expr → List Expr}
      (inner : Expr.ListPlace skips false columns) :
      Select.Place skips fun expr => { select with columns := columns expr }
  | sources (select : Select) {sources : Expr → List Expr}
      (inner : Expr.ListPlace skips false sources) :
      Select.Place skips fun expr => { select with sources := sources expr }
  | joins (select : Select) (before : List Join) {join : Expr → Join}
      (inner : Join.Place skips join) (after : List Join) :
      Select.Place skips fun expr => { select with joins := before ++ join expr :: after }
  | conditions (select : Select) {conditions : Expr → List Expr}
      (inner : Expr.ListPlace skips true conditions) :
      Select.Place skips fun expr => { select with conditions := conditions expr }
  | groupBy (select : Select) {keys : Expr → List Expr}
      (inner : Expr.ListPlace skips false keys) :
      Select.Place skips fun expr => { select with groupBy := keys expr }
  | groupConditions (select : Select) {conditions : Expr → List Expr}
      (inner : Expr.ListPlace skips true conditions) :
      Select.Place skips fun expr => { select with groupConditions := conditions expr }
  | windows (select : Select) (before : List Window) {window : Expr → Window}
      (inner : Window.Place skips window) (after : List Window) :
      Select.Place skips fun expr => { select with windows := before ++ window expr :: after }
  | compounds (select : Select) (before : List Compound) (kind : CompoundKind)
      {query : Expr → Select} (inner : Select.Place skips query) (after : List Compound) :
      Select.Place skips fun expr =>
        { select with compounds := before ++ ⟨kind, query expr⟩ :: after }
  | orderBy (select : Select) {keys : Expr → List Expr}
      (inner : Expr.ListPlace skips false keys) :
      Select.Place skips fun expr => { select with orderBy := keys expr }

end

variable (skips : Bool)

inductive Record.Place : (Expr → Record) → Prop
  | value (before : List (String × Expr)) (column : String) {place : Expr → Expr}
      (inner : Expr.Place skips false place) (after : List (String × Expr))
      (duplicates : List String)
      (columns_nodup : ∀ expr, ((before ++ (column, place expr) :: after).map Prod.fst).Nodup) :
      Record.Place fun expr =>
        ⟨before ++ (column, place expr) :: after, duplicates, columns_nodup expr⟩

inductive InsertSource.Place : (Expr → InsertSource) → Prop
  | row (before : List (List Expr)) {row : Expr → List Expr}
      (inner : Expr.ListPlace skips false row) (after : List (List Expr)) :
      InsertSource.Place fun expr => .rows (before ++ row expr :: after)
  | record (before : List Record) {record : Expr → Record} (inner : Record.Place skips record)
      (after : List Record) :
      InsertSource.Place fun expr => .records (before ++ record expr :: after)
  | query {query : Expr → Select} (inner : Select.Place skips query) :
      InsertSource.Place fun expr => .query (query expr)

inductive ConflictAction.Place : (Expr → ConflictAction) → Prop
  | assignments {assignments : Expr → Record} (inner : Record.Place skips assignments)
      (condition : Option Expr) :
      ConflictAction.Place fun expr => .update (assignments expr) condition
  | condition (assignments : Record) {place : Expr → Expr}
      (inner : Expr.Place skips true place) :
      ConflictAction.Place fun expr => .update assignments (some (place expr))

inductive Insert.Place : (Expr → Insert) → Prop
  | commonTables (insert : Insert) {tables : Expr → CommonTables}
      (inner : CommonTables.Place skips tables) :
      Insert.Place fun expr => { insert with commonTables := tables expr }
  | table (insert : Insert) {place : Expr → Expr} (inner : Expr.Place skips false place) :
      Insert.Place fun expr => { insert with table := some (place expr) }
  | columns (insert : Insert) {columns : Expr → List Expr}
      (inner : Expr.ListPlace skips false columns) :
      Insert.Place fun expr => { insert with columns := columns expr }
  | source (insert : Insert) {source : Expr → InsertSource}
      (inner : InsertSource.Place skips source) :
      Insert.Place fun expr => { insert with source := source expr }
  | conflict (insert : Insert) (target : List String) {action : Expr → ConflictAction}
      (inner : ConflictAction.Place skips action) :
      Insert.Place fun expr => { insert with conflict := some ⟨target, action expr⟩ }
  | returning (insert : Insert) {columns : Expr → List Expr}
      (inner : Expr.ListPlace skips false columns) :
      Insert.Place fun expr => { insert with returning := columns expr }

inductive Update.Place : (Expr → Update) → Prop
  | commonTables (update : Update) {tables : Expr → CommonTables}
      (inner : CommonTables.Place skips tables) :
      Update.Place fun expr => { update with commonTables := tables expr }
  | table (update : Update) {place : Expr → Expr} (inner : Expr.Place skips false place) :
      Update.Place fun expr => { update with table := some (place expr) }
  | assignments (update : Update) {assignments : Expr → Record}
      (inner : Record.Place skips assignments) :
      Update.Place fun expr => { update with assignments := assignments expr }
  | furtherTables (update : Update) {tables : Expr → List Expr}
      (inner : Expr.ListPlace skips false tables) :
      Update.Place fun expr => { update with furtherTables := tables expr }
  | conditions (update : Update) {conditions : Expr → List Expr}
      (inner : Expr.ListPlace skips true conditions) :
      Update.Place fun expr => { update with conditions := conditions expr }
  | orderBy (update : Update) {keys : Expr → List Expr}
      (inner : Expr.ListPlace skips false keys) :
      Update.Place fun expr => { update with orderBy := keys expr }
  | returning (update : Update) {columns : Expr → List Expr}
      (inner : Expr.ListPlace skips false columns) :
      Update.Place fun expr => { update with returning := columns expr }

inductive Delete.Place : (Expr → Delete) → Prop
  | commonTables (delete : Delete) {tables : Expr → CommonTables}
      (inner : CommonTables.Place skips tables) :
      Delete.Place fun expr => { delete with commonTables := tables expr }
  | table (delete : Delete) {place : Expr → Expr} (inner : Expr.Place skips false place) :
      Delete.Place fun expr => { delete with table := some (place expr) }
  | conditions (delete : Delete) {conditions : Expr → List Expr}
      (inner : Expr.ListPlace skips true conditions) :
      Delete.Place fun expr => { delete with conditions := conditions expr }
  | orderBy (delete : Delete) {keys : Expr → List Expr}
      (inner : Expr.ListPlace skips false keys) :
      Delete.Place fun expr => { delete with orderBy := keys expr }
  | returning (delete : Delete) {columns : Expr → List Expr}
      (inner : Expr.ListPlace skips false columns) :
      Delete.Place fun expr => { delete with returning := columns expr }

/-- A place anywhere in a statement. -/
inductive Statement.Place : (Expr → Statement) → Prop
  | select {query : Expr → Select} (inner : Select.Place skips query) :
      Statement.Place fun expr => .select (query expr)
  | insert {insertion : Expr → Insert} (inner : Insert.Place skips insertion) :
      Statement.Place fun expr => .insert (insertion expr)
  | update {change : Expr → Update} (inner : Update.Place skips change) :
      Statement.Place fun expr => .update (change expr)
  | delete {deletion : Expr → Delete} (inner : Delete.Place skips deletion) :
      Statement.Place fun expr => .delete (deletion expr)
  | truncate (truncation : Truncate) {tables : Expr → List Expr}
      (inner : Expr.ListPlace skips false tables) :
      Statement.Place fun expr => .truncate { truncation with tables := tables expr }

end SqlDialects
