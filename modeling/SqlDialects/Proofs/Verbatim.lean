import SqlDialects.Proofs.Draft.Closed

/-!
The texts that stand in a statement as they were given. If those of an expression or a query are
closed, then so is all of it under a neutral dialect, by recursion on the syntax.
-/

namespace SqlDialects

open Draft

/-- The text that an expression takes over as it is: raw text with its arguments filled in, the name
of a function, or the type of a cast. -/
def Expr.Verbatim (dialect : NamedDialect) : Expr → List Char → Prop
  | .raw sql arguments, text =>
      (Draft.raw sql (Text.pieces '?' sql) (expressionDrafts dialect true arguments)).Inlines
        dialect text
  | .cast _ type, text => text = type.toList
  | .function name _ _ _, text => text = name.toList
  | _, _ => False

def Subterm.IsClosed (dialect : NamedDialect) : Subterm → Prop
  | .expr part =>
      ∀ text, part.Verbatim dialect text → SqlDialects.IsClosed dialect.takesBackslash text
  | .query _ => True

/-- Whatever was given as text is closed. -/
def AllClosed (dialect : NamedDialect) (subterms : List Subterm) : Prop :=
  ∀ subterm ∈ subterms, subterm.IsClosed dialect

namespace AllClosed

variable {dialect : NamedDialect} {subterm : Subterm} {first rest : List Subterm}

theorem head (closed : AllClosed dialect (subterm :: rest)) : subterm.IsClosed dialect :=
  closed subterm List.mem_cons_self

theorem tail (closed : AllClosed dialect (subterm :: rest)) : AllClosed dialect rest :=
  fun other member => closed other (List.mem_cons_of_mem _ member)

theorem left (closed : AllClosed dialect (first ++ rest)) : AllClosed dialect first :=
  fun other member => closed other (List.mem_append_left _ member)

@[simp] theorem append_iff :
    AllClosed dialect (first ++ rest) ↔ AllClosed dialect first ∧ AllClosed dialect rest :=
  List.forall_mem_append

theorem right (closed : AllClosed dialect (first ++ rest)) : AllClosed dialect rest :=
  fun other member => closed other (List.mem_append_right _ member)

theorem leftOperand {operator : BitOperator} {left : Expr}
    (closed : AllClosed dialect (if operator = .invert then [] else left.subterms))
    (writesLeft : operator ≠ .invert) : AllClosed dialect left.subterms := by
  rwa [if_neg writesLeft] at closed

end AllClosed

variable {dialect : NamedDialect}

theorem Select.draft_closed_of_parts {query : Select}
    (closed : (query.parts dialect).Closed dialect) : (query.draft dialect).Closed dialect := by
  rw [draft_eq_parts]
  exact closed.draft dialect.name dialect.orders.select

mutual

theorem Expr.draft_closed (neutral : dialect.Neutral) : ∀ (expr : Expr) (nested : Bool),
    AllClosed dialect expr.subterms → (expr.draft dialect nested).Closed dialect
  | .identifier identifier, _, _ => neutral.closed_identifierDraft identifier
  | .literal value, _, _ => neutral.closed_valueDraft value
  | .raw _ _, _, closed => closed.head
  | .aliased expr name, _, closed =>
      ((expr.draft_closed neutral true closed.tail).append (closed_word (by decide))).append
        (neutral.closed_identifierDraft name)
  | .comparison operator left right, nested, closed =>
      closed_parenthesizedIf nested
        (neutral.closed_comparisonDraft operator _ (left.draft_closed neutral true closed.tail.left)
          (right.draft_closed neutral true closed.tail.right))
  | .bitwise operator left right, _, closed =>
      neutral.closed_bitwiseDraft operator
        (fun writesLeft => by
          rintro _ ⟨⟩
          exact left.draft_closed neutral true (closed.tail.left.leftOperand writesLeft))
        (right.draft_closed neutral true closed.tail.right)
  | .rightBitwise operator right, _, closed =>
      neutral.closed_bitwiseDraft operator (by simp) (right.draft_closed neutral true closed.tail)
  | .range test expr low high, nested, closed =>
      closed_parenthesizedIf nested
        (closed_range test (expr.draft_closed neutral true closed.tail.left.left)
          (low.draft_closed neutral true closed.tail.left.right)
          (high.draft_closed neutral true closed.tail.right))
  | .conditions connective items, nested, closed =>
      closed_conditions connective nested (conditionItems_closed neutral items closed.tail)
  | .tuple items, _, closed =>
      neutral.closed_tupleDraft (expressionDrafts_closed neutral items false closed.tail)
  | .ordered expr direction nulls, _, closed =>
      ((expr.draft_closed neutral true closed.tail).append
        (closed_word (by cases direction <;> decide))).append (neutral.closed_nullsDraft nulls)
  | .cast expr type, _, closed =>
      closed_bracketed "CAST".toList (" AS ".toList ++ type.toList) rfl (by simp)
        (isClosed_of_ordinary (by decide))
        ((isClosed_of_ordinary (by decide)).append (closed.head type.toList rfl))
        (expr.draft_closed neutral false closed.tail)
  | .function name arguments distinct window, _, closed =>
      (closed_call (closed.head name.toList rfl) distinct
        (expressionDrafts_closed neutral arguments false closed.tail.left)).append
        (window.draft_closed neutral closed.tail.right)
  | .subquery query, _, closed =>
      closed_parenthesized (Select.draft_closed_of_parts (query.parts_closed neutral closed.tail))
  | .not expr, nested, closed =>
      closed_parenthesizedIf nested
        (closed_bracketed "NOT ".toList [] rfl rfl (isClosed_of_ordinary (by decide)) isClosed_nil
          (expr.draft_closed neutral false closed.tail))
  | .filter filter, nested, closed => filter.draft_closed neutral nested closed.tail
  | .excluded column, _, _ => neutral.closed_excludedDraft column
  | .default, _, _ => closed_word (by decide)

theorem expressionDrafts_closed (neutral : dialect.Neutral) : ∀ (exprs : List Expr) (nested : Bool),
    AllClosed dialect (exprSubterms exprs) →
      ∀ draft ∈ expressionDrafts dialect nested exprs, draft.Closed dialect
  | [], _, _ => by simp [expressionDrafts]
  | expr :: rest, nested, closed =>
      List.forall_mem_cons.mpr ⟨expr.draft_closed neutral nested closed.left,
        expressionDrafts_closed neutral rest nested closed.right⟩

theorem conditionItems_closed (neutral : dialect.Neutral) : ∀ exprs : List Expr,
    AllClosed dialect (exprSubterms exprs) →
      ∀ item ∈ conditionItems dialect exprs, item.Closed dialect
  | [], _ => by simp [conditionItems]
  | expr :: rest, closed =>
      List.forall_mem_cons.mpr ⟨fun nested => expr.draft_closed neutral nested closed.left,
        conditionItems_closed neutral rest closed.right⟩

theorem FilterTest.draft_closed (neutral : dialect.Neutral) :
    ∀ (test : FilterTest) {column : Draft}, column.Closed dialect →
      AllClosed dialect test.subterms → (test.draft dialect column).Closed dialect
  | .comparison _ value, _, columnClosed, closed =>
      neutral.closed_comparisonDraft _ _ columnClosed (value.draft_closed neutral true closed)
  | .range test low high, _, columnClosed, closed =>
      closed_range test columnClosed (low.draft_closed neutral true closed.left)
        (high.draft_closed neutral true closed.right)

theorem filterTestItems_closed (neutral : dialect.Neutral) :
    ∀ (tests : List FilterTest) {column : Draft}, column.Closed dialect →
      AllClosed dialect (filterTestSubterms tests) →
        ∀ item ∈ filterTestItems dialect column tests, item.Closed dialect
  | [], _, _, _ => by simp [filterTestItems]
  | test :: rest, _, columnClosed, closed =>
      List.forall_mem_cons.mpr
        ⟨fun nested =>
          closed_parenthesizedIf nested (test.draft_closed neutral columnClosed closed.left),
          filterTestItems_closed neutral rest columnClosed closed.right⟩

theorem FilterEntry.item_closed (neutral : dialect.Neutral) : ∀ entry : FilterEntry,
    AllClosed dialect entry.subterms → (entry.item dialect).Closed dialect
  | .value _ operand, closed => fun nested =>
      closed_parenthesizedIf nested
        (neutral.closed_comparisonDraft _ _ (neutral.closed_identifierDraft _)
          (operand.draft_closed neutral true closed))
  | .tests _ tests, closed => fun nested =>
      closed_conditions .or nested
        (filterTestItems_closed neutral tests (neutral.closed_identifierDraft _) closed)

theorem filterEntryItems_closed (neutral : dialect.Neutral) : ∀ entries : List FilterEntry,
    AllClosed dialect (filterEntrySubterms entries) →
      ∀ item ∈ filterEntryItems dialect entries, item.Closed dialect
  | [], _ => by simp [filterEntryItems]
  | entry :: rest, closed =>
      List.forall_mem_cons.mpr ⟨entry.item_closed neutral closed.left,
        filterEntryItems_closed neutral rest closed.right⟩

theorem Filter.draft_closed (neutral : dialect.Neutral) : ∀ (filter : Filter) (nested : Bool),
    AllClosed dialect filter.subterms → (filter.draft dialect nested).Closed dialect
  | ⟨_, entries⟩, nested, closed =>
      closed_conditions _ nested (filterEntryItems_closed neutral entries closed)

theorem Window.draft_closed (neutral : dialect.Neutral) : ∀ window : Window,
    AllClosed dialect window.subterms → (window.draft dialect).Closed dialect
  | ⟨_, parent, partitionBy, orderBy⟩, closed =>
      neutral.closed_windowDraft parent
        (expressionDrafts_closed neutral partitionBy false closed.left)
        (expressionDrafts_closed neutral orderBy false closed.right)

theorem Over.draft_closed (neutral : dialect.Neutral) : ∀ window : Over,
    AllClosed dialect window.subterms → (window.draft dialect).Closed dialect
  | .absent, _ => closed_nil
  | .named name, _ =>
      ((closed_demand _ _ _).append (closed_word (by decide))).append
        (neutral.closed_nameDraft name)
  | .inline window, closed =>
      ((closed_demand _ _ _).append (closed_word (by decide))).append
        (closed_parenthesized (window.draft_closed neutral closed))

theorem namedWindowDrafts_closed (neutral : dialect.Neutral) : ∀ windows : List Window,
    AllClosed dialect (windowSubterms windows) →
      ∀ draft ∈ namedWindowDrafts dialect windows, draft.Closed dialect
  | [], _ => by simp [namedWindowDrafts]
  | ⟨name, parent, partitionBy, orderBy⟩ :: rest, closed =>
      List.forall_mem_cons.mpr
        ⟨neutral.closed_namedWindowDraft name
          (neutral.closed_windowDraft parent
            (expressionDrafts_closed neutral partitionBy false closed.left.left)
            (expressionDrafts_closed neutral orderBy false closed.left.right)),
          namedWindowDrafts_closed neutral rest closed.right⟩

theorem JoinCondition.part_closed (neutral : dialect.Neutral) : ∀ condition : JoinCondition,
    AllClosed dialect condition.subterms →
      ∀ drafted, condition.part dialect = .on drafted → drafted.Closed dialect
  | .none, _ => by simp [JoinCondition.part]
  | .on condition, closed => by
      rintro _ ⟨⟩
      exact condition.draft_closed neutral false closed
  | .using _, _ => by simp [JoinCondition.part]

theorem Join.draft_closed (neutral : dialect.Neutral) : ∀ join : Join,
    AllClosed dialect join.subterms → (join.draft dialect).Closed dialect
  | ⟨kind, source, condition⟩, closed =>
      neutral.closed_joinDraft kind (source.draft_closed neutral false closed.left)
        (condition.part_closed neutral closed.right)

theorem joinDrafts_closed (neutral : dialect.Neutral) : ∀ joins : List Join,
    AllClosed dialect (joinSubterms joins) → (joinDrafts dialect joins).Closed dialect
  | [], _ => closed_nil
  | join :: rest, closed =>
      (join.draft_closed neutral closed.left).append (joinDrafts_closed neutral rest closed.right)

theorem CommonTable.draft_closed (neutral : dialect.Neutral) : ∀ table : CommonTable,
    AllClosed dialect table.subterms → (table.draft dialect).Closed dialect
  | ⟨name, query⟩, closed =>
      neutral.closed_named name
        (Select.draft_closed_of_parts (query.parts_closed neutral closed))

theorem commonTableDrafts_closed (neutral : dialect.Neutral) : ∀ tables : List CommonTable,
    AllClosed dialect (commonTableSubterms tables) →
      ∀ draft ∈ commonTableDrafts dialect tables, draft.Closed dialect
  | [], _ => by simp [commonTableDrafts]
  | table :: rest, closed =>
      List.forall_mem_cons.mpr ⟨table.draft_closed neutral closed.left,
        commonTableDrafts_closed neutral rest closed.right⟩

theorem CommonTables.draft_closed (neutral : dialect.Neutral) : ∀ tables : CommonTables,
    AllClosed dialect tables.subterms → (tables.draft dialect).Closed dialect
  | ⟨recursive, tables⟩, closed =>
      neutral.closed_commonTablesDraft recursive (commonTableDrafts_closed neutral tables closed)

theorem Compound.draft_closed (neutral : dialect.Neutral) : ∀ compound : Compound,
    AllClosed dialect compound.subterms → (compound.draft dialect).Closed dialect
  | ⟨kind, query⟩, closed =>
      neutral.closed_compoundDraft kind
        (Select.draft_closed_of_parts (query.parts_closed neutral closed))

theorem compoundDrafts_closed (neutral : dialect.Neutral) : ∀ compounds : List Compound,
    AllClosed dialect (compoundSubterms compounds) →
      (compoundDrafts dialect compounds).Closed dialect
  | [], _ => closed_nil
  | compound :: rest, closed =>
      (compound.draft_closed neutral closed.left).append
        (compoundDrafts_closed neutral rest closed.right)

theorem Distinct.draft_closed (neutral : dialect.Neutral) : ∀ distinct : Distinct,
    AllClosed dialect distinct.subterms → (distinct.draft dialect).Closed dialect
  | .none, _ => closed_nil
  | .all, _ => neutral.keyword (by simp [Dialect.ownWords])
  | .on columns, closed =>
      neutral.closed_distinctOnDraft (expressionDrafts_closed neutral columns false closed)

theorem Select.parts_closed (neutral : dialect.Neutral) : ∀ query : Select,
    AllClosed dialect query.subterms → (query.parts dialect).Closed dialect
  | ⟨commonTables, distinct, columns, sources, joins, conditions, groupBy, groupConditions, windows,
      compounds, orderBy, limit, offset, lock⟩, closed => by
    have given := closed.tail
    simp only [AllClosed.append_iff, and_assoc] at given
    obtain ⟨inTables, inDistinct, inColumns, inSources, inJoins, inConditions, inGroups,
      inGroupConditions, inWindows, inCompounds, inOrder⟩ := given
    exact
      { commonTables := commonTables.draft_closed neutral inTables
        opening := (neutral.keyword (by simp [Dialect.ownWords])).append
          (distinct.draft_closed neutral inDistinct)
        columns := closed_columns (expressionDrafts_closed neutral columns false inColumns)
        sources :=
          closed_listed (by decide) (expressionDrafts_closed neutral sources false inSources)
        joins := joinDrafts_closed neutral joins inJoins
        conditions :=
          closed_asked (by decide) (conditionItems_closed neutral conditions inConditions)
        groups := closed_listed (by decide) (expressionDrafts_closed neutral groupBy false inGroups)
        groupConditions :=
          closed_asked (by decide) (conditionItems_closed neutral groupConditions inGroupConditions)
        windows := ((closed_demand _ _ _).append (closed_word (by decide))).append
          (closed_commaSeparated (namedWindowDrafts_closed neutral windows inWindows))
        compounds := compoundDrafts_closed neutral compounds inCompounds
        order := closed_listed (by decide) (expressionDrafts_closed neutral orderBy false inOrder)
        limit := neutral.closed_rows limit
        offset := neutral.closed_rows offset
        lock := neutral.closed_lockDraft lock }

end

theorem Select.draft_closed (neutral : dialect.Neutral) (query : Select)
    (closed : AllClosed dialect query.subterms) : (query.draft dialect).Closed dialect :=
  Select.draft_closed_of_parts (query.parts_closed neutral closed)

end SqlDialects
