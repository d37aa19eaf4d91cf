import SqlDialects.Proofs.Draft.Kinds
import SqlDialects.Proofs.Draft.Relations
import SqlDialects.Proofs.Rewriting

/-!
The draft of a rewritten expression or query under one dialect is related to the draft of the given
one under another, wherever what the rewriting puts in is, by recursion on the syntax.
-/

namespace SqlDialects

open Draft

/-- What makes a relation hold between the drafts of what a rewriting returns and of what it is
given: beside the words of the dialects, whatever stands for a literal or the columns of a join. -/
structure Rewriting.Relates (rewriting : Rewriting) (same : Prop) (first second : NamedDialect)
    (related : Draft → Draft → Prop) : Prop extends
    first.Relates same second related, rewriting.KeepsTruth where
  value : ∀ value, related (first.valueDraft (rewriting.literal value)) (second.valueDraft value)
  joinColumns : ∀ kind columns,
    related (first.joinPartDraft kind (.using (rewriting.joinColumns columns)))
      (second.joinPartDraft kind (.using columns))

variable {same : Prop} {first second : NamedDialect} {related : Draft → Draft → Prop}

theorem NamedDialect.Relates.keep (relates : first.Relates same second related)
    (literal : ∀ value : Value, value.isBindable →
      related [.value .literal value] [.value .literal value]) :
    Rewriting.keep.Relates same first second related where
  toRelates := relates
  boolean? := fun _ => rfl
  isNullOrBoolean := fun _ => rfl
  value := relates.related_valueDraft literal
  joinColumns := fun kind columns => relates.related_joinPartDraft kind (.using columns)

theorem SelectParts.Related.clauseDraft (congruent : Congruent same related)
    {left right : SelectParts} (parts : left.Related related right) (clause : Clause) :
    related (left.clauseDraft clause) (right.clauseDraft clause) := by
  cases clause with
  | commonTables => exact parts.commonTables
  | columns => exact congruent.append parts.opening parts.columns
  | sources => exact parts.sources
  | joins => exact parts.joins
  | conditions => exact parts.conditions
  | groups => exact parts.groups
  | groupConditions => exact parts.groupConditions
  | windows => exact parts.windows
  | compounds => exact parts.compounds
  | order => exact parts.order
  | limit => exact parts.limit
  | offset => exact parts.offset
  | lock => exact parts.lock
  | _ => exact congruent.nil

variable {rewriting : Rewriting}

theorem Select.draft_rewrite_of_parts (relates : rewriting.Relates same first second related)
    (query : Select)
    (parts : ((query.rewrite rewriting).parts first).Related related (query.parts second)) :
    related ((query.rewrite rewriting).draft first) (query.draft second) := by
  rw [draft_eq_parts, draft_eq_parts]
  exact relates.select _ rfl parts

mutual

theorem Expr.draft_rewrite (relates : rewriting.Relates same first second related) :
    ∀ (expr : Expr) (nested : Bool),
      related ((expr.rewrite rewriting).draft first nested) (expr.draft second nested)
  | .identifier identifier, _ => relates.related_identifierDraft identifier
  | .literal value, _ => relates.value value
  | .raw sql arguments, _ =>
      relates.related_raw sql _ (expressionDrafts_rewrite relates arguments true)
  | .aliased expr name, _ =>
      relates.append (relates.append (expr.draft_rewrite relates true) (relates.related_ofText _))
        (relates.related_identifierDraft name)
  | .comparison operator left right, nested => by
      simp only [Expr.rewrite, Expr.draft, relates.exprBoolean?_eq]
      exact relates.related_parenthesizedIf nested
        (relates.related_comparisonDraft operator _ (left.draft_rewrite relates true)
          (right.draft_rewrite relates true))
  | .bitwise operator left right, _ =>
      relates.related_bitwiseDraft operator (.some (left.draft_rewrite relates true))
        (right.draft_rewrite relates true)
  | .rightBitwise operator right, _ =>
      relates.related_bitwiseDraft operator .none (right.draft_rewrite relates true)
  | .range test expr low high, nested =>
      relates.related_parenthesizedIf nested
        (relates.related_range test (expr.draft_rewrite relates true)
          (low.draft_rewrite relates true) (high.draft_rewrite relates true))
  | .conditions connective items, nested =>
      relates.related_conditions connective nested (conditionItems_rewrite relates items)
  | .tuple items, _ => relates.related_tupleDraft (expressionDrafts_rewrite relates items false)
  | .ordered expr _ nulls, _ =>
      relates.append (relates.append (expr.draft_rewrite relates true) (relates.related_ofText _))
        (relates.related_nullsDraft nulls)
  | .cast expr _, _ => relates.related_wrapped _ _ (expr.draft_rewrite relates false)
  | .function name arguments distinct window, _ =>
      relates.append
        (relates.related_call name distinct (expressionDrafts_rewrite relates arguments false))
        (window.draft_rewrite relates)
  | .subquery query, _ =>
      relates.related_wrapped "(" ")"
        (query.draft_rewrite_of_parts relates (query.parts_rewrite relates))
  | .not expr, nested =>
      relates.related_parenthesizedIf nested
        (relates.related_wrapped _ _ (expr.draft_rewrite relates false))
  | .filter filter, nested => filter.draft_rewrite relates nested
  | .excluded column, _ => relates.related_excludedDraft column
  | .default, _ => relates.related_ofText _

theorem expressionDrafts_rewrite (relates : rewriting.Relates same first second related) :
    ∀ (exprs : List Expr) (nested : Bool),
      List.Forall₂ related (expressionDrafts first nested (rewriteExprs rewriting exprs))
        (expressionDrafts second nested exprs)
  | [], _ => .nil
  | expr :: rest, nested =>
      .cons (expr.draft_rewrite relates nested) (expressionDrafts_rewrite relates rest nested)

theorem conditionItems_rewrite (relates : rewriting.Relates same first second related) :
    ∀ exprs : List Expr,
      List.Forall₂ (Condition.Related related)
        (conditionItems first (rewriteExprs rewriting exprs)) (conditionItems second exprs)
  | [] => .nil
  | expr :: rest =>
      .cons ⟨(expr.isEmptyCondition_rewrite rewriting).symm,
        (expr.isConditionList_rewrite rewriting).symm, expr.draft_rewrite relates⟩
        (conditionItems_rewrite relates rest)

theorem FilterTest.draft_rewrite (relates : rewriting.Relates same first second related) :
    ∀ (test : FilterTest) {column column' : Draft}, related column column' →
      related ((test.rewrite rewriting).draft first column) (test.draft second column')
  | .comparison operator value, _, _, columnRelated => by
      simp only [FilterTest.rewrite, FilterTest.draft, relates.exprBoolean?_eq,
        relates.exprIsNullOrBoolean_eq]
      exact relates.related_comparisonDraft _ _ columnRelated (value.draft_rewrite relates true)
  | .range test low high, _, _, columnRelated =>
      relates.related_range test columnRelated (low.draft_rewrite relates true)
        (high.draft_rewrite relates true)

theorem filterTestItems_rewrite (relates : rewriting.Relates same first second related) :
    ∀ (tests : List FilterTest) {column column' : Draft}, related column column' →
      List.Forall₂ (Condition.Related related)
        (filterTestItems first column (rewriteFilterTests rewriting tests))
        (filterTestItems second column' tests)
  | [], _, _, _ => .nil
  | test :: rest, _, _, columnRelated =>
      .cons ⟨rfl, rfl, fun nested =>
          relates.related_parenthesizedIf nested (test.draft_rewrite relates columnRelated)⟩
        (filterTestItems_rewrite relates rest columnRelated)

theorem FilterEntry.item_rewrite (relates : rewriting.Relates same first second related) :
    ∀ entry : FilterEntry,
      ((entry.rewrite rewriting).item first).Related related (entry.item second)
  | .value _ operand => by
      simp only [FilterEntry.rewrite, FilterEntry.item, relates.exprBoolean?_eq,
        relates.exprIsNullOrBoolean_eq, Expr.filterComparison_rewrite]
      exact ⟨rfl, rfl, fun nested =>
        relates.related_parenthesizedIf nested
          (relates.related_comparisonDraft _ _ (relates.related_identifierDraft _)
            (operand.draft_rewrite relates true))⟩
  | .tests _ tests => by
      simp only [FilterEntry.rewrite, FilterEntry.item, isEmpty_rewriteFilterTests,
        length_rewriteFilterTests]
      exact ⟨rfl, rfl, fun nested =>
        relates.related_conditions .or nested
          (filterTestItems_rewrite relates tests (relates.related_identifierDraft _))⟩

theorem filterEntryItems_rewrite (relates : rewriting.Relates same first second related) :
    ∀ entries : List FilterEntry,
      List.Forall₂ (Condition.Related related)
        (filterEntryItems first (rewriteFilterEntries rewriting entries))
        (filterEntryItems second entries)
  | [] => .nil
  | entry :: rest => .cons (entry.item_rewrite relates) (filterEntryItems_rewrite relates rest)

theorem Filter.draft_rewrite (relates : rewriting.Relates same first second related) :
    ∀ (filter : Filter) (nested : Bool),
      related ((filter.rewrite rewriting).draft first nested) (filter.draft second nested)
  | ⟨_, entries⟩, nested =>
      relates.related_conditions _ nested (filterEntryItems_rewrite relates entries)

theorem Window.draft_rewrite (relates : rewriting.Relates same first second related) :
    ∀ window : Window, related ((window.rewrite rewriting).draft first) (window.draft second)
  | ⟨_, parent, partitionBy, orderBy⟩ =>
      relates.related_windowDraft parent (expressionDrafts_rewrite relates partitionBy false)
        (expressionDrafts_rewrite relates orderBy false)

theorem Over.draft_rewrite (relates : rewriting.Relates same first second related) :
    ∀ window : Over, related ((window.rewrite rewriting).draft first) (window.draft second)
  | .absent => relates.nil
  | .named name => relates.related_over (relates.related_nameDraft name)
  | .inline window =>
      relates.related_over (relates.related_wrapped "(" ")" (window.draft_rewrite relates))

theorem namedWindowDrafts_rewrite (relates : rewriting.Relates same first second related) :
    ∀ windows : List Window,
      List.Forall₂ related (namedWindowDrafts first (rewriteWindows rewriting windows))
        (namedWindowDrafts second windows)
  | [] => .nil
  | ⟨name, parent, partitionBy, orderBy⟩ :: rest =>
      .cons
        (relates.related_namedWindowDraft name
          (relates.related_windowDraft parent (expressionDrafts_rewrite relates partitionBy false)
            (expressionDrafts_rewrite relates orderBy false)))
        (namedWindowDrafts_rewrite relates rest)

theorem Join.draft_rewrite (relates : rewriting.Relates same first second related) :
    ∀ join : Join, related ((join.rewrite rewriting).draft first) (join.draft second)
  | ⟨kind, source, .none⟩ =>
      relates.related_joinDraft kind (source.draft_rewrite relates false) .none
  | ⟨kind, source, .on condition⟩ =>
      relates.related_joinDraft kind (source.draft_rewrite relates false)
        (.on (condition.draft_rewrite relates false))
  | ⟨kind, source, .using columns⟩ =>
      relates.append
        (relates.append (relates.related_joinKind kind) (source.draft_rewrite relates false))
        (relates.joinColumns kind columns)

theorem joinDrafts_rewrite (relates : rewriting.Relates same first second related) :
    ∀ joins : List Join,
      related (joinDrafts first (rewriteJoins rewriting joins)) (joinDrafts second joins)
  | [] => relates.nil
  | join :: rest => relates.append (join.draft_rewrite relates) (joinDrafts_rewrite relates rest)

theorem CommonTable.draft_rewrite (relates : rewriting.Relates same first second related) :
    ∀ table : CommonTable, related ((table.rewrite rewriting).draft first) (table.draft second)
  | ⟨name, query⟩ =>
      relates.related_commonTableDraft name
        (query.draft_rewrite_of_parts relates (query.parts_rewrite relates))

theorem commonTableDrafts_rewrite (relates : rewriting.Relates same first second related) :
    ∀ tables : List CommonTable,
      List.Forall₂ related (commonTableDrafts first (rewriteCommonTables rewriting tables))
        (commonTableDrafts second tables)
  | [] => .nil
  | table :: rest => .cons (table.draft_rewrite relates) (commonTableDrafts_rewrite relates rest)

theorem CommonTables.draft_rewrite (relates : rewriting.Relates same first second related) :
    ∀ tables : CommonTables,
      related ((tables.rewrite rewriting).draft first) (tables.draft second)
  | ⟨recursive, tables⟩ =>
      relates.related_commonTablesDraft recursive (commonTableDrafts_rewrite relates tables)

theorem Compound.draft_rewrite (relates : rewriting.Relates same first second related) :
    ∀ compound : Compound,
      related ((compound.rewrite rewriting).draft first) (compound.draft second)
  | ⟨kind, query⟩ =>
      relates.related_compoundDraft kind
        (query.draft_rewrite_of_parts relates (query.parts_rewrite relates))

theorem compoundDrafts_rewrite (relates : rewriting.Relates same first second related) :
    ∀ compounds : List Compound,
      related (compoundDrafts first (rewriteCompounds rewriting compounds))
        (compoundDrafts second compounds)
  | [] => relates.nil
  | compound :: rest =>
      relates.append (compound.draft_rewrite relates) (compoundDrafts_rewrite relates rest)

theorem Distinct.draft_rewrite (relates : rewriting.Relates same first second related) :
    ∀ distinct : Distinct,
      related ((distinct.rewrite rewriting).draft first) (distinct.draft second)
  | .none => relates.nil
  | .all => relates.word fun alike => by rw [(relates.widens alike).keywords]
  | .on columns => relates.related_distinctOnDraft (expressionDrafts_rewrite relates columns false)

theorem Select.parts_rewrite (relates : rewriting.Relates same first second related) :
    ∀ query : Select,
      ((query.rewrite rewriting).parts first).Related related (query.parts second)
  | ⟨commonTables, distinct, columns, sources, joins, conditions, groupBy, groupConditions, windows,
      compounds, orderBy, limit, offset, lock⟩ =>
    { carried := by simp [Select.parts, Select.carried, Select.rewrite]
      hasOffset := rfl
      commonTables := commonTables.draft_rewrite relates
      opening := relates.append
        (relates.word fun alike => by rw [(relates.widens alike).keywords])
        (distinct.draft_rewrite relates)
      columns := relates.related_columns (expressionDrafts_rewrite relates columns false)
      sources := relates.related_listed " FROM " (expressionDrafts_rewrite relates sources false)
      joins := joinDrafts_rewrite relates joins
      conditions := relates.related_asked " WHERE " (conditionItems_rewrite relates conditions)
      groups := relates.related_listed " GROUP BY " (expressionDrafts_rewrite relates groupBy false)
      groupConditions :=
        relates.related_asked " HAVING " (conditionItems_rewrite relates groupConditions)
      windows := relates.related_windowsDraft (namedWindowDrafts_rewrite relates windows)
      compounds := compoundDrafts_rewrite relates compounds
      order := relates.related_listed " ORDER BY " (expressionDrafts_rewrite relates orderBy false)
      limit := relates.related_rows limit
      offset := relates.related_rows offset
      lock := relates.related_lockDraft lock }

end

theorem Select.draft_rewrite (relates : rewriting.Relates same first second related)
    (query : Select) : related ((query.rewrite rewriting).draft first) (query.draft second) :=
  query.draft_rewrite_of_parts relates (query.parts_rewrite relates)

end SqlDialects
