import SqlDialects.Dialect.Bundled
import SqlDialects.Proofs.Draft.Inline
import SqlDialects.Proofs.Draft.Shares
import SqlDialects.Statement.Calls

/-!
The layout of a query under the bundled dialects: what stands before its compounds, the compounds,
and what stands behind them. All but one of the dialects write the clauses one by one, in the same
order; SQL Server writes a limit beside the columns, or behind an offset.
-/

namespace SqlDialects

open Draft

/-- The fragment that writes one clause of a query and nothing else. -/
def Clause.fragment : Clause → Fragment
  | .commonTables => .commonTables
  | .sources => .sources
  | .joins => .joins
  | .conditions => .conditions
  | .groups => .groups
  | .groupConditions => .groupConditions
  | .windows => .windows
  | .compounds => .compounds
  | .order => .order
  | .limit => .limit
  | .offset => .offset
  | .lock => .lock
  | _ => .select

namespace Draft

theorem eq_nil_of_clean_remainder {name : String} {kind : StatementKind} {pending : List Clause}
    (clean : (remainder name kind pending).Clean) : remainder name kind pending = [] := by
  cases pending with
  | nil => rfl
  | cons clause rest =>
      simp only [remainder] at clean
      split at clean <;> simp at clean

theorem mem_diff_iff {pending taken : List Clause} {clause : Clause} (apart : clause ∉ taken) :
    clause ∈ pending.diff taken ↔ clause ∈ pending := by
  constructor
  · intro inside
    exact List.diff_subset _ _ inside
  · intro inside
    exact List.mem_diff_of_mem inside apart

end Draft

namespace Select

/-- The clauses of a query in their usual order. -/
def clauses : List Clause :=
  [.commonTables, .columns, .sources, .joins, .conditions, .groups, .groupConditions, .windows,
    .compounds, .order, .limit, .offset, .lock]

theorem portion?_fragment (parts : SelectParts) {clause : Clause} (member : clause ∈ clauses)
    (pending : List Clause) :
    parts.portion? clause.fragment pending =
      some (.take clause (parts.loneDraft clause) pending) := by
  cases clause <;> first | rfl | simp [clauses] at member

variable {dialect : NamedDialect}

def carries (query : Select) : Clause → Bool
  | .commonTables => !query.commonTables.isEmpty
  | .columns => true
  | .sources => !query.sources.isEmpty
  | .joins => !query.joins.isEmpty
  | .conditions => !allEmptyConditions query.conditions
  | .groups => !query.groupBy.isEmpty
  | .groupConditions => !allEmptyConditions query.groupConditions
  | .windows => !query.windows.isEmpty
  | .compounds => !query.compounds.isEmpty
  | .order => !query.orderBy.isEmpty
  | .limit => query.limit.isSome
  | .offset => query.offset.isSome
  | .lock => query.lock.isSome
  | _ => false

theorem mem_carried {query : Select} {clause : Clause} :
    clause ∈ query.carried ↔ query.carries clause := by
  cases clause <;> simp [carried, carries]

def carriedDraft (query : Select) (dialect : NamedDialect) (clause : Clause) : Draft :=
  if query.carries clause then (query.parts dialect).loneDraft clause else []

theorem carriedDraft_eq_nil {query : Select} {clause : Clause}
    (missing : query.carries clause = false) (dialect : NamedDialect) :
    query.carriedDraft dialect clause = [] := by
  simp [carriedDraft, missing]

theorem assemble_fragments (query : Select) (dialect : NamedDialect) (chosen pending : List Clause)
    (rest : List Fragment) (known : chosen ⊆ clauses) (distinct : chosen.Nodup)
    (still : ∀ clause ∈ chosen, (clause ∈ pending ↔ query.carries clause)) :
    assemble dialect.name .select (query.parts dialect).portion?
      (chosen.map Clause.fragment ++ rest) pending =
      chosen.flatMap (query.carriedDraft dialect)
        ++ assemble dialect.name .select (query.parts dialect).portion? rest
          (pending.diff chosen) := by
  induction chosen generalizing pending with
  | nil => simp
  | cons clause others ih =>
      obtain ⟨apart, distinct⟩ := List.nodup_cons.mp distinct
      have taken : Portion.take clause ((query.parts dialect).loneDraft clause) pending =
          ⟨query.carriedDraft dialect clause, pending.erase clause⟩ := by
        have here := still clause (by simp)
        by_cases member : clause ∈ pending
        · simp [Portion.take, member, carriedDraft, here.mp member]
        · simp [Portion.take, Portion.nothing, member, carriedDraft, here.not.mp member,
            List.erase_of_not_mem]
      have left : ∀ other ∈ others, (other ∈ pending.erase clause ↔ query.carries other) := by
        intro other member
        have different : other ≠ clause := by
          rintro rfl
          exact apart member
        rw [List.mem_erase_of_ne different]
        exact still other (by simp [member])
      have later := ih _ (fun other member => known (by simp [member])) distinct left
      rw [List.map_cons, List.cons_append, assemble, portion?_fragment _ (known (by simp))]
      simp only [taken, later, List.flatMap_cons, List.diff_cons, List.append_assoc]

/-- The clauses of a query are written one by one where the dialect keeps to the usual order. -/
theorem draft_of_usual_order {dialect : NamedDialect}
    (usual : dialect.orders.select = clauses.map Clause.fragment) {query : Select}
    (clean : (query.draft dialect).Clean) :
    query.draft dialect = clauses.flatMap (query.carriedDraft dialect) := by
  have whole := query.assemble_fragments dialect clauses query.carried [] (by decide) (by decide)
    fun _ _ => mem_carried
  rw [List.append_nil, ← usual] at whole
  have drafted : query.draft dialect = _ := (query.draft_eq_parts dialect).trans whole
  rw [drafted] at clean
  rw [drafted, assemble, eq_nil_of_clean_remainder ((clean_append _ _).mp clean).2, List.append_nil]

theorem carriedDraft_compounds (query : Select) (dialect : NamedDialect) :
    query.carriedDraft dialect .compounds = compoundDrafts dialect query.compounds := by
  obtain ⟨_, _, _, _, _, _, _, _, _, compounds, _⟩ := query
  cases compounds <;> rfl

def Call.clause : Call → Clause
  | .columns _ | .column _ | .distinct | .distinctOn _ => .columns
  | .source _ => .sources
  | .join .. | .joinUsing .. | .joinPlain .. => .joins
  | .condition _ => .conditions
  | .groupBy _ => .groups
  | .groupCondition _ => .groupConditions
  | .window _ => .windows
  | .compound .. => .compounds
  | .orderBy _ => .order
  | .limit _ => .limit
  | .offset _ => .offset
  | .lock .. | .lockWait _ => .lock
  | .commonTable .. | .recursiveTable .. => .commonTables

theorem carriedDraft_apply (query : Select) (dialect : NamedDialect) (call : Call) {clause : Clause}
    (different : clause ≠ call.clause) :
    (query.apply call).carriedDraft dialect clause = query.carriedDraft dialect clause := by
  cases call <;> cases clause <;> first | rfl | exact absurd rfl different

section Top

/-- The limit beside the columns, unless there is an offset. -/
def top (query : Select) : Draft :=
  if query.limit.isSome && query.offset.isNone then enclosed " TOP (" (rows query.limit) ")" else []

def fetch (query : Select) : Draft :=
  if query.offset.isSome then
    enclosed " OFFSET " (rows query.offset) " ROWS"
      ++ if query.limit.isSome then enclosed " FETCH NEXT " (rows query.limit) " ROWS ONLY" else []
  else []

variable (query : Select) (dialect : NamedDialect) {pending : List Clause}

theorem columnsWithLimit_eq_top (columnsPending : .columns ∈ pending)
    (limitPending : .limit ∈ pending ↔ query.limit.isSome) :
    ∃ later, (query.parts dialect).columnsWithLimit pending =
        ⟨(query.parts dialect).opening ++ query.top ++ (query.parts dialect).columns, later⟩ ∧
      (query.offset.isSome → (.limit ∈ later ↔ query.limit.isSome)) ∧
      ∀ clause, clause ≠ .columns → clause ≠ .limit → (clause ∈ later ↔ clause ∈ pending) := by
  have limitLeft : .limit ∈ pending.erase .columns ↔ query.limit.isSome := by
    rw [List.mem_erase_of_ne (by decide), limitPending]
  have counted : (query.parts dialect).hasOffset = query.offset.isSome := rfl
  by_cases beside : query.limit.isSome ∧ query.offset = none
  · obtain ⟨limited, start⟩ := beside
    refine ⟨(pending.erase .columns).erase .limit, ?_, ?_, ?_⟩
    · simp [SelectParts.columnsWithLimit, columnsPending, limitLeft, top, limited, start, parts]
    · simp [start]
    · intro clause notColumns notLimit
      rw [List.mem_erase_of_ne notLimit, List.mem_erase_of_ne notColumns]
  · have apart : ¬(query.offset = none ∧ query.limit.isSome) := fun both => beside both.symm
    refine ⟨pending.erase .columns, ?_, fun _ => limitLeft, ?_⟩
    · have alone : query.top = [] := by
        rw [top, if_neg]
        simpa using beside
      simp only [SelectParts.columnsWithLimit, columnsPending, limitLeft, counted, alone]
      simp [apart]
    · intro clause notColumns _
      rw [List.mem_erase_of_ne notColumns]

theorem orderWithOffsetFetch_eq_fetch
    (clean : ((query.parts dialect).orderWithOffsetFetch pending).draft.Clean)
    (orderPending : .order ∈ pending ↔ query.carries .order)
    (offsetPending : .offset ∈ pending ↔ query.offset.isSome)
    (limitPending : query.offset.isSome → (.limit ∈ pending ↔ query.limit.isSome)) :
    ((query.parts dialect).orderWithOffsetFetch pending).draft =
      query.carriedDraft dialect .order ++ query.fetch := by
  by_cases start : query.offset.isSome
  · have offsetLeft := offsetPending.mpr start
    have orderLeft : .order ∈ pending := by
      by_contra missing
      simp [SelectParts.orderWithOffsetFetch, offsetLeft, missing] at clean
    have ordered := orderPending.mp orderLeft
    by_cases limited : query.limit.isSome
    · rw [SelectParts.orderWithOffsetFetch_of_limit _ orderLeft offsetLeft
        ((limitPending start).mpr limited)]
      simp [carriedDraft, ordered, fetch, start, limited, SelectParts.loneDraft,
        SelectParts.clauseDraft, parts]
    · have missing : .limit ∉ pending := fun inside => limited ((limitPending start).mp inside)
      rw [SelectParts.orderWithOffsetFetch_of_no_limit _ orderLeft offsetLeft missing]
      simp [carriedDraft, ordered, fetch, start, limited, SelectParts.loneDraft,
        SelectParts.clauseDraft, parts]
  · have missing : .offset ∉ pending := fun inside => start (offsetPending.mp inside)
    rw [SelectParts.orderWithOffsetFetch_of_no_offset _ missing]
    by_cases ordered : query.carries .order
    · simp [Portion.take, orderPending, ordered, carriedDraft, fetch, start,
        SelectParts.loneDraft, SelectParts.clauseDraft]
    · simp [Portion.take, orderPending, ordered, carriedDraft, fetch, start, Portion.nothing]

/-- The clauses between the columns and the compounds where the limit stands beside the columns. -/
def bodyClauses : List Clause :=
  [.sources, .joins, .conditions, .groups, .groupConditions]

/-- The columns with a limit beside them, and the clauses up to the compounds. What is pending then
is left to the order with the rows behind it. -/
theorem assemble_selectWithLimit
    (carried : ∀ clause, clause ≠ .commonTables → (clause ∈ pending ↔ query.carries clause)) :
    ∃ later, assemble dialect.name .select (query.parts dialect).portion?
        (.selectWithLimit :: ((bodyClauses ++ [Clause.compounds]).map Clause.fragment
          ++ [.orderWithOffsetFetch])) pending =
        (query.parts dialect).opening ++ query.top ++ (query.parts dialect).columns
          ++ ((bodyClauses ++ [Clause.compounds]).flatMap (query.carriedDraft dialect)
            ++ (((query.parts dialect).orderWithOffsetFetch later).draft
              ++ remainder dialect.name .select
                ((query.parts dialect).orderWithOffsetFetch later).pending)) ∧
      (.order ∈ later ↔ query.carries .order) ∧ (.offset ∈ later ↔ query.offset.isSome) ∧
      (query.offset.isSome → (.limit ∈ later ↔ query.limit.isSome)) := by
  obtain ⟨behind, columnsWritten, limitBehind, others⟩ := query.columnsWithLimit_eq_top dialect
    ((carried .columns (by decide)).mpr rfl) (carried .limit (by decide))
  have still : ∀ clause ∈ bodyClauses ++ [.compounds],
      (clause ∈ behind ↔ query.carries clause) := by
    intro clause member
    have different : clause ≠ .columns ∧ clause ≠ .limit ∧ clause ≠ .commonTables := by
      refine ⟨?_, ?_, ?_⟩ <;> rintro rfl <;> simp [bodyClauses] at member
    obtain ⟨notColumns, notLimit, notTables⟩ := different
    rw [others clause notColumns notLimit, carried clause notTables]
  have body := query.assemble_fragments dialect (bodyClauses ++ [.compounds]) behind
    [.orderWithOffsetFetch] (by decide) (by decide) still
  refine ⟨behind.diff (bodyClauses ++ [.compounds]), ?_, ?_, ?_, ?_⟩
  · rw [assemble, SelectParts.portion?]
    simp only [columnsWritten]
    rw [body]
    simp only [assemble, SelectParts.portion?]
  · rw [mem_diff_iff (by decide), others .order (by decide) (by decide),
      carried .order (by decide)]
  · rw [mem_diff_iff (by decide), others .offset (by decide) (by decide),
      carried .offset (by decide)]
    rfl
  · intro start
    rw [mem_diff_iff (by decide), limitBehind start]

theorem draft_of_top_order
    (topped : dialect.orders.select = [.commonTables, .selectWithLimit, .sources, .joins,
      .conditions, .groups, .groupConditions, .compounds, .orderWithOffsetFetch])
    (clean : (query.draft dialect).Clean) :
    query.draft dialect =
      query.carriedDraft dialect .commonTables ++ ((query.parts dialect).opening ++ query.top
        ++ (query.parts dialect).columns) ++ bodyClauses.flatMap (query.carriedDraft dialect)
        ++ query.carriedDraft dialect .compounds
        ++ (query.carriedDraft dialect .order ++ query.fetch) := by
  have tables := query.assemble_fragments dialect [.commonTables] query.carried
    (.selectWithLimit :: ((bodyClauses ++ [Clause.compounds]).map Clause.fragment
      ++ [.orderWithOffsetFetch])) (by decide) (by decide) fun _ _ => mem_carried
  have left : ∀ clause, clause ≠ .commonTables →
      (clause ∈ query.carried.diff [.commonTables] ↔ query.carries clause) := by
    intro clause different
    rw [mem_diff_iff (by simpa using different), mem_carried]
  obtain ⟨later, rest, orderPending, offsetPending, limitPending⟩ :=
    query.assemble_selectWithLimit dialect left
  have whole := query.draft_eq_parts dialect
  rw [topped] at whole
  have assembled := (whole.trans tables).trans (congrArg _ rest)
  rw [assembled] at clean ⊢
  simp only [clean_append] at clean
  obtain ⟨_, _, _, ordered, finished⟩ := clean
  rw [eq_nil_of_clean_remainder finished, query.orderWithOffsetFetch_eq_fetch dialect ordered
    orderPending offsetPending limitPending, List.append_nil]
  simp

end Top

end Select

/-- What a dialect writes before and behind the compounds of a query. Neither depends on them. -/
structure Layout (dialect : NamedDialect) where
  head : Select → Draft
  tail : Select → Draft
  draft_eq : ∀ {query : Select}, (query.draft dialect).Clean →
    query.draft dialect = head query ++ (compoundDrafts dialect query.compounds ++ tail query)
  head_compound : ∀ query kind other, head (query.apply (.compound kind other)) = head query
  tail_compound : ∀ query kind other, tail (query.apply (.compound kind other)) = tail query

namespace Layout

open Select

theorem flatMap_apply (query : Select) (dialect : NamedDialect)
    (call : Call) {clauses : List Clause}
    (apart : call.clause ∉ clauses) :
    clauses.flatMap ((query.apply call).carriedDraft dialect) =
      clauses.flatMap (query.carriedDraft dialect) :=
  List.flatMap_congr fun clause member =>
    query.carriedDraft_apply dialect call (by rintro rfl; exact apart member)

def headClauses : List Clause :=
  [.commonTables, .columns, .sources, .joins, .conditions, .groups, .groupConditions, .windows]

def tailClauses : List Clause :=
  [.order, .limit, .offset, .lock]

def usual {dialect : NamedDialect} (order : dialect.orders.select = clauses.map Clause.fragment) :
    Layout dialect where
  head query := headClauses.flatMap (query.carriedDraft dialect)
  tail query := tailClauses.flatMap (query.carriedDraft dialect)
  draft_eq {query} clean := by
    have split : clauses = headClauses ++ .compounds :: tailClauses := rfl
    rw [draft_of_usual_order order clean, split, List.flatMap_append, List.flatMap_cons,
      query.carriedDraft_compounds]
  head_compound query kind other :=
    flatMap_apply query dialect (.compound kind other) (by simp [Call.clause, headClauses])
  tail_compound query kind other :=
    flatMap_apply query dialect (.compound kind other) (by simp [Call.clause, tailClauses])

def lead (query : Select) (dialect : NamedDialect) : Draft :=
  query.carriedDraft dialect .commonTables ++ (query.parts dialect).opening

def body (query : Select) (dialect : NamedDialect) : Draft :=
  (query.parts dialect).columns ++ bodyClauses.flatMap (query.carriedDraft dialect)

theorem lead_apply (query : Select) (dialect : NamedDialect) (call : Call)
    (apart : call.clause ∉ [.commonTables, .columns]) :
    lead (query.apply call) dialect = lead query dialect := by
  have tables : Clause.commonTables ≠ call.clause := fun same => apart (by simp [← same])
  rw [lead, lead, query.carriedDraft_apply dialect call tables]
  cases call <;> first | rfl | exact absurd (by simp [Call.clause]) apart

theorem body_apply (query : Select) (dialect : NamedDialect) (call : Call)
    (apart : call.clause ∉ .columns :: bodyClauses) :
    body (query.apply call) dialect = body query dialect := by
  rw [List.mem_cons, not_or] at apart
  rw [body, body, flatMap_apply query dialect call apart.2]
  cases call <;> first | rfl | exact absurd rfl apart.1

def sqlServer (name : String) : Layout ⟨.sqlServer, name⟩ where
  head query := lead query ⟨.sqlServer, name⟩ ++ (query.top ++ body query ⟨.sqlServer, name⟩)
  tail query := query.carriedDraft ⟨.sqlServer, name⟩ .order ++ query.fetch
  draft_eq {query} clean := by
    rw [query.draft_of_top_order ⟨.sqlServer, name⟩ rfl clean, lead, body,
      query.carriedDraft_compounds]
    simp only [List.append_assoc]
  head_compound query kind other := by
    rw [lead_apply query ⟨.sqlServer, name⟩ _ (by simp [Call.clause]),
      body_apply query ⟨.sqlServer, name⟩ _ (by simp [Call.clause, bodyClauses])]
    rfl
  tail_compound query kind other := by
    rw [query.carriedDraft_apply ⟨.sqlServer, name⟩ _ (by simp [Call.clause])]
    rfl

end Layout

def BundledDialect.layout (name : String) :
    (bundled : BundledDialect) → Layout ⟨bundled.dialect, name⟩
  | .standard => .usual rfl
  | .mySql => .usual rfl
  | .postgres => .usual rfl
  | .sqlite => .usual rfl
  | .sqlServer => .sqlServer name

end SqlDialects
