import SqlDialects.Proofs.Draft.Inline
import SqlDialects.Proofs.Draft.Kinds
import SqlDialects.Proofs.Subterms
import SqlDialects.Proofs.Wording

/-!
Drafts whose text is closed. Under a neutral dialect only the texts that stand in an expression as
they were given may leave a quote or a parenthesis open, so whatever is made of closed texts is
closed, by recursion on the syntax.
-/

namespace SqlDialects

open Draft

variable {dialect : NamedDialect}

namespace Draft

/-- With all values in the text, no quote and no parenthesis of a draft is left open. -/
def Closed (dialect : NamedDialect) (draft : Draft) : Prop :=
  ∀ text, draft.Inlines dialect text → IsClosed dialect.takesBackslash text

variable {first second draft : Draft}

theorem closed_nil : Closed dialect [] := by
  intro text written
  obtain rfl := inlines_nil.mp written
  exact isClosed_nil

theorem Closed.append (start : first.Closed dialect) (rest : second.Closed dialect) :
    Closed dialect (first ++ second) := by
  intro text written
  obtain ⟨before, after, here, later, rfl⟩ := inlines_append.mp written
  exact (start before here).append (rest after later)

theorem closed_ofText {content : String}
    (closed : IsClosed dialect.takesBackslash content.toList) :
    (ofText content).Closed dialect := by
  intro text written
  obtain rfl := (inlines_ofText content).mp written
  exact closed

theorem closed_word {content : String}
    (ordinary : content.toList.all isOrdinary) :
    (ofText content).Closed dialect :=
  closed_ofText (isClosed_of_ordinary ordinary)

theorem closed_invalid (defect : Defect) : (invalid defect).Closed dialect :=
  fun _ written => absurd written (not_inlines_invalid defect)

theorem closed_unsupported (name : String) (feature : Feature) :
    (unsupported name feature).Closed dialect :=
  fun _ written => absurd written (not_inlines_unsupported name feature)

theorem closed_misconfigured (name : String) (cause : Misconfiguration) :
    (misconfigured name cause).Closed dialect :=
  fun _ written => absurd written.clean (not_clean_misconfigured name cause)

theorem closed_demand (name : String) (capability : Bool) (feature : Feature) :
    (demand name capability feature).Closed dialect := by
  cases capability with
  | false => exact closed_unsupported _ feature
  | true => exact closed_nil

theorem closed_spelling {name : String} {feature : Feature} {text? : Option String}
    (closed : ∀ text ∈ text?, IsClosed dialect.takesBackslash text.toList) :
    (spelling name feature text?).Closed dialect := by
  cases text? with
  | none => exact closed_unsupported _ feature
  | some text => exact closed_ofText (closed text rfl)

theorem closed_separated {separator : String}
    (ordinary : separator.toList.all isOrdinary) {drafts : List Draft}
    (each : ∀ draft ∈ drafts, draft.Closed dialect) :
    (separated separator drafts).Closed dialect := by
  unfold separated
  induction drafts with
  | nil => exact closed_nil
  | cons head tail ih =>
      obtain ⟨here, later⟩ := List.forall_mem_cons.mp each
      cases tail with
      | nil => simpa using here
      | cons next others =>
          rw [List.intercalate_cons_cons]
          exact (here.append (closed_word ordinary)).append (ih later)

theorem closed_commaSeparated {drafts : List Draft}
    (each : ∀ draft ∈ drafts, draft.Closed dialect) :
    (commaSeparated drafts).Closed dialect :=
  closed_separated (by decide) each

theorem inlines_bracketed {opening closing : String} (before between : List Char)
    (opens : opening.toList = before ++ ['(']) (closes : closing.toList = between ++ [')'])
    {text : List Char} :
    (enclosed opening draft closing).Inlines dialect text ↔
      ∃ inside, draft.Inlines dialect inside ∧
        text = before ++ '(' :: ((inside ++ between) ++ [')']) := by
  simp [inlines_enclosed, opens, closes]

theorem closed_bracketed {opening closing : String} (before between : List Char)
    (opens : opening.toList = before ++ ['(']) (closes : closing.toList = between ++ [')'])
    (start : IsClosed dialect.takesBackslash before)
    (more : IsClosed dialect.takesBackslash between) (inside : draft.Closed dialect) :
    (enclosed opening draft closing).Closed dialect := by
  intro text written
  obtain ⟨content, drafted, rfl⟩ := (inlines_bracketed before between opens closes).mp written
  exact start.append ((inside content drafted).append more).parenthesized

theorem closed_parenthesized (inside : draft.Closed dialect) :
    (parenthesized draft).Closed dialect :=
  closed_bracketed [] [] rfl rfl isClosed_nil isClosed_nil inside

theorem closed_parenthesizedIf (nested : Bool) (inside : draft.Closed dialect) :
    (parenthesizedIf nested draft).Closed dialect := by
  cases nested with
  | false => exact inside
  | true => exact closed_parenthesized inside

def Condition.Closed (dialect : NamedDialect) (condition : Condition) : Prop :=
  ∀ nested, (condition.draft nested).Closed dialect

theorem closed_conditions (connective : Connective) (nested : Bool) {items : List Condition}
    (each : ∀ item ∈ items, item.Closed dialect) :
    (conditions connective nested items).Closed dialect := by
  have asked : ∀ item ∈ items.filter fun item => !item.isEmpty, item.Closed dialect :=
    fun item member => each item (List.mem_of_mem_filter member)
  have ordinary : connective.text.toList.all isOrdinary := by
    cases connective <;> decide
  unfold conditions
  split
  · exact closed_invalid _
  · next item alone =>
    rw [alone] at asked
    exact asked item List.mem_cons_self nested
  · refine closed_parenthesizedIf nested (closed_separated ordinary fun draft member => ?_)
    obtain ⟨item, listed, rfl⟩ := List.mem_map.mp member
    exact asked item listed item.isList

theorem closed_range (test : RangeTest) {expr low high : Draft} (exprClosed : expr.Closed dialect)
    (lowClosed : low.Closed dialect) (highClosed : high.Closed dialect) :
    (range test expr low high).Closed dialect := by
  have word : (ofText test.text).Closed dialect := by
    cases test <;> exact closed_word (by decide)
  have and : (ofText " AND ").Closed dialect := closed_word (by decide)
  exact (((exprClosed.append word).append lowClosed).append and).append highClosed

theorem closed_arguments (distinct : Bool) {arguments : List Draft}
    (each : ∀ argument ∈ arguments, argument.Closed dialect) :
    Closed dialect ((if distinct then ofText "DISTINCT " else []) ++ commaSeparated arguments) := by
  refine Closed.append ?_ (closed_commaSeparated each)
  cases distinct with
  | false => exact closed_nil
  | true => exact closed_word (by decide)

theorem closed_call {name : String} (named : IsClosed dialect.takesBackslash name.toList)
    {arguments : List Draft} (distinct : Bool)
    (each : ∀ argument ∈ arguments, argument.Closed dialect) :
    (call name arguments distinct).Closed dialect := by
  unfold call
  split
  · exact closed_invalid _
  · exact closed_bracketed name.toList [] (String.toList_append ..) rfl named isClosed_nil
      (closed_arguments distinct each)

theorem closed_listed {opening : String}
    (ordinary : opening.toList.all isOrdinary) {drafts : List Draft}
    (each : ∀ draft ∈ drafts, draft.Closed dialect) :
    (ofText opening ++ commaSeparated drafts).Closed dialect :=
  (closed_word ordinary).append (closed_commaSeparated each)

theorem closed_columns {drafts : List Draft} (each : ∀ draft ∈ drafts, draft.Closed dialect) :
    (columns drafts).Closed dialect := by
  unfold columns
  split
  · exact (closed_word (by decide)).append (closed_word (by decide))
  · exact closed_listed (by decide) each

theorem closed_asked {opening : String}
    (ordinary : opening.toList.all isOrdinary) {items : List Condition}
    (each : ∀ item ∈ items, item.Closed dialect) :
    (ofText opening ++ conditions .and false items).Closed dialect :=
  (closed_word ordinary).append (closed_conditions .and false each)

/-! ### Fragments -/

theorem closed_take {clause : Clause} (pending : List Clause) (inside : draft.Closed dialect) :
    (Portion.take clause draft pending).draft.Closed dialect := by
  unfold Portion.take
  split
  · exact inside
  · exact closed_nil

theorem closed_assemble {name : String} {kind : StatementKind}
    {portion? : Fragment → List Clause → Option Portion}
    (portions : ∀ fragment pending, ∀ portion ∈ portion? fragment pending,
      portion.draft.Closed dialect) (order : List Fragment) (pending : List Clause) :
    (assemble name kind portion? order pending).Closed dialect := by
  induction order generalizing pending with
  | nil =>
      cases pending with
      | nil => exact closed_nil
      | cons clause rest =>
          simp only [assemble, remainder]
          split
          · exact closed_misconfigured _ _
          · exact closed_unsupported _ _
  | cons fragment rest ih =>
      simp only [assemble]
      cases found : portion? fragment pending with
      | none => exact closed_misconfigured _ _
      | some portion => exact (portions fragment pending portion found).append (ih _)

end Draft

namespace Dialect.Neutral

variable (neutral : dialect.Neutral)

include neutral

/-! ### Words -/

theorem comparison (operator : Comparison) : ∀ text ∈ dialect.operators.comparison operator,
    IsNeutral dialect.takesBackslash text.toList :=
  neutral.word _ (by
    simp only [ownWords, List.mem_append, List.mem_map_of_mem (Vocabulary.complete operator),
      true_or, or_true])

theorem bitwise (operator : BitOperator) : ∀ text ∈ dialect.operators.bitwise operator,
    IsNeutral dialect.takesBackslash text.toList :=
  neutral.word _ (by
    simp only [ownWords, List.mem_append, List.mem_map_of_mem (Vocabulary.complete operator),
      true_or, or_true])

theorem join (kind : JoinKind) : ∀ text ∈ dialect.operators.join kind,
    IsNeutral dialect.takesBackslash text.toList :=
  neutral.word _ (by
    simp only [ownWords, List.mem_append, List.mem_map_of_mem (Vocabulary.complete kind),
      true_or, or_true])

theorem compound (kind : CompoundKind) : ∀ text ∈ dialect.operators.compound kind,
    IsNeutral dialect.takesBackslash text.toList :=
  neutral.word _ (by
    simp only [ownWords, List.mem_append, List.mem_map_of_mem (Vocabulary.complete kind),
      true_or, or_true])

theorem lock (strength : LockStrength) : ∀ text ∈ dialect.operators.lock strength,
    IsNeutral dialect.takesBackslash text.toList :=
  neutral.word _ (by
    simp only [ownWords, List.mem_append, List.mem_map_of_mem (Vocabulary.complete strength),
      or_true])

theorem keyword {text : String} (listed : some text ∈ dialect.ownWords) :
    (ofText text).Closed dialect :=
  closed_ofText (neutral.word _ listed text rfl).1

/-! ### What a dialect puts together -/

theorem closed_nameDraft (name : String) : (dialect.nameDraft name).Closed dialect :=
  closed_ofText (neutral.name name).1

theorem closed_nameDrafts (names : List String) :
    ∀ draft ∈ names.map dialect.nameDraft, draft.Closed dialect :=
  List.forall_mem_map.mpr fun name _ => neutral.closed_nameDraft name

theorem isNeutral_of_identifierDraft {identifier : Identifier} {text : List Char}
    (written : (dialect.identifierDraft identifier).Inlines dialect text) :
    IsNeutral dialect.takesBackslash text := by
  unfold identifierDraft at written
  cases valid : identifier.flaw? with
  | some flaw => simp [valid] at written
  | none =>
      simp only [valid, inlines_ofText] at written
      rw [written]
      exact neutral.isNeutral_identifierText valid

theorem closed_identifierDraft (identifier : Identifier) :
    (dialect.identifierDraft identifier).Closed dialect :=
  fun _ written => (neutral.isNeutral_of_identifierDraft written).1

theorem isNeutral_of_valueDraft {value : Value} {text : List Char}
    (written : (dialect.valueDraft value).Inlines dialect text) :
    IsNeutral dialect.takesBackslash text := by
  have literal : (∃ literal, dialect.literalText value = .ok literal ∧ text = literal.toList) →
      IsNeutral dialect.takesBackslash text := by
    rintro ⟨literal, done, rfl⟩
    exact neutral.literal done
  cases value with
  | null => exact literal ⟨_, rfl, (inlines_ofText _).mp written⟩
  | float number =>
      simp only [valueDraft] at written
      split at written
      · exact literal ((inlines_value _ _).mp written)
      · exact absurd written (not_inlines_invalid _)
  | boolean | integer | text | blob | timestamp => exact literal ((inlines_value _ _).mp written)

theorem closed_valueDraft (value : Value) : (dialect.valueDraft value).Closed dialect :=
  fun _ written => (neutral.isNeutral_of_valueDraft written).1

theorem closed_rows (rows : Option Nat) : (Draft.rows rows).Closed dialect := by
  cases rows with
  | none => exact closed_nil
  | some rows =>
      simp only [Draft.rows, rowCount]
      split
      · intro text written
        obtain ⟨literal, done, rfl⟩ := (inlines_value _ _).mp written
        exact (neutral.literal done).1
      · exact closed_invalid _

theorem isNeutral_booleanText (truth : Bool) :
    IsNeutral dialect.takesBackslash (dialect.booleanText truth).toList := by
  have written : dialect.literalText (.boolean truth) = .ok (dialect.booleanText truth) := rfl
  exact neutral.literal written

theorem closed_comparisonSpelling (operator : Comparison) :
    (dialect.comparisonSpelling operator).Closed dialect := by
  unfold NamedDialect.comparisonSpelling
  split
  · next text spelled =>
    have word : IsClosed dialect.takesBackslash text.toList :=
      (neutral.comparison operator text spelled).1
    have blank : IsClosed dialect.takesBackslash [' '] := isClosed_of_ordinary (by decide)
    apply closed_ofText
    simpa using (blank.append word).append blank
  · exact closed_unsupported _ _

theorem closed_booleanTestDraft (negated truth : Bool) :
    (dialect.booleanTestDraft negated truth).Closed dialect := by
  have spelled := neutral.closed_comparisonSpelling
  have text : (ofText (dialect.booleanText truth)).Closed dialect :=
    closed_ofText (neutral.isNeutral_booleanText truth).1
  unfold NamedDialect.booleanTestDraft
  simp only
  split
  · exact (spelled _).append text
  · split
    · exact (spelled _).append text
    · exact (spelled _).append (neutral.closed_valueDraft (.boolean truth))

theorem closed_comparisonDraft (operator : Comparison) (truth : Option Bool) {left right : Draft}
    (leftClosed : left.Closed dialect) (rightClosed : right.Closed dialect) :
    (dialect.comparisonDraft operator left truth right).Closed dialect := by
  unfold NamedDialect.comparisonDraft
  split
  · exact leftClosed.append (neutral.closed_booleanTestDraft _ _)
  · exact leftClosed.append (neutral.closed_booleanTestDraft _ _)
  · exact (leftClosed.append (neutral.closed_comparisonSpelling _)).append rightClosed

theorem exists_bitwiseDraft_eq (operator : BitOperator) {left? : Option Draft} {right : Draft}
    (leftClosed : operator ≠ .invert → ∀ left ∈ left?, left.Closed dialect)
    (rightClosed : right.Closed dialect) :
    (∃ feature, dialect.bitwiseDraft operator left? right = unsupported dialect.name feature) ∨
      ∃ inside, dialect.bitwiseDraft operator left? right = parenthesized inside ∧
        inside.Closed dialect := by
  unfold NamedDialect.bitwiseDraft
  cases spelled : dialect.operators.bitwise operator with
  | none => exact .inl ⟨_, rfl⟩
  | some text =>
      have word : IsClosed dialect.takesBackslash text.toList :=
        (neutral.bitwise operator text spelled).1
      refine .inr ⟨_, rfl, ?_⟩
      split
      · exact (closed_ofText word).append rightClosed
      · next writesLeft =>
        cases left? with
        | none => exact closed_invalid _
        | some left =>
            have blank : IsClosed dialect.takesBackslash [' '] := isClosed_of_ordinary (by decide)
            have spaced : (ofText (" " ++ text ++ " ")).Closed dialect :=
              closed_ofText (by simpa using (blank.append word).append blank)
            exact ((leftClosed writesLeft left rfl).append spaced).append rightClosed

theorem closed_bitwiseDraft (operator : BitOperator) {left? : Option Draft} {right : Draft}
    (leftClosed : operator ≠ .invert → ∀ left ∈ left?, left.Closed dialect)
    (rightClosed : right.Closed dialect) :
    (dialect.bitwiseDraft operator left? right).Closed dialect := by
  rcases neutral.exists_bitwiseDraft_eq operator leftClosed rightClosed with
    ⟨feature, same⟩ | ⟨inside, same, closed⟩
  · rw [same]
    exact closed_unsupported _ feature
  · rw [same]
    exact closed_parenthesized closed

theorem closed_tupleDraft {items : List Draft} (each : ∀ item ∈ items, item.Closed dialect) :
    (dialect.tupleDraft items).Closed dialect := by
  unfold tupleDraft
  split
  · exact neutral.keyword (by simp [ownWords])
  · exact closed_parenthesized (closed_commaSeparated each)

theorem isNeutral_of_excludedDraft {column : String} {text : List Char}
    (written : (dialect.excludedDraft column).Inlines dialect text) :
    IsNeutral dialect.takesBackslash text := by
  unfold excludedDraft at written
  split at written
  · exact absurd written (not_inlines_invalid _)
  · obtain ⟨inside, name, rfl⟩ := inlines_enclosed.mp written
    obtain rfl := (inlines_ofText _).mp name
    exact neutral.excluded column

theorem closed_excludedDraft (column : String) :
    (dialect.excludedDraft column).Closed dialect :=
  fun _ written => (neutral.isNeutral_of_excludedDraft written).1

theorem isNeutral_of_spelling {name : String} {feature : Feature} {word : Option String}
    {text : List Char} (listed : word ∈ dialect.ownWords)
    (written : (spelling name feature word).Inlines dialect text) :
    IsNeutral dialect.takesBackslash text := by
  cases word with
  | none => exact absurd written (not_inlines_unsupported name feature)
  | some content =>
      obtain rfl := (inlines_ofText content).mp written
      exact neutral.word _ listed content rfl

theorem isNeutral_of_nullsDraft {nulls : Option NullsPlacement} {text : List Char}
    (written : (dialect.nullsDraft nulls).Inlines dialect text) :
    IsNeutral dialect.takesBackslash text := by
  cases nulls with
  | none =>
      obtain rfl := inlines_nil.mp written
      exact isNeutral_nil
  | some placement =>
      cases placement <;> exact neutral.isNeutral_of_spelling (by simp [ownWords]) written

theorem closed_nullsDraft (nulls : Option NullsPlacement) :
    (dialect.nullsDraft nulls).Closed dialect :=
  fun _ written => (neutral.isNeutral_of_nullsDraft written).1

theorem closed_lockDraft (lock : Option Lock) : (dialect.lockDraft lock).Closed dialect := by
  have waiting : ∀ {feature word}, word ∈ dialect.ownWords →
      (spelling dialect.name feature word).Closed dialect :=
    fun listed _ written => (neutral.isNeutral_of_spelling listed written).1
  cases lock with
  | none => exact closed_nil
  | some lock =>
      refine (closed_spelling fun text spelled => (neutral.lock _ text spelled).1).append ?_
      cases lock.wait with
      | block => exact closed_nil
      | noWait => exact waiting (by simp [ownWords])
      | skipLocked => exact waiting (by simp [ownWords])

theorem closed_windowDraft (parent : Option String) {partition order : List Draft}
    (partitions : ∀ key ∈ partition, key.Closed dialect)
    (orders : ∀ key ∈ order, key.Closed dialect) :
    (dialect.windowDraft parent partition order).Closed dialect := by
  have listed : ∀ (opening : String) {keys : List Draft},
      (opening.toList.all isOrdinary) →
      (∀ key ∈ keys, key.Closed dialect) →
      ∀ draft ∈ (if keys.isEmpty then [] else [ofText opening ++ commaSeparated keys]),
        draft.Closed dialect := by
    intro opening keys ordinary each
    split
    · simp
    · simpa using closed_listed ordinary each
  exact closed_separated (by decide) (List.forall_mem_append.mpr
    ⟨List.forall_mem_append.mpr ⟨neutral.closed_nameDrafts parent.toList,
      listed "PARTITION BY " (by decide) partitions⟩, listed "ORDER BY " (by decide) orders⟩)

theorem closed_named (name : String) {inside : Draft} (closed : inside.Closed dialect) :
    (dialect.nameDraft name ++ enclosed " AS (" inside ")").Closed dialect :=
  (neutral.closed_nameDraft name).append
    (closed_bracketed " AS ".toList [] rfl rfl (isClosed_of_ordinary (by decide)) isClosed_nil
      closed)

theorem closed_namedWindowDraft (name : Option String) {body : Draft}
    (inside : body.Closed dialect) : (dialect.namedWindowDraft name body).Closed dialect := by
  cases name with
  | none => exact closed_invalid _
  | some name => exact neutral.closed_named name inside

theorem closed_joinPartDraft (kind : JoinKind) {part : JoinPart}
    (inside : ∀ condition, part = .on condition → condition.Closed dialect) :
    (dialect.joinPartDraft kind part).Closed dialect := by
  unfold joinPartDraft
  split
  · exact closed_nil
  · split
    · exact (closed_word (by decide)).append (inside _ rfl)
    · exact closed_invalid _
  · split
    · split
      · exact closed_invalid _
      · exact closed_bracketed " USING ".toList [] rfl rfl (isClosed_of_ordinary (by decide))
          isClosed_nil (closed_commaSeparated (neutral.closed_nameDrafts _))
    · exact closed_invalid _

theorem closed_joinDraft (kind : JoinKind) {source : Draft} {part : JoinPart}
    (sourceClosed : source.Closed dialect)
    (inside : ∀ condition, part = .on condition → condition.Closed dialect) :
    (dialect.joinDraft kind source part).Closed dialect :=
  ((closed_spelling fun text spelled => (neutral.join kind text spelled).1).append
    sourceClosed).append (neutral.closed_joinPartDraft kind inside)

theorem closed_commonTablesDraft (recursive : Bool) {tables : List Draft}
    (each : ∀ table ∈ tables, table.Closed dialect) :
    (dialect.commonTablesDraft recursive tables).Closed dialect := by
  have keyword : (ofText dialect.keywords.commonTables).Closed dialect :=
    neutral.keyword (by simp [ownWords])
  have further : (if recursive then
      demand dialect.name dialect.capabilities.recursiveTables .recursiveTables
        ++ ofText dialect.keywords.recursive
      else []).Closed dialect := by
    split
    · exact (closed_demand _ _ _).append (neutral.keyword (by simp [ownWords]))
    · exact closed_nil
  exact ((((closed_demand _ _ _).append keyword).append further).append
    (closed_commaSeparated each)).append (closed_word (by decide))

theorem closed_compoundDraft (kind : CompoundKind) {query : Draft}
    (inside : query.Closed dialect) : (dialect.compoundDraft kind query).Closed dialect :=
  (closed_spelling fun text spelled => (neutral.compound kind text spelled).1).append
    (closed_parenthesizedIf _ inside)

theorem closed_distinctOnDraft {columns : List Draft}
    (each : ∀ column ∈ columns, column.Closed dialect) :
    (dialect.distinctOnDraft columns).Closed dialect := by
  have keyword : IsClosed dialect.takesBackslash dialect.keywords.distinct.toList :=
    (neutral.word (some dialect.keywords.distinct) (by simp [ownWords]) _ rfl).1
  have on : IsClosed dialect.takesBackslash " ON ".toList := isClosed_of_ordinary (by decide)
  exact (closed_demand _ _ _).append
    (closed_bracketed (dialect.keywords.distinct.toList ++ " ON ".toList) [] (by simp) rfl
      (keyword.append on) isClosed_nil (closed_commaSeparated each))

end Dialect.Neutral

/-! ### Queries -/

namespace SelectParts

/-- The parts of a query, each of them closed. -/
structure Closed (dialect : NamedDialect) (parts : SelectParts) : Prop where
  commonTables : parts.commonTables.Closed dialect
  opening : parts.opening.Closed dialect
  columns : parts.columns.Closed dialect
  sources : parts.sources.Closed dialect
  joins : parts.joins.Closed dialect
  conditions : parts.conditions.Closed dialect
  groups : parts.groups.Closed dialect
  groupConditions : parts.groupConditions.Closed dialect
  windows : parts.windows.Closed dialect
  compounds : parts.compounds.Closed dialect
  order : parts.order.Closed dialect
  limit : parts.limit.Closed dialect
  offset : parts.offset.Closed dialect
  lock : parts.lock.Closed dialect

variable {parts : SelectParts} (closed : parts.Closed dialect)

include closed

theorem Closed.columnsWithLimit (pending : List Clause) :
    (parts.columnsWithLimit pending).draft.Closed dialect := by
  have top : (enclosed " TOP (" parts.limit ")").Closed dialect :=
    closed_bracketed " TOP ".toList [] rfl rfl (isClosed_of_ordinary (by decide)) isClosed_nil
      closed.limit
  unfold SelectParts.columnsWithLimit
  split
  · simp only
    split
    · exact (closed.opening.append top).append closed.columns
    · exact closed.opening.append closed.columns
  · exact closed_nil

theorem Closed.orderWithOffsetFetch (pending : List Clause) :
    (parts.orderWithOffsetFetch pending).draft.Closed dialect := by
  have shifted : (enclosed " OFFSET " parts.offset " ROWS").Closed dialect :=
    ((closed_word (by decide)).append closed.offset).append (closed_word (by decide))
  have fetched : (enclosed " FETCH NEXT " parts.limit " ROWS ONLY").Closed dialect :=
    ((closed_word (by decide)).append closed.limit).append (closed_word (by decide))
  unfold SelectParts.orderWithOffsetFetch
  split
  · split
    · simp only
      split
      · exact (closed.order.append shifted).append fetched
      · exact closed.order.append shifted
    · exact closed_invalid _
  · exact closed_take pending closed.order

theorem Closed.portion? (fragment : Fragment) (pending : List Clause) :
    ∀ portion ∈ parts.portion? fragment pending, portion.draft.Closed dialect := by
  intro portion found
  unfold SelectParts.portion? at found
  split at found <;> cases found
  · exact closed_take pending closed.commonTables
  · exact closed_take pending (closed.opening.append closed.columns)
  · exact closed.columnsWithLimit pending
  · exact closed_take pending closed.sources
  · exact closed_take pending closed.joins
  · exact closed_take pending closed.conditions
  · exact closed_take pending closed.groups
  · exact closed_take pending closed.groupConditions
  · exact closed_take pending closed.windows
  · exact closed_take pending closed.compounds
  · exact closed_take pending closed.order
  · exact closed.orderWithOffsetFetch pending
  · exact closed_take pending ((closed_word (by decide)).append closed.limit)
  · exact closed_take pending ((closed_word (by decide)).append closed.offset)
  · exact closed_take pending closed.lock

theorem Closed.draft (name : String) (order : List Fragment) :
    (parts.draft name order).Closed dialect :=
  closed_assemble closed.portion? order parts.carried

end SelectParts

end SqlDialects
