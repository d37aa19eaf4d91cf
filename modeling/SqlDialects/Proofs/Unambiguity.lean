import SqlDialects.Compile
import SqlDialects.Proofs.Draft.Inline
import SqlDialects.Proofs.Grammar

/-!
The texts of formulas are those of the grammar, so parentheses keep the structure of a formula: two
formulas with one text have one normal form.
-/

namespace SqlDialects

open Draft

namespace Phrase

/-- Whether the expression of a phrase asks something, or each of those that it lists. -/
def Asks : Phrase → Expr → Prop
  | .tail left, expr => left.isEmptyCondition = false → expr.isEmptyCondition = false
  | .more _, .conditions _ items => ∀ item ∈ items, item.isEmptyCondition = false
  | _, expr => expr.isEmptyCondition = false

end Phrase

namespace Spelled

variable {expr : Expr} {text : List Char}

theorem asks {phrase : Phrase} (spelled : Spelled phrase expr text) : phrase.Asks expr := by
  induction spelled with
  | identifier | literal | inverted | negated => rfl
  | parenthesized inside ih => exact ih
  | alone => exact id
  | @signed _ _ sign _ proper operand ih =>
      intro _
      cases sign <;> rfl
  | ranged => exact fun _ => rfl
  | led operand tail operandAsks tailAsks => exact tailAsks operandAsks
  | last item ih =>
      intro other member
      rw [List.mem_singleton.mp member]
      exact ih
  | next item later itemAsks laterAsks => exact List.forall_mem_cons.mpr ⟨itemAsks, laterAsks⟩
  | single item ih => exact ih
  | @several _ item _ _ _ spelled later itemAsks laterAsks =>
      have first : item.isEmptyCondition = false := itemAsks
      change (item.isEmptyCondition && _) = false
      simp [first]

theorem item_of_operand (spelled : Spelled .operand expr text) : Spelled .item expr text := by
  have led := Spelled.led spelled .alone
  rwa [List.append_nil] at led

theorem item_between (sign : Sign) (proper : sign ≠ .bitwise .invert) {left right : Expr}
    {leftText rightText : List Char} (leftSpelled : Spelled .operand left leftText)
    (rightSpelled : Spelled .operand right rightText) :
    Spelled .item (sign.expr left right) (leftText ++ (sign.text ++ rightText)) :=
  .led leftSpelled (.signed proper rightSpelled)

theorem parenthesized_item (spelled : Spelled .item expr text) :
    Spelled .operand expr ('(' :: (text ++ [')'])) :=
  .parenthesized (.single spelled)

end Spelled

variable {name : String}

/-- A condition whose texts spell an expression, inside and outside of another operator. -/
structure Draft.Condition.Spells (name : String) (condition : Condition)
    (normal : Expr) : Prop where
  empty : condition.isEmpty → normal.isEmptyCondition
  nested : ∀ text, (condition.draft true).Inlines ⟨.standard, name⟩ text →
    Spelled .operand normal text
  clause : ∀ text, (condition.draft false).Inlines ⟨.standard, name⟩ text →
    Spelled .clause normal text
  item : condition.isList = false →
    ∀ text, (condition.draft false).Inlines ⟨.standard, name⟩ text → Spelled .item normal text

namespace Draft.Condition.Spells

variable {normal : Expr}

theorem ofOperand {draft : Draft}
    (spelled : ∀ text, draft.Inlines ⟨.standard, name⟩ text → Spelled .operand normal text) :
    Condition.Spells name ⟨false, false, fun _ => draft⟩ normal where
  empty := by simp
  nested := spelled
  clause := fun text done => .single (spelled text done).item_of_operand
  item := fun _ text done => (spelled text done).item_of_operand

theorem ofItem {draft : Draft}
    (spelled : ∀ text, draft.Inlines ⟨.standard, name⟩ text → Spelled .item normal text) :
    Condition.Spells name ⟨false, false, fun nested => parenthesizedIf nested draft⟩ normal where
  empty := by simp
  nested := by
    intro text done
    obtain ⟨inside, written, rfl⟩ := inlines_parenthesized.mp done
    exact (spelled inside written).parenthesized_item
  clause := fun text done => .single (spelled text done)
  item := fun _ => spelled

theorem listed {condition : Condition} (spells : condition.Spells name normal) {text : List Char}
    (done : (condition.draft condition.isList).Inlines ⟨.standard, name⟩ text) :
    Spelled .item normal text := by
  cases list : condition.isList with
  | true => exact (spells.nested text (list ▸ done)).item_of_operand
  | false => exact spells.item list text (list ▸ done)

end Draft.Condition.Spells

section Lists

variable {α : Type} {condition : α → Condition} {normal : α → Expr} {connective : Connective}

theorem spelled_more {first : α} {rest : List α}
    (each : ∀ item ∈ first :: rest, (condition item).Spells name (normal item)) {text : List Char}
    (done : (separated connective.text ((first :: rest).map fun item =>
      (condition item).draft (condition item).isList)).Inlines ⟨.standard, name⟩ text) :
    Spelled (.more connective) (.conditions connective ((first :: rest).map normal))
      (connective.text.toList ++ text) := by
  induction rest generalizing first text with
  | nil => exact .last ((each first (by simp)).listed (by simpa [separated] using done))
  | cons second others ih =>
      obtain ⟨here, later, written, continued, rfl⟩ := inlines_separated_cons.mp done
      exact .next ((each first (by simp)).listed written)
        (ih (fun item member => each item (List.mem_cons_of_mem _ member)) continued)

theorem spelled_several {first second : α} {others : List α}
    (each : ∀ item ∈ first :: second :: others, (condition item).Spells name (normal item))
    {text : List Char}
    (done : (separated connective.text ((first :: second :: others).map fun item =>
      (condition item).draft (condition item).isList)).Inlines ⟨.standard, name⟩ text) :
    Spelled .clause (.conditions connective ((first :: second :: others).map normal)) text := by
  obtain ⟨here, later, written, continued, rfl⟩ := inlines_separated_cons.mp done
  exact .several ((each first (by simp)).listed written)
    (spelled_more (fun item member => each item (List.mem_cons_of_mem _ member)) continued)

theorem joined_of_kept {items kept : List α}
    (each : ∀ item ∈ items, (condition item).Spells name (normal item))
    (found : (items.filter fun item => !(condition item).isEmpty) = kept)
    (asking : ∀ item ∈ kept, (normal item).isEmptyCondition = false) :
    Expr.joined connective (items.map normal) =
      match kept.map normal with
      | [single] => single
      | several => .conditions connective several := by
  have alike : ∀ item ∈ items,
      (!(normal item).isEmptyCondition) = !(condition item).isEmpty := by
    intro item member
    cases empty : (condition item).isEmpty with
    | true => simp [(each item member).empty empty]
    | false =>
        have remains : item ∈ kept := found ▸ List.mem_filter.mpr ⟨member, by simp [empty]⟩
        simp [asking item remains]
  have filtered : (items.map normal).filter (fun item => !item.isEmptyCondition) =
      kept.map normal := by
    rw [List.filter_map, ← found]
    exact congrArg (List.map normal) (List.filter_congr alike)
  rw [← filtered]
  rfl

theorem spelled_conditions {items : List α}
    (each : ∀ item ∈ items, (condition item).Spells name (normal item)) {nested : Bool}
    {text : List Char}
    (done : (Draft.conditions connective nested (items.map condition)).Inlines
      ⟨.standard, name⟩ text) :
    Spelled (if nested then .operand else .clause) (.joined connective (items.map normal))
      text := by
  have asking : (items.map condition).filter (fun item => !item.isEmpty) =
      (items.filter fun item => !(condition item).isEmpty).map condition := by
    rw [List.filter_map]
    rfl
  have keptSpells : ∀ item ∈ items.filter fun item => !(condition item).isEmpty,
      (condition item).Spells name (normal item) :=
    fun item member => each item (List.mem_filter.mp member).1
  unfold Draft.conditions at done
  rw [asking] at done
  generalize found : items.filter (fun item => !(condition item).isEmpty) = kept at keptSpells done
  rcases kept with _ | ⟨first, _ | ⟨second, rest⟩⟩
  · simp at done
  · have spelled : Spelled (if nested then .operand else .clause) (normal first) text := by
      cases nested with
      | true => exact (keptSpells first (by simp)).nested text done
      | false => exact (keptSpells first (by simp)).clause text done
    have asks : (normal first).isEmptyCondition = false := by
      cases nested <;> exact spelled.asks
    rw [joined_of_kept each found (by simpa using asks)]
    exact spelled
  · have several : ∀ {inside}, (separated connective.text ((first :: second :: rest).map fun item =>
        (condition item).draft (condition item).isList)).Inlines ⟨.standard, name⟩ inside →
          Spelled .clause (.joined connective (items.map normal)) inside := by
      intro inside written
      have asks := (spelled_more keptSpells written).asks
      rw [joined_of_kept each found (List.forall_mem_map.mp asks)]
      exact spelled_several keptSpells written
    simp only [List.map_cons, List.map_map] at done several
    cases nested with
    | true =>
        obtain ⟨inside, written, rfl⟩ := inlines_parenthesized.mp done
        exact .parenthesized (several written)
    | false => exact several done

theorem joined_isEmptyCondition {items : List Expr}
    (empty : ∀ item ∈ items, item.isEmptyCondition) :
    (Expr.joined connective items).isEmptyCondition := by
  have none : items.filter (fun item => !item.isEmptyCondition) = [] := by
    simpa using empty
  simp [Expr.joined, none, Expr.isEmptyCondition, allEmptyConditions]

theorem spells_list {items : List α}
    (each : ∀ item ∈ items, (condition item).Spells name (normal item)) {empty : Bool}
    (silent : empty → ∀ item ∈ items, (condition item).isEmpty) :
    Condition.Spells name ⟨empty, true, fun nested =>
      Draft.conditions connective nested (items.map condition)⟩
      (.joined connective (items.map normal)) where
  empty := by
    intro isEmpty
    apply joined_isEmptyCondition
    rw [List.forall_mem_map]
    exact fun item member => (each item member).empty (silent isEmpty item member)
  nested := fun _ => spelled_conditions each
  clause := fun _ => spelled_conditions each
  item := by simp

end Lists

theorem inlines_comparisonSpelling {comparison : Comparison} {text : List Char}
    (done : (NamedDialect.comparisonSpelling ⟨.standard, name⟩ comparison).Inlines
      ⟨.standard, name⟩ text) :
    text = (Sign.comparison comparison).text := by
  unfold NamedDialect.comparisonSpelling at done
  cases spelled : Dialect.standard.operators.comparison comparison with
  | none => simp [spelled] at done
  | some sign => simpa [spelled, Sign.text] using done

theorem inlines_booleanTest {comparison : Comparison} {left test : Draft} {truth : Bool}
    (plain : test = NamedDialect.comparisonSpelling ⟨.standard, name⟩ comparison
      ++ ofText (Dialect.standard.booleanText truth))
    {text : List Char} (done : (left ++ test).Inlines ⟨.standard, name⟩ text) :
    ∃ leftText rightText, left.Inlines ⟨.standard, name⟩ leftText ∧
      ((Expr.literal (.boolean truth)).draft ⟨.standard, name⟩ true).Inlines
        ⟨.standard, name⟩ rightText ∧
        text = leftText ++ ((Sign.comparison comparison).text ++ rightText) := by
  obtain ⟨leftText, _, written, tested, rfl⟩ := inlines_append.mp done
  rw [plain, inlines_append] at tested
  obtain ⟨_, rightText, spelled, truthText, rfl⟩ := tested
  rw [inlines_comparisonSpelling spelled]
  refine ⟨leftText, rightText, written, ?_, rfl⟩
  exact (inlines_value _ _).mpr ⟨_, rfl, (inlines_ofText _).mp truthText⟩

theorem inlines_comparison {comparison : Comparison} {left : Draft} {operand : Expr}
    {text : List Char}
    (done : (NamedDialect.comparisonDraft ⟨.standard, name⟩ comparison left operand.boolean?
      (operand.draft ⟨.standard, name⟩ true)).Inlines ⟨.standard, name⟩ text) :
    ∃ leftText rightText, left.Inlines ⟨.standard, name⟩ leftText ∧
      (operand.draft ⟨.standard, name⟩ true).Inlines ⟨.standard, name⟩ rightText ∧
        text = leftText ++ ((Sign.comparison comparison).text ++ rightText) := by
  unfold NamedDialect.comparisonDraft at done
  split at done
  · next truth known =>
    rw [Expr.eq_of_boolean? known]
    exact inlines_booleanTest rfl done
  · next truth known =>
    rw [Expr.eq_of_boolean? known]
    exact inlines_booleanTest rfl done
  · obtain ⟨_, rightText, started, right, rfl⟩ := inlines_append.mp done
    obtain ⟨leftText, _, written, spelled, rfl⟩ := inlines_append.mp started
    rw [inlines_comparisonSpelling spelled, List.append_assoc]
    exact ⟨leftText, rightText, written, right, rfl⟩

theorem spelled_comparison {comparison : Comparison} {left : Draft} {column operand normal : Expr}
    (leftSpelled : ∀ text, left.Inlines ⟨.standard, name⟩ text → Spelled .operand column text)
    (spelled : ∀ text, (operand.draft ⟨.standard, name⟩ true).Inlines ⟨.standard, name⟩ text →
      Spelled .operand normal text) {text : List Char}
    (done : (NamedDialect.comparisonDraft ⟨.standard, name⟩ comparison left operand.boolean?
      (operand.draft ⟨.standard, name⟩ true)).Inlines ⟨.standard, name⟩ text) :
    Spelled .item (.comparison comparison column normal) text := by
  obtain ⟨leftText, rightText, leftDone, rightDone, rfl⟩ := inlines_comparison done
  exact .item_between (.comparison comparison) (by simp) (leftSpelled leftText leftDone)
    (spelled rightText rightDone)

theorem spelled_range {test : RangeTest} {left low high : Draft} {column lower upper : Expr}
    (leftSpelled : ∀ text, left.Inlines ⟨.standard, name⟩ text → Spelled .operand column text)
    (lowSpelled : ∀ text, low.Inlines ⟨.standard, name⟩ text → Spelled .operand lower text)
    (highSpelled : ∀ text, high.Inlines ⟨.standard, name⟩ text → Spelled .operand upper text)
    {text : List Char} (done : (Draft.range test left low high).Inlines ⟨.standard, name⟩ text) :
    Spelled .item (.range test column lower upper) text := by
  simp only [Draft.range, List.append_assoc, inlines_append, inlines_ofText] at done
  obtain
    ⟨leftText, _, leftDone, ⟨_, _, rfl, ⟨lowText, _, lowDone, ⟨_, highText, rfl, highDone, rfl⟩,
    rfl⟩, rfl⟩, rfl⟩ := done
  exact .led (leftSpelled leftText leftDone)
    (.ranged (lowSpelled lowText lowDone) (highSpelled highText highDone))

theorem spelled_inversion (left? : Option Draft) {right : Draft} {normal : Expr}
    (spelled : ∀ text, right.Inlines ⟨.standard, name⟩ text → Spelled .operand normal text)
    {text : List Char}
    (done : (NamedDialect.bitwiseDraft ⟨.standard, name⟩ .invert left? right).Inlines
      ⟨.standard, name⟩ text) :
    Spelled .operand (.rightBitwise .invert normal) text := by
  have drafted : NamedDialect.bitwiseDraft ⟨.standard, name⟩ .invert left? right =
      parenthesized (ofText "~" ++ right) := rfl
  rw [drafted] at done
  obtain ⟨_, inside, rfl⟩ := inlines_parenthesized.mp done
  obtain ⟨_, rightText, sign, rightDone, rfl⟩ := inlines_append.mp inside
  rw [(inlines_ofText _).mp sign]
  exact (Spelled.inverted (spelled rightText rightDone)).parenthesized_item

theorem spelled_bitwise {operator : BitOperator} (between : operator ≠ .invert) {left right : Draft}
    {first second : Expr}
    (leftSpelled : ∀ text, left.Inlines ⟨.standard, name⟩ text → Spelled .operand first text)
    (rightSpelled : ∀ text, right.Inlines ⟨.standard, name⟩ text → Spelled .operand second text)
    {text : List Char}
    (done : (NamedDialect.bitwiseDraft ⟨.standard, name⟩ operator (some left) right).Inlines
      ⟨.standard, name⟩ text) :
    Spelled .operand (.bitwise operator first second) text := by
  unfold NamedDialect.bitwiseDraft at done
  cases spelled : Dialect.standard.operators.bitwise operator with
  | none => simp [spelled] at done
  | some sign =>
      simp only [spelled, between, if_false] at done
      obtain ⟨_, inside, rfl⟩ := inlines_parenthesized.mp done
      obtain ⟨_, rightText, started, rightDone, rfl⟩ := inlines_append.mp inside
      obtain ⟨leftText, signText, leftDone, signed, rfl⟩ := inlines_append.mp started
      have same : signText = (Sign.bitwise operator).text := by
        simpa [Sign.text, spelled] using signed
      rw [same, List.append_assoc]
      have item := Spelled.item_between (.bitwise operator) (by simpa using between)
        (leftSpelled leftText leftDone) (rightSpelled rightText rightDone)
      exact item.parenthesized_item

theorem spelled_identifier {column : Identifier} {text : List Char}
    (done : (Dialect.standard.identifierDraft column).Inlines ⟨.standard, name⟩ text) :
    Spelled .operand (.identifier column) text := by
  unfold Dialect.identifierDraft at done
  cases valid : column.flaw? with
  | some flaw => simp [valid] at done
  | none =>
      rw [valid] at done
      rw [(inlines_ofText _).mp done]
      exact .identifier valid

theorem spelled_literal {value : Value} (simple : value.isSimple) {text : List Char}
    (done : (Dialect.standard.valueDraft value).Inlines ⟨.standard, name⟩ text) :
    Spelled .operand (.literal value) text := by
  have written : ∃ literal, NamedDialect.literalText ⟨.standard, name⟩ value = .ok literal ∧
      text = literal.toList := by
    cases value with
    | null => exact ⟨_, rfl, (inlines_ofText _).mp done⟩
    | boolean | integer | text => exact (inlines_value _ _).mp done
    | float | blob | timestamp => simp [Value.isSimple] at simple
  obtain ⟨literal, written, rfl⟩ := written
  exact .literal simple written

def Expr.condition (expr : Expr) (name : String) : Condition :=
  ⟨expr.isEmptyCondition, expr.isConditionList, expr.draft ⟨.standard, name⟩⟩

/-- A right operand alone is written for an inversion only. -/
theorem spelled_rightBitwise {operator : BitOperator} {right : Draft} {normal : Expr}
    (spelled : ∀ text, right.Inlines ⟨.standard, name⟩ text → Spelled .operand normal text)
    {text : List Char}
    (done : (NamedDialect.bitwiseDraft ⟨.standard, name⟩ operator none right).Inlines
      ⟨.standard, name⟩ text) :
    Spelled .operand (.rightBitwise operator normal) text := by
  by_cases inverts : operator = .invert
  · subst inverts
    exact spelled_inversion none spelled done
  · unfold NamedDialect.bitwiseDraft at done
    split at done
    · simp at done
    · obtain ⟨inside, written, _⟩ := inlines_parenthesized.mp done
      simp [inverts] at written

theorem spelled_negation {draft : Draft} {normal : Expr}
    (spelled : ∀ text, draft.Inlines ⟨.standard, name⟩ text → Spelled .clause normal text)
    {text : List Char} (done : (enclosed "NOT (" draft ")").Inlines ⟨.standard, name⟩ text) :
    Spelled .item (.not normal) text := by
  obtain ⟨inside, written, rfl⟩ := inlines_enclosed.mp done
  exact .negated (spelled inside written)

mutual

theorem Expr.spells : ∀ expr : Expr, expr.isFormula → (expr.condition name).Spells name expr.norm
  | .identifier name, _ => .ofOperand fun _ => spelled_identifier
  | .literal value, simple => .ofOperand fun _ => spelled_literal simple
  | .comparison operator left right, formula => by
      simp only [Expr.isFormula, Bool.and_eq_true] at formula
      exact .ofItem fun _ =>
        spelled_comparison (left.spells formula.1).nested (right.spells formula.2).nested
  | .bitwise operator left right, formula => by
      simp only [Expr.isFormula, Bool.and_eq_true] at formula
      have rightSpells := right.spells formula.2
      by_cases inverts : operator = .invert
      · subst inverts
        exact .ofOperand fun _ =>
          spelled_inversion (some (left.draft ⟨.standard, name⟩ true)) rightSpells.nested
      · rw [Expr.norm, if_neg inverts]
        exact .ofOperand fun _ =>
          spelled_bitwise inverts (left.spells formula.1).nested rightSpells.nested
  | .rightBitwise operator right, formula =>
      .ofOperand fun _ => spelled_rightBitwise (right.spells formula).nested
  | .range test expr low high, formula => by
      simp only [Expr.isFormula, Bool.and_eq_true] at formula
      exact .ofItem fun _ =>
        spelled_range (expr.spells formula.1.1).nested (low.spells formula.1.2).nested
          (high.spells formula.2).nested
  | .conditions connective items, formula => by
      have each := exprs_spell items formula
      have silent : allEmptyConditions items → ∀ item ∈ items, (item.condition name).isEmpty := by
        rw [allEmptyConditions_eq_all, List.all_eq_true]
        exact id
      change Condition.Spells name ⟨allEmptyConditions items, true, fun nested =>
        Draft.conditions connective nested (conditionItems ⟨.standard, name⟩ items)⟩
        (.joined connective (normExprs items))
      rw [conditionItems_eq_map, normExprs_eq_map]
      exact spells_list each silent
  | .not expr, formula => .ofItem fun _ => spelled_negation (expr.spells formula).clause
  | .filter ⟨any, entries⟩, formula => by
      have each := filterEntries_spell entries formula
      have silent : entries.isEmpty →
          ∀ entry ∈ entries, (entry.item ⟨.standard, name⟩).isEmpty := by
        intro empty
        simp [List.isEmpty_iff.mp empty]
      change Condition.Spells name ⟨entries.isEmpty, true, fun nested =>
        Draft.conditions (if any then .or else .and) nested
          (filterEntryItems ⟨.standard, name⟩ entries)⟩
        (.joined (if any then .or else .and) (normFilterEntries entries))
      rw [filterEntryItems_eq_map, normFilterEntries_eq_map]
      exact spells_list each silent

theorem exprs_spell : ∀ exprs : List Expr, areFormulas exprs →
    ∀ expr ∈ exprs, (expr.condition name).Spells name expr.norm
  | [], _ => by simp
  | expr :: rest, formulas => by
      simp only [areFormulas, Bool.and_eq_true] at formulas
      exact List.forall_mem_cons.mpr ⟨expr.spells formulas.1, exprs_spell rest formulas.2⟩

theorem FilterTest.spells : ∀ test : FilterTest, test.isFormula → ∀ column : Identifier,
    Condition.Spells name ⟨false, false, fun nested =>
      parenthesizedIf nested (test.draft ⟨.standard, name⟩
        (Dialect.standard.identifierDraft column))⟩
      (test.norm (.identifier column))
  | .comparison operator value, formula, column =>
      .ofItem fun _ => spelled_comparison (fun _ => spelled_identifier)
        (value.spells formula).nested
  | .range test low high, formula, column => by
      simp only [FilterTest.isFormula, Bool.and_eq_true] at formula
      exact .ofItem fun _ =>
        spelled_range (fun _ => spelled_identifier) (low.spells formula.1).nested
          (high.spells formula.2).nested

theorem filterTests_spell : ∀ tests : List FilterTest, areFormulaTests tests →
    ∀ column : Identifier, ∀ test ∈ tests, Condition.Spells name ⟨false, false, fun nested =>
      parenthesizedIf nested (test.draft ⟨.standard, name⟩
        (Dialect.standard.identifierDraft column))⟩
      (test.norm (.identifier column))
  | [], _, _ => by simp
  | test :: rest, formulas, column => by
      simp only [areFormulaTests, Bool.and_eq_true] at formulas
      exact List.forall_mem_cons.mpr
        ⟨test.spells formulas.1 column, filterTests_spell rest formulas.2 column⟩

theorem FilterEntry.spells : ∀ entry : FilterEntry, entry.isFormula →
    (entry.item ⟨.standard, name⟩).Spells name entry.norm
  | .value column operand, formula =>
      .ofItem fun _ => spelled_comparison (fun _ => spelled_identifier)
        (operand.spells formula).nested
  | .tests column tests, formula => by
      have each := filterTests_spell tests formula (.parse column)
      rw [FilterEntry.norm, normFilterTests_eq_map, FilterEntry.item, filterTestItems_eq_map]
      have silent : tests.isEmpty → ∀ test ∈ tests, (Condition.mk false false fun nested =>
          parenthesizedIf nested (test.draft ⟨.standard, name⟩
            (Dialect.standard.identifierDraft (.parse column)))).isEmpty := by
        intro empty
        simp [List.isEmpty_iff.mp empty]
      rcases tests with _ | ⟨single, _ | ⟨second, rest⟩⟩
      · exact spells_list each silent
      · have alone : Expr.joined .or [single.norm (.column column)] =
            single.norm (.column column) := by
          simp [Expr.joined, single.isEmptyCondition_norm]
        change Condition.Spells name _ (Expr.joined .or [single.norm (.column column)])
        rw [alone]
        exact each single (by simp)
      · have several : decide ((single :: second :: rest).length ≠ 1) = true := by simp
        rw [several]
        exact spells_list each silent

theorem filterEntries_spell : ∀ entries : List FilterEntry, areFormulaEntries entries →
    ∀ entry ∈ entries, (entry.item ⟨.standard, name⟩).Spells name entry.norm
  | [], _ => by simp
  | entry :: rest, formulas => by
      simp only [areFormulaEntries, Bool.and_eq_true] at formulas
      exact List.forall_mem_cons.mpr
        ⟨entry.spells formulas.1, filterEntries_spell rest formulas.2⟩

end

/-- Two formulas that are written alike at the top of a clause have one normal form. -/
theorem formula_text_unambiguous {left right : Expr} (leftFormula : left.isFormula)
    (rightFormula : right.isFormula) {leftCompiled rightCompiled : Compiled}
    (leftDone : (left.draft ⟨.standard, name⟩ false).write
      (Mode.inline.writeValue ⟨.standard, name⟩) 0 = .ok leftCompiled)
    (rightDone : (right.draft ⟨.standard, name⟩ false).write
      (Mode.inline.writeValue ⟨.standard, name⟩) 0 = .ok rightCompiled)
    (same : leftCompiled.sql = rightCompiled.sql) : left.norm = right.norm := by
  have leftSpelled := (left.spells leftFormula).clause _ ⟨leftCompiled, leftDone, rfl⟩
  have rightSpelled := (right.spells rightFormula).clause _ ⟨rightCompiled, rightDone, rfl⟩
  rw [same] at leftSpelled
  exact leftSpelled.clause_unique rightSpelled

def urgentJobs (inverted : Expr) (pending : List Expr) : Expr :=
  .conditions .or [.range .between (.column "priority") (.literal (.integer 1))
      (.literal (.integer 3)),
    .conditions .and (.compare .greater (.bitwise .invert inverted (.column "mask"))
      (.literal (.integer 7)) :: pending)]

theorem formula_text_unambiguous_urgentJobs :
    ((urgentJobs (.literal .null) []).draft ⟨.standard, "default"⟩ false).write
        (Mode.inline.writeValue ⟨.standard, "default"⟩) 0 =
      .ok ⟨"\"priority\" BETWEEN 1 AND 3 OR ((~\"mask\") > 7)", []⟩ ∧
    (urgentJobs (.literal .null) []).norm =
      (urgentJobs (.column "id") [.filter ⟨true, []⟩]).norm := by
  have left : ((urgentJobs (.literal .null) []).draft ⟨.standard, "default"⟩ false).write
        (Mode.inline.writeValue ⟨.standard, "default"⟩) 0 =
      .ok ⟨"\"priority\" BETWEEN 1 AND 3 OR ((~\"mask\") > 7)", []⟩ := by rfl
  have right : ((urgentJobs (.column "id") [.filter ⟨true, []⟩]).draft
      ⟨.standard, "default"⟩ false).write
        (Mode.inline.writeValue ⟨.standard, "default"⟩) 0 =
      .ok ⟨"\"priority\" BETWEEN 1 AND 3 OR ((~\"mask\") > 7)", []⟩ := by rfl
  exact ⟨left, formula_text_unambiguous rfl rfl left right rfl⟩

end SqlDialects
