import SqlDialects.Proofs.Draft.Congruent
import SqlDialects.Proofs.Draft.Widening

/-!
Relations between what two dialects draft. A relation that goes from the parts of drafts to the
whole, and holds where the dialects write a word or check a feature of their own, holds wherever
the dialects put related drafts together.
-/

namespace SqlDialects

open Draft

/-- What makes a relation hold of the words that two dialects write and of the features that they
check. Where `same` holds, the relation tells words apart, so the second dialect has to keep those
of the first; only the keyword that opens an insertion is compared on its own. -/
structure NamedDialect.RelatesWords (same : Prop) (first second : NamedDialect)
    (related : Draft → Draft → Prop) : Prop extends Congruent same related where
  unsupported : ∀ feature draft, first.supports feature = false →
    (second.supports feature = false → draft = Draft.unsupported second.name feature) →
    related (Draft.unsupported first.name feature) draft
  supports : ∀ feature, first.supports feature → second.supports feature
  widens : same → second.Widens (first.withInsertKeyword second.keywords.insert)

/-- What makes a relation hold of all that two dialects draft: beside their words, whatever they are
free to write in different ways. -/
structure NamedDialect.Relates (same : Prop) (first second : NamedDialect)
    (related : Draft → Draft → Prop) : Prop extends
    NamedDialect.RelatesWords same first second related where
  booleanTest : ∀ negated truth,
    related (first.booleanTestDraft negated truth) (second.booleanTestDraft negated truth)
  parentheses : ∀ {left right}, related left right →
    related (parenthesizedIf first.conventions.compoundsInParentheses left)
      (parenthesizedIf second.conventions.compoundsInParentheses right)
  missingTarget :
    related
      (if first.conventions.conflictUpdateNeedsTarget then Draft.invalid .missingConflictTarget
        else [])
      (if second.conventions.conflictUpdateNeedsTarget then Draft.invalid .missingConflictTarget
        else [])
  skippedConflict :
    related (first.conflictDraft ⟨[], .nothing⟩) (second.conflictDraft ⟨[], .nothing⟩)
  select : ∀ (query : Select) {left right : SelectParts}, left.carried = query.carried →
    left.Related related right →
      related (left.draft first.name first.orders.select)
        (right.draft second.name second.orders.select)

section

variable {same : Prop} {first second : NamedDialect} {related : Draft → Draft → Prop}

namespace NamedDialect.RelatesWords

variable (relates : first.RelatesWords same second related)

include relates

theorem related_demand {capability capability' : Bool} {feature : Feature}
    (supports : first.supports feature = capability)
    (supports' : second.supports feature = capability') :
    related (demand first.name capability feature) (demand second.name capability' feature) := by
  cases capability with
  | false =>
      refine relates.unsupported feature _ supports fun lacks => ?_
      rw [← supports', lacks]
      rfl
  | true =>
      rw [← supports', relates.supports feature supports]
      exact relates.nil

theorem lacks_or_words (feature : Feature) {text? text'? : Option String}
    (supports : first.supports feature = text?.isSome)
    (supports' : second.supports feature = text'?.isSome) (keeps : same → Keeps text? text'?) :
    (text? = none ∧ ∀ draft, (text'? = none → draft = Draft.unsupported second.name feature) →
        related (Draft.unsupported first.name feature) draft) ∨
      ∃ text text', text? = some text ∧ text'? = some text' ∧ (same → text' = text) := by
  cases text? with
  | none =>
      refine .inl ⟨rfl, fun draft failing => relates.unsupported feature draft supports ?_⟩
      intro lacks
      apply failing
      rwa [supports', Option.isSome_eq_false_iff, Option.isNone_iff_eq_none] at lacks
  | some text =>
      cases text'? with
      | none =>
          rw [relates.supports feature supports] at supports'
          cases supports'
      | some text' =>
          exact .inr ⟨text, text', rfl, rfl, fun alike => Option.some.inj (keeps alike rfl)⟩

theorem related_spelling {text? text'? : Option String} {feature : Feature}
    (supports : first.supports feature = text?.isSome)
    (supports' : second.supports feature = text'?.isSome) (keeps : same → Keeps text? text'?) :
    related (spelling first.name feature text?) (spelling second.name feature text'?) := by
  rcases relates.lacks_or_words feature supports supports' keeps with
    ⟨rfl, failing⟩ | ⟨text, text', rfl, rfl, alike⟩
  · apply failing
    rintro rfl
    rfl
  · exact relates.word alike

theorem nameText_eq (name : String) (alike : same) :
    second.nameText name = first.nameText name := by
  rw [Dialect.nameText, Dialect.nameText, (relates.widens alike).lexicon,
    (relates.widens alike).conventions]

theorem related_nameDraft (name : String) :
    related (first.nameDraft name) (second.nameDraft name) :=
  relates.word (relates.nameText_eq name)

theorem related_nameDrafts (names : List String) :
    List.Forall₂ related (names.map first.nameDraft) (names.map second.nameDraft) :=
  forall₂_map fun name _ => relates.related_nameDraft name

theorem related_identifierDraft (identifier : Identifier) :
    related (first.identifierDraft identifier) (second.identifierDraft identifier) := by
  unfold Dialect.identifierDraft
  cases identifier.flaw? with
  | some flaw => exact relates.invalid _
  | none =>
      apply relates.word
      intro alike
      have parts : second.partText = first.partText := by
        funext part
        cases part with
        | name text => exact relates.nameText_eq text alike
        | star => rfl
      rw [Dialect.identifierText, Dialect.identifierText, parts]

theorem related_valueDraft
    (literal : ∀ value : Value, value.isBindable →
      related [.value .literal value] [.value .literal value]) (value : Value) :
    related (first.valueDraft value) (second.valueDraft value) := by
  cases value with
  | null => exact relates.word fun alike => by rw [(relates.widens alike).lexicon]
  | float number =>
      simp only [Dialect.valueDraft]
      split
      · next finite => exact literal (.float number) finite
      · exact relates.invalid _
  | boolean | integer | text | blob | timestamp => exact literal _ rfl

theorem related_comparisonSpelling (comparison : Comparison) :
    related (first.comparisonSpelling comparison) (second.comparisonSpelling comparison) := by
  unfold comparisonSpelling
  rcases relates.lacks_or_words (.comparison comparison) rfl rfl
    (fun alike => (relates.widens alike).comparison comparison) with
    ⟨missing, failing⟩ | ⟨text, text', spelled, spelled', alike⟩
  · rw [missing]
    apply failing
    intro missing'
    rw [missing']
  · rw [spelled, spelled']
    exact relates.word fun known => by rw [alike known]

end NamedDialect.RelatesWords

namespace NamedDialect.Relates

variable (relates : first.Relates same second related)

include relates

theorem related_comparisonDraft (comparison : Comparison) (truth : Option Bool)
    {left left' right right' : Draft} (leftRelated : related left left')
    (rightRelated : related right right') :
    related (first.comparisonDraft comparison left truth right)
      (second.comparisonDraft comparison left' truth right') := by
  unfold comparisonDraft
  split
  · exact relates.append leftRelated (relates.booleanTest _ _)
  · exact relates.append leftRelated (relates.booleanTest _ _)
  · exact relates.append (relates.append leftRelated (relates.related_comparisonSpelling _))
      rightRelated

theorem related_bitwiseDraft (operator : BitOperator) {left? left'? : Option Draft}
    {right right' : Draft} (leftRelated : Option.Rel related left? left'?)
    (rightRelated : related right right') :
    related (first.bitwiseDraft operator left? right)
      (second.bitwiseDraft operator left'? right') := by
  unfold bitwiseDraft
  rcases relates.lacks_or_words (.bitwise operator) rfl rfl
    (fun alike => (relates.widens alike).bitwise operator) with
    ⟨missing, failing⟩ | ⟨text, text', spelled, spelled', alike⟩
  · rw [missing]
    apply failing
    intro missing'
    rw [missing']
  · rw [spelled, spelled']
    apply relates.related_wrapped "(" ")"
    split
    · exact relates.append (relates.word alike) rightRelated
    · cases leftRelated with
      | none => exact relates.invalid _
      | some leftRelated =>
          have word : related (ofText (" " ++ text ++ " ")) (ofText (" " ++ text' ++ " ")) :=
            relates.word fun known => by rw [alike known]
          exact relates.append (relates.append leftRelated word) rightRelated

theorem related_tupleDraft {left right : List Draft} (each : List.Forall₂ related left right) :
    related (first.tupleDraft left) (second.tupleDraft right) := by
  cases each with
  | nil => exact relates.word fun alike => by rw [(relates.widens alike).lexicon]
  | cons head tail =>
      exact relates.related_wrapped "(" ")" (relates.related_commaSeparated (.cons head tail))

theorem related_excludedDraft (column : String) :
    related (first.excludedDraft column) (second.excludedDraft column) := by
  unfold Dialect.excludedDraft
  split
  · exact relates.invalid _
  · exact relates.related_enclosed (fun alike => by rw [(relates.widens alike).lexicon])
      (fun alike => by rw [(relates.widens alike).lexicon]) (relates.related_nameDraft column)

theorem related_nullsDraft (nulls : Option NullsPlacement) :
    related (first.nullsDraft nulls) (second.nullsDraft nulls) := by
  cases nulls with
  | none => exact relates.nil
  | some nulls =>
      cases nulls with
      | first =>
          exact relates.related_spelling rfl rfl fun alike => (relates.widens alike).nullsFirst
      | last => exact relates.related_spelling rfl rfl fun alike => (relates.widens alike).nullsLast

theorem related_windowDraft (parent : Option String)
    {partition partition' order order' : List Draft}
    (partitions : List.Forall₂ related partition partition')
    (orders : List.Forall₂ related order order') :
    related (first.windowDraft parent partition order)
      (second.windowDraft parent partition' order') := by
  have listed : ∀ (opening : String) {left right : List Draft}, List.Forall₂ related left right →
      List.Forall₂ related (if left.isEmpty then [] else [ofText opening ++ commaSeparated left])
        (if right.isEmpty then [] else [ofText opening ++ commaSeparated right]) := by
    intro opening left right each
    cases each with
    | nil => exact .nil
    | cons head tail => exact .cons (relates.related_listed opening (.cons head tail)) .nil
  exact relates.related_separated " " (List.rel_append (List.rel_append
    (relates.related_nameDrafts parent.toList) (listed "PARTITION BY " partitions))
    (listed "ORDER BY " orders))

theorem related_namedWindowDraft (name : Option String) {left right : Draft}
    (inside : related left right) :
    related (first.namedWindowDraft name left) (second.namedWindowDraft name right) := by
  cases name with
  | none => exact relates.invalid _
  | some name =>
      exact relates.append (relates.related_nameDraft name) (relates.related_wrapped _ _ inside)

theorem related_windowsDraft {left right : List Draft} (each : List.Forall₂ related left right) :
    related (first.windowsDraft left) (second.windowsDraft right) :=
  relates.append (relates.append (relates.related_demand rfl rfl) (relates.related_ofText _))
    (relates.related_commaSeparated each)

theorem related_over {left right : Draft} (inside : related left right) :
    related
      (demand first.name first.capabilities.windows .windowFunctions ++ ofText " OVER " ++ left)
      (demand second.name second.capabilities.windows .windowFunctions
        ++ ofText " OVER " ++ right) :=
  relates.append (relates.append (relates.related_demand rfl rfl) (relates.related_ofText _)) inside

theorem related_joinPartDraft (kind : JoinKind) {left right : JoinPart}
    (inside : JoinPart.Related related left right) :
    related (first.joinPartDraft kind left) (second.joinPartDraft kind right) := by
  cases inside with
  | none => exact relates.nil
  | on inside =>
      simp only [Dialect.joinPartDraft]
      split
      · exact relates.append (relates.related_ofText _) inside
      · exact relates.invalid _
  | «using» columns =>
      simp only [Dialect.joinPartDraft]
      split
      · split
        · exact relates.invalid _
        · exact relates.related_wrapped _ _
            (relates.related_commaSeparated (relates.related_nameDrafts columns))
      · exact relates.invalid _

theorem related_joinKind (kind : JoinKind) :
    related (spelling first.name (.join kind) (first.operators.join kind))
      (spelling second.name (.join kind) (second.operators.join kind)) :=
  relates.related_spelling rfl rfl fun alike => (relates.widens alike).join kind

theorem related_joinDraft (kind : JoinKind) {source source' : Draft} {left right : JoinPart}
    (sourceRelated : related source source') (inside : JoinPart.Related related left right) :
    related (first.joinDraft kind source left) (second.joinDraft kind source' right) :=
  relates.append (relates.append (relates.related_joinKind kind) sourceRelated)
    (relates.related_joinPartDraft kind inside)

theorem related_commonTableDraft (name : String) {left right : Draft}
    (inside : related left right) :
    related (first.commonTableDraft name left) (second.commonTableDraft name right) :=
  relates.append (relates.related_nameDraft name) (relates.related_wrapped _ _ inside)

theorem related_commonTablesDraft (recursive : Bool) {left right : List Draft}
    (each : List.Forall₂ related left right) :
    related (first.commonTablesDraft recursive left)
      (second.commonTablesDraft recursive right) := by
  have keyword :
      related (ofText first.keywords.commonTables) (ofText second.keywords.commonTables) :=
    relates.word fun alike => by rw [(relates.widens alike).keywords]
  have further : related
      (if recursive then
        demand first.name first.capabilities.recursiveTables .recursiveTables
          ++ ofText first.keywords.recursive
      else [])
      (if recursive then
        demand second.name second.capabilities.recursiveTables .recursiveTables
          ++ ofText second.keywords.recursive
      else []) := by
    cases recursive with
    | false => exact relates.nil
    | true =>
        exact relates.append (relates.related_demand rfl rfl)
          (relates.word fun alike => by rw [(relates.widens alike).keywords])
  exact relates.append (relates.append (relates.append (relates.append
    (relates.related_demand rfl rfl) keyword) further) (relates.related_commaSeparated each))
    (relates.related_ofText " ")

theorem related_compoundDraft (kind : CompoundKind) {left right : Draft}
    (inside : related left right) :
    related (first.compoundDraft kind left) (second.compoundDraft kind right) :=
  relates.append (relates.related_spelling rfl rfl fun alike =>
    (relates.widens alike).compound kind) (relates.parentheses inside)

theorem related_distinctOnDraft {left right : List Draft} (each : List.Forall₂ related left right) :
    related (first.distinctOnDraft left) (second.distinctOnDraft right) :=
  relates.append (relates.related_demand rfl rfl) (relates.related_enclosed
    (fun alike => by rw [(relates.widens alike).keywords]) (fun _ => rfl)
    (relates.related_commaSeparated each))

theorem related_lockDraft (lock : Option Lock) :
    related (first.lockDraft lock) (second.lockDraft lock) := by
  cases lock with
  | none => exact relates.nil
  | some lock =>
      refine relates.append (relates.related_spelling rfl rfl fun alike =>
        (relates.widens alike).lock lock.strength) ?_
      cases lock.wait with
      | block => exact relates.nil
      | noWait => exact relates.related_spelling rfl rfl fun alike => (relates.widens alike).noWait
      | skipLocked =>
          exact relates.related_spelling rfl rfl fun alike => (relates.widens alike).skipLocked

theorem related_conflictFaults (conflict : Conflict) :
    related (first.conflictFaults conflict) (second.conflictFaults conflict) := by
  obtain ⟨target, action⟩ := conflict
  refine relates.append (relates.append (relates.append (relates.related_demand rfl rfl) ?_) ?_) ?_
  · cases target with
    | nil => exact relates.nil
    | cons => exact relates.related_demand rfl rfl
  · cases action with
    | nothing => exact relates.nil
    | update assignments condition =>
        refine relates.append (relates.append ?_ ?_) ?_
        · cases Expr.asksSomething condition with
          | false => exact relates.nil
          | true => exact relates.related_demand rfl rfl
        · split
          · exact relates.invalid _
          · exact relates.nil
        · cases target with
          | nil => exact relates.missingTarget
          | cons => exact relates.nil
  · split
    · exact relates.invalid _
    · exact relates.nil

end NamedDialect.Relates

end

namespace Draft.Congruent

variable {same : Prop} {related : Draft → Draft → Prop} (congruent : Congruent same related)
  (dialect : Dialect) {name other : String}
  (unsupported : ∀ feature,
    related (Draft.unsupported name feature) (Draft.unsupported other feature))

include congruent unsupported

theorem relatesWords :
    NamedDialect.RelatesWords same ⟨dialect, name⟩ ⟨dialect, other⟩ related where
  toCongruent := congruent
  unsupported := by
    intro feature draft lacks failing
    rw [failing lacks]
    exact unsupported feature
  supports := fun _ supported => supported
  widens := fun _ => .refl _

/-- What a dialect drafts under two names is related if its failures and its booleans are. -/
theorem relates
    (misconfigured : ∀ cause,
      related (Draft.misconfigured name cause) (Draft.misconfigured other cause))
    (boolean : ∀ truth,
      related [.value .literal (.boolean truth)] [.value .literal (.boolean truth)]) :
    NamedDialect.Relates same ⟨dialect, name⟩ ⟨dialect, other⟩ related where
  toRelatesWords := congruent.relatesWords dialect unsupported
  booleanTest := by
    intro negated truth
    have words := congruent.relatesWords dialect unsupported
    simp only [NamedDialect.booleanTestDraft]
    split
    · exact words.append (words.related_comparisonSpelling _) (words.related_ofText _)
    · split
      · exact words.append (words.related_comparisonSpelling _) (words.related_ofText _)
      · exact words.append (words.related_comparisonSpelling _) (boolean truth)
  parentheses := congruent.related_parenthesizedIf _
  missingTarget := by
    split
    · exact congruent.invalid _
    · exact congruent.nil
  skippedConflict := by
    have words := congruent.relatesWords dialect unsupported
    have faults : related (NamedDialect.conflictFaults ⟨dialect, name⟩ ⟨[], .nothing⟩)
        (NamedDialect.conflictFaults ⟨dialect, other⟩ ⟨[], .nothing⟩) :=
      words.append (words.append (words.append (words.related_demand rfl rfl) words.nil)
        words.nil) words.nil
    refine words.append faults ?_
    split
    · exact words.nil
    · exact words.append (words.append (words.related_ofText _) words.nil)
        (words.related_ofText _)
  select := fun _ _ _ _ parts => congruent.related_select misconfigured unsupported parts _

end Draft.Congruent

end SqlDialects
