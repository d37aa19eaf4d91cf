import SqlDialects.Proofs.Draft.Closed

/-!
What a draft shows: whether its text, with all values in it, has an `OR` outside of quotes and
parentheses. Parentheses hide what they hold; a draft with a word of its own between its parts
shows what one of the parts shows.
-/

namespace SqlDialects

open Draft

variable {dialect : NamedDialect}

namespace Draft

/-- The text of a draft is closed, and has a bare `OR` if and only if `disjoined` holds. -/
def Shows (dialect : NamedDialect) (draft : Draft) (disjoined : Prop) : Prop :=
  ∀ text, draft.Inlines dialect text →
    IsClosed dialect.takesBackslash text ∧
      (HasBareOr dialect.takesBackslash text ↔ disjoined)

variable {first second draft : Draft} {left right disjoined : Prop}

theorem Shows.congr (shown : draft.Shows dialect left) (same : left ↔ right) :
    draft.Shows dialect right :=
  fun text written => ⟨(shown text written).1, (shown text written).2.trans same⟩

theorem shows_of_neutral
    (neutral : ∀ text, draft.Inlines dialect text → IsNeutral dialect.takesBackslash text) :
    draft.Shows dialect False :=
  fun text written => ⟨(neutral text written).1, iff_of_false (neutral text written).2 id⟩

theorem shows_ofText {content : String}
    (neutral : IsNeutral dialect.takesBackslash content.toList) :
    (ofText content).Shows dialect False :=
  shows_of_neutral fun text written => by
    obtain rfl := (inlines_ofText content).mp written
    exact neutral

theorem shows_nil : Shows dialect [] False :=
  shows_of_neutral fun text written => by
    obtain rfl := inlines_nil.mp written
    exact isNeutral_nil

theorem shows_of_not_inlines (fails : ∀ text, ¬draft.Inlines dialect text) :
    draft.Shows dialect disjoined :=
  fun text written => absurd written (fails text)

theorem shows_invalid (defect : Defect) : (invalid defect).Shows dialect disjoined :=
  shows_of_not_inlines fun _ => not_inlines_invalid defect

theorem shows_parenthesized (inside : draft.Closed dialect) :
    (parenthesized draft).Shows dialect False := by
  refine shows_of_neutral fun text written => ?_
  obtain ⟨content, drafted, rfl⟩ := inlines_parenthesized.mp written
  have closed := inside content drafted
  exact ⟨closed.parenthesized, closed.not_hasBareOr_parenthesized⟩

theorem shows_bracketed {opening closing : String} (before between : List Char)
    (opens : opening.toList = before ++ ['(']) (closes : closing.toList = between ++ [')'])
    (start : IsClosed dialect.takesBackslash before)
    (more : IsClosed dialect.takesBackslash between) (inside : draft.Closed dialect) :
    (enclosed opening draft closing).Shows dialect (HasBareOr dialect.takesBackslash before) := by
  intro text written
  obtain ⟨content, drafted, rfl⟩ := (inlines_bracketed before between opens closes).mp written
  have closed := (inside content drafted).append more
  refine ⟨start.append closed.parenthesized, ?_⟩
  rw [hasBareOr_append start closed.parenthesized (by simp [isWordCharacter])]
  exact or_iff_left closed.not_hasBareOr_parenthesized

theorem shows_worded {opening closing : String} (before between : List Char)
    (opens : opening.toList = before ++ ['(']) (closes : closing.toList = between ++ [')'])
    (word : IsNeutral dialect.takesBackslash before)
    (more : IsClosed dialect.takesBackslash between) (inside : draft.Closed dialect) :
    (enclosed opening draft closing).Shows dialect False :=
  (shows_bracketed before between opens closes word.1 more inside).congr (iff_of_false word.2 id)

theorem shows_call {name : String} (named : IsClosed dialect.takesBackslash name.toList)
    {arguments : List Draft} (distinct : Bool)
    (each : ∀ argument ∈ arguments, argument.Closed dialect) :
    (call name arguments distinct).Shows dialect
      (HasBareOr dialect.takesBackslash name.toList) := by
  unfold call
  split
  · exact shows_invalid _
  · exact shows_bracketed name.toList [] (String.toList_append ..) rfl named isClosed_nil
      (closed_arguments distinct each)

/-- Two parts show what one of them shows if no word runs from the first into the second. -/
theorem Shows.append (firstShown : first.Shows dialect left)
    (secondShown : second.Shows dialect right)
    (apart : ∀ text, second.Inlines dialect text →
      ∀ character ∈ text.head?, isWordCharacter character = false) :
    Shows dialect (first ++ second) (left ∨ right) := by
  intro text written
  obtain ⟨before, after, here, later, rfl⟩ := inlines_append.mp written
  obtain ⟨start, startShows⟩ := firstShown before here
  obtain ⟨rest, restShows⟩ := secondShown after later
  refine ⟨start.append rest, ?_⟩
  rw [hasBareOr_append start rest (apart after later), startShows, restShows]

theorem Shows.between (firstShown : first.Shows dialect left) {word : String}
    (middle : List Char) (spaced : word.toList = ' ' :: (middle ++ [' ']))
    (neutral : IsNeutral dialect.takesBackslash middle)
    (secondShown : second.Shows dialect right) :
    Shows dialect (first ++ ofText word ++ second) (left ∨ right) := by
  intro text written
  rw [List.append_assoc] at written
  obtain ⟨before, after, here, later, rfl⟩ := inlines_append.mp written
  obtain ⟨_, behind, blank, follows, rfl⟩ := inlines_append.mp later
  obtain rfl := (inlines_ofText word).mp blank
  obtain ⟨start, startShows⟩ := firstShown before here
  obtain ⟨rest, restShows⟩ := secondShown behind follows
  rw [spaced]
  simp only [List.cons_append, List.append_assoc, List.nil_append]
  refine ⟨start.append ((neutral.1.append (rest.cons rfl)).cons rfl), ?_⟩
  rw [hasBareOr_between start neutral.1 rest neutral.2, startShows, restShows]

theorem shows_range (test : RangeTest) {expr low high : Draft} {middle : Prop}
    (exprShown : expr.Shows dialect left) (lowShown : low.Shows dialect middle)
    (highShown : high.Shows dialect right) :
    (range test expr low high).Shows dialect ((left ∨ middle) ∨ right) := by
  have tested : (expr ++ ofText test.text ++ low).Shows dialect (left ∨ middle) := by
    cases test with
    | between =>
        exact exprShown.between "BETWEEN".toList rfl (isNeutral_word (by decide) (by decide))
          lowShown
    | notBetween =>
        exact exprShown.between "NOT BETWEEN".toList rfl (isNeutral_word (by decide) (by decide))
          lowShown
  exact tested.between "AND".toList rfl (isNeutral_word (by decide) (by decide)) highShown

theorem shows_conjunction {α : Type} {items : List α} {draftOf : α → Draft}
    {disjoined : α → Prop} (each : ∀ item ∈ items, (draftOf item).Shows dialect (disjoined item)) :
    (separated " AND " (items.map draftOf)).Shows dialect (∃ item ∈ items, disjoined item) := by
  unfold separated
  induction items with
  | nil => exact shows_nil.congr (by simp)
  | cons head tail ih =>
      obtain ⟨here, later⟩ := List.forall_mem_cons.mp each
      cases tail with
      | nil => simpa using here
      | cons next others =>
          rw [List.map_cons, List.map_cons, List.intercalate_cons_cons, ← List.map_cons]
          refine (here.between "AND".toList rfl (isNeutral_word (by decide) (by decide))
            (ih later)).congr ?_
          simp [List.mem_cons]

theorem shows_over (name : String) (capability : Bool) (feature : Feature)
    (firstShown : first.Shows dialect left) (secondShown : second.Shows dialect right) :
    Shows dialect (first ++ (demand name capability feature ++ ofText " OVER " ++ second))
      (left ∨ right) := by
  cases capability with
  | false =>
      refine shows_of_not_inlines fun text written => ?_
      obtain ⟨_, _, -, later, -⟩ := inlines_append.mp written
      obtain ⟨_, _, here, -, -⟩ := inlines_append.mp later
      obtain ⟨_, _, demanded, -, -⟩ := inlines_append.mp here
      exact not_inlines_unsupported _ feature demanded
  | true =>
      change Shows dialect (first ++ (ofText " OVER " ++ second)) (left ∨ right)
      rw [← List.append_assoc]
      exact firstShown.between "OVER".toList rfl (isNeutral_word (by decide) (by decide))
        secondShown

theorem shows_conditions (connective : Connective) {items : List Condition}
    (closed : ∀ item ∈ items, item.Closed dialect)
    (alone : ∀ item, items.filter (fun item => !item.isEmpty) = [item] →
      (item.draft true).Shows dialect disjoined)
    (several : (∀ item, items.filter (fun item => !item.isEmpty) ≠ [item]) → ¬disjoined) :
    (conditions connective true items).Shows dialect disjoined := by
  have inside : (conditions connective false items).Closed dialect :=
    closed_conditions connective false closed
  unfold conditions at inside ⊢
  cases same : items.filter fun item => !item.isEmpty with
  | nil => exact shows_invalid _
  | cons first rest =>
      cases rest with
      | nil => exact alone first same
      | cons second others =>
          rw [same] at inside
          exact (shows_parenthesized inside).congr
            (iff_of_false id (several fun item => by simp [same]))

end Draft

namespace Dialect.Neutral

variable (neutral : dialect.Neutral)

include neutral

theorem shows_nameDraft (name : String) : (dialect.nameDraft name).Shows dialect False :=
  shows_ofText (neutral.name name)

theorem shows_identifierDraft (identifier : Identifier) :
    (dialect.identifierDraft identifier).Shows dialect False :=
  shows_of_neutral fun _ => neutral.isNeutral_of_identifierDraft

theorem shows_valueDraft (value : Value) : (dialect.valueDraft value).Shows dialect False :=
  shows_of_neutral fun _ => neutral.isNeutral_of_valueDraft

theorem shows_bitwiseDraft (operator : BitOperator) {left? : Option Draft} {right : Draft}
    (leftClosed : operator ≠ .invert → ∀ left ∈ left?, left.Closed dialect)
    (rightClosed : right.Closed dialect) :
    (dialect.bitwiseDraft operator left? right).Shows dialect False := by
  rcases neutral.exists_bitwiseDraft_eq operator leftClosed rightClosed with
    ⟨feature, same⟩ | ⟨inside, same, closed⟩
  · rw [same]
    exact shows_of_not_inlines fun _ => not_inlines_unsupported _ feature
  · rw [same]
    exact shows_parenthesized closed

theorem shows_tupleDraft {items : List Draft} (each : ∀ item ∈ items, item.Closed dialect) :
    (dialect.tupleDraft items).Shows dialect False := by
  unfold tupleDraft
  split
  · exact shows_ofText (neutral.word (some dialect.lexicon.emptyTuple) (by simp [ownWords]) _ rfl)
  · exact shows_parenthesized (closed_commaSeparated each)

theorem shows_excludedDraft (column : String) :
    (dialect.excludedDraft column).Shows dialect False :=
  shows_of_neutral fun _ => neutral.isNeutral_of_excludedDraft

theorem shows_nullsDraft (nulls : Option NullsPlacement) :
    (dialect.nullsDraft nulls).Shows dialect False :=
  shows_of_neutral fun _ => neutral.isNeutral_of_nullsDraft

theorem apart_of_nullsDraft {nulls : Option NullsPlacement} {text : List Char}
    (written : (dialect.nullsDraft nulls).Inlines dialect text) :
    ∀ character ∈ text.head?, isWordCharacter character = false := by
  have placed : ∀ {feature word}, word ∈ [dialect.keywords.nullsFirst, dialect.keywords.nullsLast] →
      (spelling dialect.name feature word).Inlines dialect text →
      ∀ character ∈ text.head?, isWordCharacter character = false := by
    intro feature word listed written
    cases word with
    | none => exact absurd written (not_inlines_unsupported _ feature)
    | some content =>
        obtain rfl := (inlines_ofText content).mp written
        exact neutral.nulls _ listed content rfl
  cases nulls with
  | none =>
      obtain rfl := inlines_nil.mp written
      simp
  | some placement =>
      cases placement with
      | first => exact placed (by simp) written
      | last => exact placed (by simp) written

variable {first second : Draft} {left right : Prop}

theorem shows_compared (operator : Comparison) (firstShown : first.Shows dialect left)
    (secondShown : second.Shows dialect right) :
    Shows dialect (first ++ dialect.comparisonSpelling operator ++ second) (left ∨ right) := by
  unfold NamedDialect.comparisonSpelling
  split
  · next text spelled =>
    exact firstShown.between text.toList (by simp) (neutral.comparison operator text spelled)
      secondShown
  · next unspelled =>
    refine shows_of_not_inlines fun text written => ?_
    obtain ⟨_, _, here, -, -⟩ := inlines_append.mp written
    obtain ⟨_, _, -, later, -⟩ := inlines_append.mp here
    exact not_inlines_unsupported _ _ later

theorem shows_booleanTest (negated truth : Bool) (firstShown : first.Shows dialect left) :
    Shows dialect (first ++ dialect.booleanTestDraft negated truth) left := by
  have text : (ofText (dialect.booleanText truth)).Shows dialect False :=
    shows_ofText (neutral.isNeutral_booleanText truth)
  have tested : ∀ operator {draft : Draft}, draft.Shows dialect False →
      Shows dialect (first ++ (dialect.comparisonSpelling operator ++ draft)) left := by
    intro operator draft shown
    rw [← List.append_assoc]
    exact (neutral.shows_compared operator firstShown shown).congr (or_iff_left id)
  unfold NamedDialect.booleanTestDraft
  simp only
  split
  · exact tested _ text
  · split
    · exact tested _ text
    · exact tested _ (neutral.shows_valueDraft (.boolean truth))

theorem shows_comparisonDraft (operator : Comparison) {truth : Option Bool}
    (firstShown : first.Shows dialect left) (secondShown : second.Shows dialect right)
    (literal : truth.isSome → ¬right) :
    (dialect.comparisonDraft operator first truth second).Shows dialect (left ∨ right) := by
  unfold NamedDialect.comparisonDraft
  split
  · exact (neutral.shows_booleanTest false _ firstShown).congr (or_iff_left (literal rfl)).symm
  · exact (neutral.shows_booleanTest true _ firstShown).congr (or_iff_left (literal rfl)).symm
  · exact neutral.shows_compared operator firstShown secondShown

theorem shows_ordered (direction : Direction) (nulls : Option NullsPlacement)
    (firstShown : first.Shows dialect left) :
    Shows dialect (first ++ ofText direction.text ++ dialect.nullsDraft nulls) left := by
  have word : (ofText direction.text).Shows dialect False := by
    cases direction <;> exact shows_ofText (isNeutral_word (by decide) (by decide))
  have directed : Shows dialect (first ++ ofText direction.text) (left ∨ False) := by
    refine firstShown.append word fun text written => ?_
    obtain rfl := (inlines_ofText _).mp written
    cases direction <;> simp [Direction.text, isWordCharacter]
  refine (directed.append (neutral.shows_nullsDraft nulls)
    fun text written => neutral.apart_of_nullsDraft written).congr ?_
  simp

end Dialect.Neutral

end SqlDialects
