import SqlDialects.Dialect.Sqlite
import SqlDialects.Expr.Builder
import SqlDialects.Proofs.Outcome
import SqlDialects.Proofs.Related
import SqlDialects.Proofs.Written

/-!
Features as gates. What compiles under a dialect compiles to the same under every dialect that only
has more features, since a feature is asked for where it is used and nothing else depends on it.
-/

namespace SqlDialects

open Draft

/-- The second draft is the first one, if that has no fault. -/
def Draft.Kept (narrow wide : Draft) : Prop :=
  narrow.Clean → wide = narrow

theorem Draft.congruent_kept : Congruent True Kept where
  nil := fun _ => rfl
  append := by
    intro left right left' right' same same' clean
    obtain ⟨leftClean, leftClean'⟩ := (clean_append _ _).mp clean
    rw [same leftClean, same' leftClean']
  word := fun same _ => by rw [same trivial]
  rowCount := fun _ _ => rfl
  invalid := fun _ _ => rfl

theorem Draft.kept_unsupported {narrow wide : String} (feature : Feature) :
    (unsupported narrow feature).Kept (unsupported wide feature) :=
  fun clean => absurd clean (not_clean_unsupported narrow feature)

theorem Draft.kept_misconfigured {narrow wide : String} (cause : Misconfiguration) :
    (misconfigured narrow cause).Kept (misconfigured wide cause) :=
  fun clean => absurd clean (not_clean_misconfigured narrow cause)

namespace Dialect.Widens

variable {narrow wide : NamedDialect} (widens : wide.Widens narrow)

include widens

theorem relatesWords : narrow.RelatesWords True wide Kept where
  toCongruent := congruent_kept
  unsupported := fun _ _ _ _ clean => absurd clean (not_clean_unsupported _ _)
  supports := widens.supports
  widens := by
    intro _
    have keyword : wide.keywords.insert = narrow.keywords.insert := by
      rw [widens.keywords]
    rw [keyword]
    exact widens

theorem kept_booleanTestDraft (negated truth : Bool) :
    (narrow.booleanTestDraft negated truth).Kept (wide.booleanTestDraft negated truth) := by
  have text : wide.booleanText truth = narrow.booleanText truth := by
    rw [booleanText, booleanText, widens.lexicon]
  have booleanType : wide.conventions.booleanType = narrow.conventions.booleanType := by
    rw [widens.conventions]
  have plain : wide.conventions.plainBooleanTests = narrow.conventions.plainBooleanTests := by
    rw [widens.conventions]
  have spelled := widens.relatesWords.related_comparisonSpelling
  simp only [NamedDialect.booleanTestDraft, text, booleanType, plain]
  split
  · exact congruent_kept.append (spelled _) fun _ => rfl
  · split
    · exact congruent_kept.append (spelled _) fun _ => rfl
    · exact congruent_kept.append (spelled _) fun _ => rfl

theorem kept_skippedConflict :
    (narrow.conflictDraft ⟨[], .nothing⟩).Kept (wide.conflictDraft ⟨[], .nothing⟩) := by
  intro clean
  have capable : narrow.capabilities.onConflict = true := by
    simp only [NamedDialect.conflictDraft, NamedDialect.conflictFaults, clean_append,
      clean_demand] at clean
    exact clean.1.1.1.1
  have wideCapable := widens.capabilities.onConflict capable
  have ignore := widens.capabilities.insertIgnore
  have onConflict : wide.keywords.onConflict = narrow.keywords.onConflict := by
    rw [widens.keywords]
  have doNothing : wide.keywords.doNothing = narrow.keywords.doNothing := by
    rw [widens.keywords]
  simp [NamedDialect.conflictDraft, NamedDialect.conflictFaults, ignoresConflict,
    NamedDialect.conflictActionDraft, demand, capable, wideCapable, ignore, onConflict, doNothing]

theorem relates : narrow.Relates True wide Kept where
  toRelatesWords := widens.relatesWords
  booleanTest := widens.kept_booleanTestDraft
  parentheses := by
    intro left right same clean
    rw [widens.conventions, same ((clean_parenthesizedIf _ _).mp clean)]
  missingTarget := by
    intro clean
    cases needed : narrow.conventions.conflictUpdateNeedsTarget with
    | true => simp [needed] at clean
    | false =>
        have free : wide.conventions.conflictUpdateNeedsTarget = false := by
          rw [Bool.eq_false_iff]
          intro still
          rw [widens.conflictUpdateNeedsTarget still] at needed
          cases needed
        rw [free]
  skippedConflict := widens.kept_skippedConflict
  select := by
    intro query left right _ parts
    rw [widens.orders]
    exact congruent_kept.related_select kept_misconfigured kept_unsupported parts _

/-- The keyword that opens an insertion is settled by the conflict clause, which is asked for as a
feature of its own. -/
theorem openingDraft_eq {insertion : Insert} (clean : (insertion.draft narrow).Clean) :
    insertion.openingDraft wide = insertion.openingDraft narrow := by
  have ignores : wide.ignoresConflict insertion.conflict =
      narrow.ignoresConflict insertion.conflict := by
    cases given : insertion.conflict with
    | none => rfl
    | some conflict =>
        have capable : narrow.capabilities.onConflict = true := by
          have asked := (Insert.drafted clean).conflict conflict given
          simp only [NamedDialect.conflictDraft, NamedDialect.conflictFaults, clean_append,
            clean_demand] at asked
          exact asked.1.1.1.1
        obtain ⟨target, action⟩ := conflict
        cases target <;> cases action <;>
          simp [ignoresConflict, capable, widens.capabilities.onConflict capable,
            widens.capabilities.insertIgnore]
  unfold Insert.openingDraft
  rw [ignores, widens.keywords]

theorem draft_eq {statement : Statement} (clean : (statement.draft narrow).Clean) :
    statement.draft wide = statement.draft narrow := by
  refine statement.draft_related widens.relates (fun _ _ _ => rfl) kept_misconfigured
    kept_unsupported widens.orders ?_ ?_ clean
  · rw [widens.conventions]
  · rintro insertion rfl
    exact fun _ => widens.openingDraft_eq clean

end Dialect.Widens

/-- Whatever compiles under a dialect compiles under every wider one, in the same mode to the same
text and with the same arguments. -/
theorem compile_under_wider {narrow wide : Dialect} (widens : wide.Widens narrow)
    (statement : Statement) (name : String) (mode : Mode) {compiled : Compiled}
    (done : compile statement name narrow mode = .ok compiled) :
    compile statement name wide mode = .ok compiled := by
  have drafts : statement.draft ⟨wide, name⟩ = statement.draft ⟨narrow, name⟩ :=
    Dialect.Widens.draft_eq widens (clean_of_compile_eq_ok done)
  have values : mode.writeValue ⟨wide, name⟩ = mode.writeValue ⟨narrow, name⟩ :=
    mode.writeValue_of_lexicon widens.lexicon rfl (by rw [widens.conventions])
  rw [compile, drafts, values]
  exact done

def Dialect.lenientSqlite : Dialect :=
  { sqlite with
    capabilities := { sqlite.capabilities with conflictCondition := true, distinctOn := true }
    conventions := { sqlite.conventions with conflictUpdateNeedsTarget := false }
    keywords := { sqlite.keywords with cascade := some " CASCADE", noWait := some " NOWAIT" }
    operators := { sqlite.operators with lock := standard.operators.lock } }

theorem compile_under_wider_lenientSqlite :
    Dialect.lenientSqlite.Widens .sqlite ∧
    compile (.insert
        { Insert.empty with table := some (.column "jobs"), conflict := some ⟨[], .nothing⟩ })
      "sqlite" .lenientSqlite .inline =
        .ok ⟨"INSERT OR IGNORE INTO \"jobs\" DEFAULT VALUES", []⟩ := by
  have widens : Dialect.lenientSqlite.Widens .sqlite :=
    { capabilities := by constructor <;> decide
      conventions := rfl
      conflictUpdateNeedsTarget := by decide
      lexicon := rfl
      keywords := rfl
      cascade := by simp [Keeps, Dialect.sqlite]
      restrict := fun _ => rfl
      restartIdentity := fun _ => rfl
      nullsFirst := fun _ => rfl
      nullsLast := fun _ => rfl
      noWait := by simp [Keeps, Dialect.sqlite]
      skipLocked := fun _ => rfl
      comparison := fun _ _ => rfl
      bitwise := fun _ _ => rfl
      join := fun _ _ => rfl
      compound := fun _ _ => rfl
      lock := by simp [Keeps, Dialect.sqlite]
      orders := rfl }
  exact ⟨widens, compile_under_wider widens _ "sqlite" .inline rfl⟩

end SqlDialects
