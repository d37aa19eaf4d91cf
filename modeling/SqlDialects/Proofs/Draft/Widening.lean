import SqlDialects.Proofs.Draft.Supports

/-!
Dialects that differ by further features only: a wider dialect supports whatever the narrow one
does, and keeps its words.
-/

namespace SqlDialects

/-- A text that is there stays as it is; a missing one may be filled in. -/
def Keeps (narrow wide : Option String) : Prop :=
  narrow.isSome → wide = narrow

/-- Capabilities that are only added. `insertIgnore` is none of them: it chooses between two ways
of writing the same thing. -/
structure Capabilities.Within (narrow wide : Capabilities) : Prop where
  returning : narrow.returning → wide.returning
  onConflict : narrow.onConflict → wide.onConflict
  conflictTarget : narrow.conflictTarget → wide.conflictTarget
  conflictCondition : narrow.conflictCondition → wide.conflictCondition
  insertIgnore : wide.insertIgnore = narrow.insertIgnore
  commonTables : narrow.commonTables → wide.commonTables
  recursiveTables : narrow.recursiveTables → wide.recursiveTables
  distinctOn : narrow.distinctOn → wide.distinctOn
  windows : narrow.windows → wide.windows
  limitOnUpdate : narrow.limitOnUpdate → wide.limitOnUpdate
  orderOnUpdate : narrow.orderOnUpdate → wide.orderOnUpdate
  limitOnDelete : narrow.limitOnDelete → wide.limitOnDelete
  orderOnDelete : narrow.orderOnDelete → wide.orderOnDelete
  furtherTables : narrow.furtherTables → wide.furtherTables

namespace Dialect

/-- A dialect that differs from another one only by further features: capabilities, keywords and
operators that the other one lacks, and conflict updates without a target. -/
structure Widens (wide narrow : Dialect) : Prop where
  capabilities : narrow.capabilities.Within wide.capabilities
  conventions : wide.conventions =
    { narrow.conventions with
      conflictUpdateNeedsTarget := wide.conventions.conflictUpdateNeedsTarget }
  conflictUpdateNeedsTarget :
    wide.conventions.conflictUpdateNeedsTarget → narrow.conventions.conflictUpdateNeedsTarget
  lexicon : wide.lexicon = narrow.lexicon
  keywords : wide.keywords =
    { narrow.keywords with
      cascade := wide.keywords.cascade
      restrict := wide.keywords.restrict
      restartIdentity := wide.keywords.restartIdentity
      nullsFirst := wide.keywords.nullsFirst
      nullsLast := wide.keywords.nullsLast
      noWait := wide.keywords.noWait
      skipLocked := wide.keywords.skipLocked }
  cascade : Keeps narrow.keywords.cascade wide.keywords.cascade
  restrict : Keeps narrow.keywords.restrict wide.keywords.restrict
  restartIdentity : Keeps narrow.keywords.restartIdentity wide.keywords.restartIdentity
  nullsFirst : Keeps narrow.keywords.nullsFirst wide.keywords.nullsFirst
  nullsLast : Keeps narrow.keywords.nullsLast wide.keywords.nullsLast
  noWait : Keeps narrow.keywords.noWait wide.keywords.noWait
  skipLocked : Keeps narrow.keywords.skipLocked wide.keywords.skipLocked
  comparison : ∀ operator,
    Keeps (narrow.operators.comparison operator) (wide.operators.comparison operator)
  bitwise : ∀ operator,
    Keeps (narrow.operators.bitwise operator) (wide.operators.bitwise operator)
  join : ∀ kind, Keeps (narrow.operators.join kind) (wide.operators.join kind)
  compound : ∀ kind, Keeps (narrow.operators.compound kind) (wide.operators.compound kind)
  lock : ∀ strength, Keeps (narrow.operators.lock strength) (wide.operators.lock strength)
  orders : wide.orders = narrow.orders

abbrev withInsertKeyword (dialect : Dialect) (keyword : String) : Dialect :=
  { dialect with keywords.insert := keyword }

end Dialect

theorem Keeps.isSome {narrow wide : Option String} (keeps : Keeps narrow wide)
    (given : narrow.isSome) : wide.isSome := by
  rw [keeps given]
  exact given

theorem Capabilities.Within.refl (capabilities : Capabilities) :
    capabilities.Within capabilities := by
  constructor <;> first | exact id | rfl

theorem Dialect.Widens.refl (dialect : Dialect) : dialect.Widens dialect := by
  constructor <;> first | exact .refl _ | exact id | rfl | exact fun _ => rfl | exact fun _ _ => rfl

theorem Dialect.Widens.supports {wide narrow : Dialect} (widens : wide.Widens narrow)
    (feature : Feature) (supported : narrow.supports feature) : wide.supports feature := by
  have capabilities := widens.capabilities
  cases feature with
  | comparison operator => exact (widens.comparison operator).isSome supported
  | bitwise operator => exact (widens.bitwise operator).isSome supported
  | join kind => exact (widens.join kind).isSome supported
  | compound kind => exact (widens.compound kind).isSome supported
  | lock strength => exact (widens.lock strength).isSome supported
  | clause clause =>
      cases clause <;>
        first
          | rfl
          | exact capabilities.commonTables supported
          | exact capabilities.windows supported
          | exact capabilities.onConflict supported
          | exact capabilities.returning supported
          | exact capabilities.furtherTables supported
  | recursiveTables => exact capabilities.recursiveTables supported
  | distinctOn => exact capabilities.distinctOn supported
  | windowFunctions => exact capabilities.windows supported
  | conflictTarget => exact capabilities.conflictTarget supported
  | conflictCondition => exact capabilities.conflictCondition supported
  | orderOnUpdate => exact capabilities.orderOnUpdate supported
  | limitOnUpdate => exact capabilities.limitOnUpdate supported
  | orderOnDelete => exact capabilities.orderOnDelete supported
  | limitOnDelete => exact capabilities.limitOnDelete supported
  | restartIdentity => exact widens.restartIdentity.isSome supported
  | cascade => exact widens.cascade.isSome supported
  | restrict => exact widens.restrict.isSome supported
  | nullsFirst => exact widens.nullsFirst.isSome supported
  | nullsLast => exact widens.nullsLast.isSome supported
  | noWait => exact widens.noWait.isSome supported
  | skipLocked => exact widens.skipLocked.isSome supported

end SqlDialects
