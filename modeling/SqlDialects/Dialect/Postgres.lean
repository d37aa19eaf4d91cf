import SqlDialects.Dialect.Standard

/-!
The PostgreSQL dialect: numbered placeholders, a target for every conflict update, and no order or
limit on updates and deletions.
-/

namespace SqlDialects

namespace Dialect

def postgres : Dialect :=
  { standard with
    capabilities :=
      { standard.capabilities with
        limitOnUpdate := false
        orderOnUpdate := false
        limitOnDelete := false
        orderOnDelete := false }
    conventions :=
      { standard.conventions with
        conflictUpdateNeedsTarget := true
        numberedPlaceholders := true }
    lexicon :=
      { standard.lexicon with
        placeholder := "$"
        blobOpening := "'\\x" } }

end Dialect

end SqlDialects
