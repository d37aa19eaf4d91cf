import SqlDialects.Dialect
import SqlDialects.Draft

/-!
Assembling a statement from fragments. The clauses that the statement carries are pending; each
fragment of the dialect's order writes and takes away the clauses it can write. A clause that is
still pending at the end is one that the dialect lacks, or cannot do without.
-/

namespace SqlDialects

/-- What a fragment writes, and the clauses that are pending after it. -/
structure Portion where
  draft : Draft
  pending : List Clause

namespace Portion

def nothing (pending : List Clause) : Portion :=
  ⟨[], pending⟩

def take (clause : Clause) (draft : Draft) (pending : List Clause) : Portion :=
  if clause ∈ pending then ⟨draft, pending.erase clause⟩ else nothing pending

end Portion

namespace Draft

def remainder (dialect : String) (kind : StatementKind) : List Clause → Draft
  | [] => []
  | clause :: _ =>
      if clause.isRequired then misconfigured dialect (.neverWritten clause kind)
      else unsupported dialect (.clause clause)

/-- Walks through an order of fragments; a fragment that belongs to another kind is a fault. -/
def assemble (dialect : String) (kind : StatementKind)
    (portion? : Fragment → List Clause → Option Portion) : List Fragment → List Clause → Draft
  | [], pending => remainder dialect kind pending
  | fragment :: rest, pending =>
      match portion? fragment pending with
      | some portion => portion.draft ++ assemble dialect kind portion? rest portion.pending
      | none => misconfigured dialect (.misplaced fragment kind)

end Draft

def carriedClauses (clauses : List (Clause × Bool)) : List Clause :=
  (clauses.filter Prod.snd).map Prod.fst

end SqlDialects
