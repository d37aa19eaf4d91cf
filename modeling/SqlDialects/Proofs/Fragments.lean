import Mathlib.Data.List.Perm.Basic
import SqlDialects.Clause

/-!
Which fragments belong to a kind of statement, which clauses they write, and how the clauses that a
statement carries are dealt out to the fragments of an order.
-/

namespace SqlDialects

namespace Fragment

/-- The clauses that a fragment writes; there are none if it does not belong to the kind. -/
def clauses? : StatementKind → Fragment → Option (List Clause)
  | .select, .commonTables => some [.commonTables]
  | .select, .select => some [.columns]
  | .select, .selectWithLimit => some [.columns, .limit]
  | .select, .sources => some [.sources]
  | .select, .joins => some [.joins]
  | .select, .conditions => some [.conditions]
  | .select, .groups => some [.groups]
  | .select, .groupConditions => some [.groupConditions]
  | .select, .windows => some [.windows]
  | .select, .compounds => some [.compounds]
  | .select, .order => some [.order]
  | .select, .orderWithOffsetFetch => some [.order, .offset, .limit]
  | .select, .limit => some [.limit]
  | .select, .offset => some [.offset]
  | .select, .lock => some [.lock]
  | .insert, .commonTables => some [.commonTables]
  | .insert, .insertOpening => some [.opening]
  | .insert, .insertTable => some [.table]
  | .insert, .insertValues => some [.values]
  | .insert, .conflict => some [.conflict]
  | .insert, .returning => some [.returning]
  | .update, .commonTables => some [.commonTables]
  | .update, .updateOpening => some [.opening]
  | .update, .updateTables => some [.table, .furtherTables]
  | .update, .updateAssignments => some [.assignments]
  | .update, .updateSources => some [.furtherTables]
  | .update, .conditions => some [.conditions]
  | .update, .order => some [.order]
  | .update, .limit => some [.limit]
  | .update, .returning => some [.returning]
  | .delete, .commonTables => some [.commonTables]
  | .delete, .deleteOpening => some [.opening]
  | .delete, .sources => some [.table]
  | .delete, .conditions => some [.conditions]
  | .delete, .order => some [.order]
  | .delete, .limit => some [.limit]
  | .delete, .returning => some [.returning]
  | .truncate, .truncation => some [.truncation]
  | _, _ => none

def writes (kind : StatementKind) (fragment : Fragment) (clause : Clause) : Bool :=
  decide (clause ∈ (clauses? kind fragment).getD [])

def isFresh (kind : StatementKind) (earlier : List Fragment) (clause : Clause) : Bool :=
  !earlier.any fun fragment => fragment.writes kind clause

/-- Whether a fragment is able to write a clause where it stands. A limit is written beside the
columns if there is no offset, and behind the offset if there is one; further tables are written
where the dialect has them. The second clause of a fragment is only written with its first. -/
def isAble (kind : StatementKind) (carried : List Clause) (furtherTablesInFrom : Bool)
    (earlier : List Fragment) (fragment : Fragment) (clause : Clause) : Bool :=
  fragment.writes kind clause &&
    match fragment, clause with
    | .selectWithLimit, .limit => decide (.offset ∉ carried) && isFresh kind earlier .columns
    | .orderWithOffsetFetch, .limit => decide (.offset ∈ carried) && isFresh kind earlier .offset
    | .updateTables, .furtherTables => !furtherTablesInFrom && isFresh kind earlier .table
    | .updateSources, .furtherTables => furtherTablesInFrom
    | _, _ => true

/-- Deals out clauses: each goes to the first fragment that is able to write it. -/
def deal (able : List Fragment → Fragment → Clause → Bool) :
    List Fragment → List Fragment → List Clause → List (Fragment × List Clause)
  | _, [], _ => []
  | earlier, fragment :: rest, clauses =>
      (fragment, clauses.filter (able earlier fragment))
        :: deal able (earlier ++ [fragment]) rest
          (clauses.filter fun clause => !able earlier fragment clause)

theorem map_fst_deal (able : List Fragment → Fragment → Clause → Bool)
    (earlier order : List Fragment) (clauses : List Clause) :
    (deal able earlier order clauses).map Prod.fst = order := by
  induction order generalizing earlier clauses with
  | nil => rfl
  | cons fragment rest ih => simp [deal, ih]

theorem exists_able_of_mem_deal {able : List Fragment → Fragment → Clause → Bool}
    {earlier order : List Fragment} {clauses : List Clause} {clause : Clause}
    (dealt : clause ∈ (deal able earlier order clauses).flatMap Prod.snd) :
    ∃ before fragment after, order = before ++ fragment :: after ∧
      able (earlier ++ before) fragment clause := by
  induction order generalizing earlier clauses with
  | nil => simp [deal] at dealt
  | cons fragment rest ih =>
      simp only [deal, List.flatMap_cons, List.mem_append, List.mem_filter] at dealt
      rcases dealt with ⟨_, able⟩ | later
      · exact ⟨[], fragment, rest, rfl, by simpa using able⟩
      · obtain ⟨before, other, after, same, able⟩ := ih later
        refine ⟨fragment :: before, other, after, by simp [same], ?_⟩
        simpa using able

/-- An occurrence of a fragment is able to write a clause, and none before it is. -/
def IsFirst (able : List Fragment → Fragment → Clause → Bool) (before : List Fragment)
    (fragment : Fragment) (clause : Clause) : Prop :=
  able before fragment clause ∧
    ∀ earlier other between, before = earlier ++ other :: between →
      able earlier other clause = false

theorem isFirst_cons {able : List Fragment → Fragment → Clause → Bool}
    {earlier before : List Fragment} {head fragment : Fragment} {clause : Clause} :
    IsFirst (fun first => able (earlier ++ first)) (head :: before) fragment clause ↔
      able earlier head clause = false ∧
        IsFirst (fun first => able (earlier ++ [head] ++ first)) before fragment clause := by
  unfold IsFirst
  constructor
  · rintro ⟨here, unable⟩
    refine ⟨by simpa using unable [] head before rfl, by simpa using here, ?_⟩
    intro first other between same
    simpa using unable (head :: first) other between (by simp [same])
  · rintro ⟨headUnable, here, unable⟩
    refine ⟨by simpa using here, ?_⟩
    intro first other between same
    cases first with
    | nil =>
        obtain ⟨rfl, rfl⟩ := List.cons.inj same
        simpa using headUnable
    | cons second first =>
        obtain ⟨rfl, later⟩ := List.cons.inj same
        simpa using unable first other between later

theorem getElem?_deal (able : List Fragment → Fragment → Clause → Bool)
    (earlier before after : List Fragment) (fragment : Fragment) (clauses : List Clause) :
    ∃ share,
      (deal able earlier (before ++ fragment :: after) clauses)[before.length]? =
        some (fragment, share) ∧
      ∀ clause, clause ∈ share ↔ clause ∈ clauses ∧
        IsFirst (fun first => able (earlier ++ first)) before fragment clause := by
  induction before generalizing earlier clauses with
  | nil =>
      refine ⟨clauses.filter (able earlier fragment), by simp [deal], ?_⟩
      simp [IsFirst]
  | cons head before ih =>
      obtain ⟨share, dealt, members⟩ := ih (earlier ++ [head])
        (clauses.filter fun clause => !able earlier head clause)
      refine ⟨share, by simpa [deal] using dealt, ?_⟩
      intro clause
      rw [members, isFirst_cons, List.mem_filter, Bool.not_eq_true', and_assoc]

example :
    deal (isAble .select [.columns, .order, .limit, .offset] false) []
        [.selectWithLimit, .sources, .orderWithOffsetFetch] [.columns, .order, .limit, .offset] =
      [(.selectWithLimit, [.columns]), (.sources, []),
        (.orderWithOffsetFetch, [.order, .limit, .offset])] := by
  decide

/-- Clauses that come first in the fragments that write several. -/
def isLeader : Clause → Bool
  | .columns | .offset | .table => true
  | _ => false

theorem isAble_of_isLeader {clause : Clause} (leader : isLeader clause) (kind : StatementKind)
    (carried : List Clause) (furtherTablesInFrom : Bool) (earlier : List Fragment)
    (fragment : Fragment) :
    isAble kind carried furtherTablesInFrom earlier fragment clause =
      fragment.writes kind clause := by
  unfold isAble
  split <;> simp_all [isLeader]

theorem isFresh_append (kind : StatementKind) (earlier : List Fragment) (fragment : Fragment)
    (clause : Clause) :
    isFresh kind (earlier ++ [fragment]) clause =
      (isFresh kind earlier clause && !fragment.writes kind clause) := by
  simp [isFresh]

end Fragment

end SqlDialects
