import SqlDialects.Compile
import SqlDialects.Dialect.Bundled
import SqlDialects.Statement.Calls

/-!
Calls that build different parts of a statement commute, so a statement depends on the order of its
calls only within each family of calls. A call that names the table starts a statement anew and
belongs to no family.
-/

namespace SqlDialects

/-- What a call is about. One call of a family may replace or extend what another one left. -/
inductive CallFamily where
  | commonTables
  | columns
  | distinct
  | sources
  | joins
  | conditions
  | groups
  | groupConditions
  | windows
  | compounds
  | order
  | limit
  | offset
  | lock
  | values
  | conflict
  | assignments
  | furtherTables
  | returning
  | restart
  | scope
deriving DecidableEq

/-- How statements of one kind are built. Calls of different families do not disturb each other. -/
structure Builder where
  Part : Type
  Call : Type
  apply : Part → Call → Part
  statement : Part → Statement
  family? : Call → Option CallFamily
  apply_comm : ∀ (part : Part) {first second : Call} {family other : CallFamily},
    family? first = some family → family? second = some other → family ≠ other →
      apply (apply part first) second = apply (apply part second) first

namespace Builder

variable (builder : Builder)

def build (part : builder.Part) (calls : List builder.Call) : builder.Part :=
  calls.foldl builder.apply part

def callsOf (family : CallFamily) (calls : List builder.Call) : List builder.Call :=
  calls.filter fun call => builder.family? call = some family

/-- The same calls, and those of each family in the same order. -/
def Reordered (first second : List builder.Call) : Prop :=
  first.Perm second ∧ ∀ family, builder.callsOf family first = builder.callsOf family second

variable {builder}

theorem build_call_earlier {call : builder.Call} {family : CallFamily}
    (named : builder.family? call = some family) {earlier : List builder.Call}
    (apart : ∀ other ∈ earlier, ∃ kind, builder.family? other = some kind ∧ family ≠ kind)
    (part : builder.Part) (later : List builder.Call) :
    builder.build part (earlier ++ call :: later) =
      builder.build (builder.apply part call) (earlier ++ later) := by
  induction earlier generalizing part with
  | nil => rfl
  | cons other rest ih =>
      obtain ⟨kind, otherNamed, different⟩ := apart other (by simp)
      have moved := ih (fun next member => apart next (by simp [member]))
        (builder.apply part other)
      have swapped := builder.apply_comm part named otherNamed different
      calc builder.build part (other :: rest ++ call :: later)
          = builder.build (builder.apply part other) (rest ++ call :: later) := rfl
        _ = builder.build (builder.apply (builder.apply part other) call) (rest ++ later) := moved
        _ = builder.build (builder.apply part call) (other :: rest ++ later) := by
          rw [← swapped]
          rfl

theorem build_of_reordered {first second : List builder.Call}
    (reordered : builder.Reordered first second)
    (known : ∀ call ∈ first, (builder.family? call).isSome) (part : builder.Part) :
    builder.build part first = builder.build part second := by
  induction first generalizing second part with
  | nil => rw [reordered.1.nil_eq]
  | cons call rest ih =>
      obtain ⟨permuted, aligned⟩ := reordered
      obtain ⟨family, named⟩ := Option.isSome_iff_exists.mp (known call (by simp))
      have led : builder.callsOf family second = call :: builder.callsOf family rest := by
        rw [← aligned family]
        simp [callsOf, named]
      obtain ⟨earlier, later, rfl, apart, _, rest_eq⟩ := List.filter_eq_cons_iff.mp led
      have others : rest.Perm (earlier ++ later) := (permuted.trans List.perm_middle).cons_inv
      have otherwise : ∀ other ∈ earlier,
          ∃ kind, builder.family? other = some kind ∧ family ≠ kind := by
        intro other member
        have inside : other ∈ rest := others.mem_iff.mpr (by simp [member])
        obtain ⟨kind, found⟩ := Option.isSome_iff_exists.mp (known other (by simp [inside]))
        refine ⟨kind, found, ?_⟩
        rintro rfl
        simpa [found] using apart other member
      have left : builder.Reordered rest (earlier ++ later) := by
        refine ⟨others, fun kind => ?_⟩
        have whole := aligned kind
        by_cases same : kind = family
        · subst same
          have none : builder.callsOf kind earlier = [] := List.filter_eq_nil_iff.mpr apart
          simp only [callsOf] at none rest_eq ⊢
          rw [List.filter_append, none, rest_eq, List.nil_append]
        · have skipped : ¬builder.family? call = some kind := by
            rw [named, Option.some.injEq]
            exact Ne.symm same
          simpa [callsOf, List.filter_append, skipped] using whole
      have tail := ih left (fun other member => known other (by simp [member]))
        (builder.apply part call)
      rw [build_call_earlier named otherwise part later, ← tail]
      rfl

end Builder

namespace Select

def Call.family : Call → CallFamily
  | .columns _ | .column _ => .columns
  | .distinct | .distinctOn _ => .distinct
  | .source _ => .sources
  | .join .. | .joinUsing .. | .joinPlain .. => .joins
  | .condition _ => .conditions
  | .groupBy _ => .groups
  | .groupCondition _ => .groupConditions
  | .window _ => .windows
  | .compound .. => .compounds
  | .orderBy _ => .order
  | .limit _ => .limit
  | .offset _ => .offset
  | .lock .. | .lockWait _ => .lock
  | .commonTable .. | .recursiveTable .. => .commonTables

def builder : Builder where
  Part := Select
  Call := Call
  apply := apply
  statement := .select
  family? call := some call.family
  apply_comm := by
    intro query first second family other firstNamed secondNamed different
    cases firstNamed
    cases secondNamed
    cases first <;> cases second <;> first | exact absurd rfl different | rfl

end Select

namespace Insert

def Call.family? : Call → Option CallFamily
  | .into _ => none
  | .columns _ => some .columns
  | .values _ | .record _ | .records _ | .query _ | .defaultValues => some .values
  | .conflict _ => some .conflict
  | .returning _ => some .returning
  | .commonTable .. | .recursiveTable .. => some .commonTables

def builder : Builder where
  Part := Insert
  Call := Call
  apply := apply
  statement := .insert
  family? := Call.family?
  apply_comm := by
    intro insertion first second family other firstNamed secondNamed different
    cases first <;> cases firstNamed <;> cases second <;> cases secondNamed <;>
      first | exact absurd rfl different | rfl

end Insert

namespace Update

def Call.family? : Call → Option CallFamily
  | .table _ => none
  | .assignments _ | .assign .. => some .assignments
  | .furtherTables _ => some .furtherTables
  | .condition _ => some .conditions
  | .orderBy _ => some .order
  | .limit _ => some .limit
  | .returning _ => some .returning
  | .commonTable .. | .recursiveTable .. => some .commonTables

def builder : Builder where
  Part := Update
  Call := Call
  apply := apply
  statement := .update
  family? := Call.family?
  apply_comm := by
    intro change first second family other firstNamed secondNamed different
    cases first <;> cases firstNamed <;> cases second <;> cases secondNamed <;>
      first | exact absurd rfl different | rfl

end Update

namespace Delete

def Call.family? : Call → Option CallFamily
  | .table _ => none
  | .condition _ => some .conditions
  | .orderBy _ => some .order
  | .limit _ => some .limit
  | .returning _ => some .returning
  | .commonTable .. | .recursiveTable .. => some .commonTables

def builder : Builder where
  Part := Delete
  Call := Call
  apply := apply
  statement := .delete
  family? := Call.family?
  apply_comm := by
    intro deletion first second family other firstNamed secondNamed different
    cases first <;> cases firstNamed <;> cases second <;> cases secondNamed <;>
      first | exact absurd rfl different | rfl

end Delete

namespace Truncate

def Call.family? : Call → Option CallFamily
  | .tables _ => none
  | .restartIdentity => some .restart
  | .scope _ => some .scope

def builder : Builder where
  Part := Truncate
  Call := Call
  apply := apply
  statement := .truncate
  family? := Call.family?
  apply_comm := by
    intro emptying first second family other firstNamed secondNamed different
    cases first <;> cases firstNamed <;> cases second <;> cases secondNamed <;>
      first | exact absurd rfl different | rfl

end Truncate

def StatementKind.builder : StatementKind → Builder
  | .select => Select.builder
  | .insert => Insert.builder
  | .update => Update.builder
  | .delete => Delete.builder
  | .truncate => Truncate.builder

/-- Calls that keep their order within each family build the same statement, from any statement
on, and it compiles alike under every dialect. -/
theorem calls_of_families_commute (kind : StatementKind) (start : kind.builder.Part)
    {first second : List kind.builder.Call} (reordered : kind.builder.Reordered first second)
    (known : ∀ call ∈ first, (kind.builder.family? call).isSome) :
    kind.builder.build start first = kind.builder.build start second ∧
      ∀ name dialect mode,
        compile (kind.builder.statement (kind.builder.build start first)) name dialect mode =
          compile (kind.builder.statement (kind.builder.build start second)) name dialect mode := by
  have same := Builder.build_of_reordered reordered known start
  refine ⟨same, fun name dialect mode => ?_⟩
  rw [same]

def claimedJobs : List Select.Call :=
  [.source (.column "jobs"), .orderBy [.column "id"]]
    ++ [.lock .update .block, .condition (.isTrue (.column "ready")), .lockWait .skipLocked]

def lockedFirst : List Select.Call :=
  [.lock .update .block, .condition (.isTrue (.column "ready")), .lockWait .skipLocked]
    ++ [.source (.column "jobs"), .orderBy [.column "id"]]

theorem calls_of_families_commute_claimedJobs :
    Select.builder.Reordered claimedJobs lockedFirst ∧
    (∀ call ∈ claimedJobs, (Select.builder.family? call).isSome) ∧
    Select.ofCalls claimedJobs = Select.ofCalls lockedFirst ∧
    compile (.select (.ofCalls lockedFirst)) "postgres" .postgres .inline =
      .ok ⟨"SELECT * FROM \"jobs\" WHERE \"ready\" IS TRUE ORDER BY \"id\""
        ++ " FOR UPDATE SKIP LOCKED", []⟩ := by
  have reordered : Select.builder.Reordered claimedJobs lockedFirst := by
    refine ⟨List.perm_append_comm, fun family => ?_⟩
    cases family <;> rfl
  have known : ∀ call ∈ claimedJobs, (Select.builder.family? call).isSome := fun _ _ => rfl
  have commuted := calls_of_families_commute .select Select.empty reordered known
  exact ⟨reordered, known, commuted.1, (commuted.2 "postgres" .postgres .inline).symm.trans rfl⟩

end SqlDialects
