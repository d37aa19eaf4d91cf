import Mathlib.Data.List.Lex
import SqlDialects.Proofs.Tables
import SqlDialects.Registry

/-!
What a registry remembers of any run of calls: of each name the latest registration, where the
standard dialect counts as registered before the first call. The other calls only read.
-/

namespace SqlDialects

inductive Registry.Call where
  | register (name : String) (dialect : Dialect)
  | registerAllBundled
  | lookup (name : String)
  | names
  | compile (statement : Statement) (name : String) (mode : Mode)

inductive Registry.Answer where
  | done
  | found (result : Except Failure Dialect)
  | names (names : List String)
  | compiled (result : Except Failure Compiled)

namespace Registry

def step (registry : Registry) : Call → Registry × Answer
  | .register name dialect => (registry.register name dialect, .done)
  | .registerAllBundled => (registry.registerAllBundled, .done)
  | .lookup name => (registry, .found (registry.lookup name))
  | .names => (registry, .names registry.names)
  | .compile statement name mode => (registry, .compiled (registry.compile statement name mode))

def run (registry : Registry) : List Call → Registry × List Answer
  | [] => (registry, [])
  | call :: rest =>
      let (next, answer) := registry.step call
      let (last, answers) := next.run rest
      (last, answer :: answers)

def after (registry : Registry) (calls : List Call) : Registry :=
  (registry.run calls).1

def answers (registry : Registry) (calls : List Call) : List Answer :=
  (registry.run calls).2

/-- The registrations that a call makes, in their order. -/
def Call.registrations : Call → List (String × Dialect)
  | .register name dialect => [(name, dialect)]
  | .registerAllBundled =>
      [BundledDialect.postgres, .mySql, .sqlite, .sqlServer].map fun bundled =>
        (bundled.name, bundled.dialect)
  | .lookup _ | .names | .compile .. => []

def Call.onlyReads : Call → Bool
  | .lookup _ | .names | .compile .. => true
  | .register .. | .registerAllBundled => false

/-- The registrations of a run, of which the first one is there before any call. -/
def history (calls : List Call) : List (String × Dialect) :=
  (BundledDialect.standard.name, .standard) :: calls.flatMap Call.registrations

/-- What a registry knows of a list of registrations: of each name the latest one. -/
structure Remembers (registry : Registry) (history : List (String × Dialect)) : Prop where
  known : ∀ name dialect,
    registry.lookup name = .ok dialect ↔ Table.IsLatest history name dialect
  unknown : ∀ name failure, registry.lookup name = .error failure ↔
    failure = .unknownDialect name ∧ name ∉ history.map Prod.fst
  listed : ∀ name, name ∈ registry.names ↔ name ∈ history.map Prod.fst
  ascending : registry.names.Pairwise fun earlier later =>
    earlier.toList.map Char.toNat < later.toList.map Char.toNat
  compiled : ∀ statement name mode dialect, Table.IsLatest history name dialect →
    registry.compile statement name mode = SqlDialects.compile statement name dialect mode
  uncompiled : ∀ statement name mode, name ∉ history.map Prod.fst →
    registry.compile statement name mode = .error (.unknownDialect name)

section Runs

variable (registry : Registry)

theorem after_append (first second : List Call) :
    registry.after (first ++ second) = (registry.after first).after second := by
  induction first generalizing registry with
  | nil => rfl
  | cons call rest ih => exact ih (registry.step call).1

theorem answers_append (first second : List Call) :
    registry.answers (first ++ second) =
      registry.answers first ++ (registry.after first).answers second := by
  induction first generalizing registry with
  | nil => rfl
  | cons call rest ih => exact congrArg _ (ih (registry.step call).1)

theorem length_answers (calls : List Call) : (registry.answers calls).length = calls.length := by
  induction calls generalizing registry with
  | nil => rfl
  | cons call rest ih => exact congrArg (· + 1) (ih (registry.step call).1)

theorem step_eq (call : Call) :
    (registry.step call).1 =
      call.registrations.foldl (fun known entry => known.insert entry.1 entry.2) registry := by
  cases call <;> rfl

theorem after_eq (calls : List Call) :
    registry.after calls =
      (calls.flatMap Call.registrations).foldl (fun known entry => known.insert entry.1 entry.2)
        registry := by
  induction calls generalizing registry with
  | nil => rfl
  | cons call rest ih =>
      rw [List.flatMap_cons, List.foldl_append, ← step_eq]
      exact ih (registry.step call).1

theorem initial_after (calls : List Call) : initial.after calls = Table.ofList (history calls) :=
  after_eq initial calls

end Runs

/-- A call that changes nothing where it stands leaves no trace in the run but its answer. -/
theorem run_insert_idle (registry : Registry) (earlier : List Call) {call : Call}
    (idle : ((registry.after earlier).step call).1 = registry.after earlier) (later : List Call) :
    registry.after (earlier ++ call :: later) = registry.after (earlier ++ later) ∧
      (registry.answers (earlier ++ call :: later)).eraseIdx earlier.length =
        registry.answers (earlier ++ later) := by
  constructor
  · rw [after_append, after_append]
    exact congrArg (after · later) idle
  · have told : (registry.after earlier).answers (call :: later) =
        ((registry.after earlier).step call).2 :: (registry.after earlier).answers later :=
      congrArg (_ :: answers · later) idle
    rw [answers_append, answers_append, told]
    simp [List.eraseIdx_append_of_length_le, length_answers]

theorem code_points_ascend {first second : String} (before : compare first second = .lt) :
    first.toList.map Char.toNat < second.toList.map Char.toNat := by
  have below := compareOfLessAndEq_eq_lt.mp before
  rw [String.lt_iff] at below
  exact List.map_lt (fun _ _ smaller => smaller) below

theorem remembers_ofList (history : List (String × Dialect)) :
    Remembers (Table.ofList history) history where
  known name dialect := by
    rw [← Table.find?_ofList_eq_some_iff, lookup]
    cases (Table.ofList history).find? name <;> simp
  unknown name failure := by
    rw [← Table.isSome_find?_ofList_iff, lookup]
    cases (Table.ofList history).find? name <;> simp [eq_comm]
  listed name := by rw [names, Table.mem_keys_iff, Table.isSome_find?_ofList_iff]
  ascending := by
    rw [names, Table.keys, List.pairwise_map]
    exact (Table.ofList history).increasing.imp code_points_ascend
  compiled statement name mode dialect latest := by
    rw [← Table.find?_ofList_eq_some_iff] at latest
    simp [compile, lookup, latest, Except.bind]
  uncompiled statement name mode unregistered := by
    rw [← Table.isSome_find?_ofList_iff, Option.not_isSome_iff_eq_none] at unregistered
    simp [compile, lookup, unregistered, Except.bind]

theorem registerAllBundled_twice (registry : Registry) :
    registry.registerAllBundled.registerAllBundled = registry.registerAllBundled := by
  apply Table.ext_find?
  intro name
  simp only [registerAllBundled, registerBundled, register, List.foldl, Table.find?_insert]
  split <;> simp_all

theorem find?_registerAllBundled (registry : Registry) {bundled : BundledDialect}
    (extra : bundled ≠ .standard) :
    registry.registerAllBundled.find? bundled.name = some bundled.dialect := by
  cases bundled with
  | standard => exact absurd rfl extra
  | mySql | postgres | sqlite | sqlServer =>
      simp [registerAllBundled, registerBundled, register, Table.find?_insert, BundledDialect.name]

theorem find?_step_bundled {registry : Registry} {bundled : BundledDialect}
    (known : registry.find? bundled.name = some bundled.dialect) {call : Call}
    (kept : ∀ dialect, call ≠ .register bundled.name dialect) :
    (registry.step call).1.find? bundled.name = some bundled.dialect := by
  cases call with
  | register name dialect =>
      have different : bundled.name ≠ name := by
        rintro rfl
        exact kept dialect rfl
      rw [step, register, Table.find?_insert_of_ne _ different, known]
  | registerAllBundled =>
      by_cases base : bundled = .standard
      · subst base
        simpa [step, registerAllBundled, registerBundled, register, Table.find?_insert,
          BundledDialect.name] using known
      · exact registry.find?_registerAllBundled base
  | lookup | names | compile => exact known

theorem find?_after_bundled {registry : Registry} {bundled : BundledDialect}
    (known : registry.find? bundled.name = some bundled.dialect) {calls : List Call}
    (kept : ∀ dialect, .register bundled.name dialect ∉ calls) :
    (registry.after calls).find? bundled.name = some bundled.dialect := by
  induction calls generalizing registry with
  | nil => exact known
  | cons call rest ih =>
      have stepped := find?_step_bundled known fun dialect same =>
        kept dialect (List.mem_cons.mpr (.inl same.symm))
      exact ih stepped fun dialect member => kept dialect (List.mem_cons_of_mem call member)

theorem lookup_eq_ok_iff (registry : Registry) {name : String} {dialect : Dialect} :
    registry.lookup name = .ok dialect ↔ registry.find? name = some dialect := by
  rw [lookup]
  cases registry.find? name <;> simp

/-- After any run a registry remembers of each name the latest registration: a bundled dialect since
the bundled ones were last registered, unless its name was registered again, and likewise the
standard one from the start. Every call is answered from what is remembered where it stands; calls
that only read, and registering the bundled dialects a second time, leave no other trace. -/
theorem registry_remembers_latest (earlier later : List Call) :
    (initial.after earlier).Remembers (history earlier) ∧
    "default" ∈ (initial.after earlier).names ∧
    ((∀ dialect, .register "default" dialect ∉ earlier) →
      (initial.after earlier).lookup "default" = .ok .standard) ∧
    (∀ bundled : BundledDialect, bundled ≠ .standard →
      (∀ dialect, .register bundled.name dialect ∉ later) →
        (initial.after (earlier ++ .registerAllBundled :: later)).lookup bundled.name =
          .ok bundled.dialect) ∧
    (∀ call, (initial.answers (earlier ++ call :: later))[earlier.length]? =
      some ((initial.after earlier).step call).2) ∧
    (∀ call, call.onlyReads →
      initial.after (earlier ++ call :: later) = initial.after (earlier ++ later) ∧
      (initial.answers (earlier ++ call :: later)).eraseIdx earlier.length =
        initial.answers (earlier ++ later)) ∧
    initial.after (earlier ++ .registerAllBundled :: .registerAllBundled :: later) =
      initial.after (earlier ++ .registerAllBundled :: later) ∧
    (initial.answers
      (earlier ++ .registerAllBundled :: .registerAllBundled :: later)).eraseIdx
        (earlier.length + 1) = initial.answers (earlier ++ .registerAllBundled :: later) := by
  have remembers : (initial.after earlier).Remembers (history earlier) := by
    rw [initial_after]
    exact remembers_ofList (history earlier)
  refine ⟨remembers, ?_, ?_, ?_, ?_, ?_, ?_⟩
  · exact (remembers.listed "default").mpr (by simp [history, BundledDialect.name])
  · intro kept
    have first : initial.find? BundledDialect.standard.name =
        some BundledDialect.standard.dialect := Table.find?_insert_self ..
    exact (lookup_eq_ok_iff _).mpr (find?_after_bundled first kept)
  · intro bundled extra kept
    rw [lookup_eq_ok_iff, after_append]
    exact find?_after_bundled ((initial.after earlier).find?_registerAllBundled extra) kept
  · intro call
    rw [answers_append, List.getElem?_append_right (by rw [length_answers]), length_answers]
    simp [answers, run]
  · intro call reads
    apply run_insert_idle
    cases call with
    | lookup | names | compile => rfl
    | register | registerAllBundled => cases reads
  · have idle : ((initial.after (earlier ++ [.registerAllBundled])).step .registerAllBundled).1 =
        initial.after (earlier ++ [.registerAllBundled]) := by
      rw [after_append]
      exact registerAllBundled_twice (initial.after earlier)
    have traceless := run_insert_idle initial (earlier ++ [.registerAllBundled]) idle later
    rwa [List.length_append, List.length_singleton, List.append_assoc, List.append_assoc]
      at traceless

/-- A bundled dialect comes back over what was registered in its place. -/
theorem registry_remembers_latest_overridden :
    (initial.after [.registerAllBundled, .register "postgres" .sqlite]).lookup "postgres" =
      .ok .sqlite ∧
    (initial.after
      [.registerAllBundled, .register "postgres" .sqlite, .registerAllBundled]).lookup "postgres" =
        .ok .postgres := by
  obtain ⟨remembers, _, _, restored, _⟩ :=
    registry_remembers_latest [.registerAllBundled, .register "postgres" .sqlite] []
  constructor
  · exact (remembers.known "postgres" .sqlite).mpr ⟨history [.registerAllBundled], [], rfl, by simp⟩
  · exact restored .postgres (by decide) (by simp)

end Registry

end SqlDialects
