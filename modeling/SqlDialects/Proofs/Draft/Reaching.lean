import SqlDialects.Proofs.Draft.Kinds
import SqlDialects.Proofs.Outcome

/-!
Faults and what stands ahead of them. Writing a draft comes to a fault only if all that is ahead of
it can be written. Of a statement, the clauses that the order of the dialect has first are ahead of
a clause, and an order that never comes to the clause ends in a fault of its own.
-/

namespace SqlDialects

open Draft

namespace Draft

/-- The draft fails as what is ahead of the fault does, or else by the fault. -/
def FailsBehind (draft ahead : Draft) (fault : Failure) : Prop :=
  ∀ (writeValue : Nat → Value → Except Failure Compiled) (count : Nat),
    draft.write writeValue count = (ahead.write writeValue count).bind fun _ => .error fault

variable {draft ahead : Draft} {fault : Failure}

theorem failsBehind_invalid (defect : Defect) :
    (invalid defect).FailsBehind [] (.invalid defect) :=
  fun _ _ => rfl

theorem failsBehind_fault (cause : Failure) (rest behind : Draft) (fault : Failure) :
    FailsBehind (.fault cause :: rest) (.fault cause :: behind) fault :=
  fun _ _ => rfl

theorem FailsBehind.append (failing : draft.FailsBehind ahead fault) (rest : Draft) :
    (draft ++ rest).FailsBehind ahead fault := by
  intro writeValue count
  rw [write_append, failing writeValue count]
  cases ahead.write writeValue count <;> rfl

theorem FailsBehind.behind (failing : draft.FailsBehind ahead fault) (first : Draft) :
    (first ++ draft).FailsBehind (first ++ ahead) fault := by
  intro writeValue count
  rw [write_append, write_append]
  cases first.write writeValue count with
  | error _ => rfl
  | ok written =>
      simp only [Except.bind, failing writeValue]
      cases ahead.write writeValue (count + first.values.length) <;> rfl

/-- What is written before an order comes to a clause. An order that never does ends in a fault. -/
def leadingTo (dialect : String) (kind : StatementKind)
    (portion? : Fragment → List Clause → Option Portion) (clause : Clause) :
    List Fragment → List Clause → Draft
  | [], pending => remainder dialect kind pending
  | fragment :: rest, pending =>
      match portion? fragment pending with
      | none => misconfigured dialect (.misplaced fragment kind)
      | some portion =>
          if clause ∈ portion.pending then
            portion.draft ++ leadingTo dialect kind portion? clause rest portion.pending
          else []

/-- The fragments that take a clause write it first. -/
def StartsWith (portion? : Fragment → List Clause → Option Portion) (clause : Clause)
    (clauseDraft : Draft) : Prop :=
  ∀ {fragment pending portion}, portion? fragment pending = some portion → clause ∈ pending →
    clause ∉ portion.pending → ∃ rest, portion.draft = clauseDraft ++ rest

theorem failsBehind_leadingTo {name : String} {kind : StatementKind}
    {portion? : Fragment → List Clause → Option Portion} {clause : Clause} {clauseDraft : Draft}
    (starts : StartsWith portion? clause clauseDraft)
    (failing : clauseDraft.FailsBehind ahead fault) {order : List Fragment}
    {pending : List Clause} (member : clause ∈ pending) :
    (assemble name kind portion? order pending).FailsBehind
      (leadingTo name kind portion? clause order pending ++ ahead) fault := by
  fun_induction leadingTo name kind portion? clause order pending with
  | case1 pending =>
      obtain ⟨first, rest, rfl⟩ := List.exists_cons_of_ne_nil (List.ne_nil_of_mem member)
      rw [assemble, remainder]
      split <;> exact failsBehind_fault _ _ _ _
  | case2 fragment rest pending foreign =>
      rw [assemble, foreign]
      exact failsBehind_fault _ _ _ _
  | case3 fragment rest pending portion found left ih =>
      rw [assemble, found, List.append_assoc]
      exact (ih left).behind portion.draft
  | case4 fragment rest pending portion found taken =>
      obtain ⟨others, drafted⟩ := starts found member taken
      rw [assemble, found]
      simp only [drafted, List.append_assoc]
      exact failing.append _

end Draft

theorem Portion.exists_rest_of_take {clause taken : Clause} {draft : Draft}
    {pending : List Clause} (member : clause ∈ pending)
    (gone : clause ∉ (take taken draft pending).pending) :
    taken = clause ∧ ∃ rest, (take taken draft pending).draft = draft ++ rest := by
  by_cases inside : taken ∈ pending
  · simp only [take, inside, if_true] at gone ⊢
    refine ⟨?_, [], (List.append_nil draft).symm⟩
    by_contra different
    exact gone ((List.mem_erase_of_ne (Ne.symm different)).mpr member)
  · simp [take, inside, nothing, member] at gone

theorem Insert.startsWith (insertion : Insert) (dialect : NamedDialect) (table : Expr)
    (clause : Clause) :
    StartsWith (insertion.portion? dialect table) clause
      (insertion.clauseDraft dialect table clause) := by
  intro fragment pending portion found member gone
  unfold portion? at found
  split at found <;> cases found
  all_goals
    obtain ⟨rfl, starts⟩ := Portion.exists_rest_of_take member gone
    exact starts

theorem Update.startsWith_assignments (change : Update) (dialect : NamedDialect) (table : Expr) :
    StartsWith (change.portion? dialect table) .assignments (change.assignmentsDraft dialect) := by
  intro fragment pending portion found member gone
  unfold portion? at found
  split at found <;> cases found
  case h_3 =>
    have kept : .assignments ∈ (change.tables dialect table pending).pending := by
      simp only [tables]
      split
      · split <;> simp [member]
      · exact member
    exact absurd kept gone
  case h_5 =>
    split at gone
    · cases (Portion.exists_rest_of_take member gone).1
    · exact absurd member gone
  all_goals
    obtain ⟨same, starts⟩ := Portion.exists_rest_of_take member gone
    first | exact starts | cases same

namespace Statement

def leading (statement : Statement) (dialect : NamedDialect) (clause : Clause) : Draft :=
  if statement.hasTable then
    leadingTo dialect.name statement.kind (statement.portion? dialect) clause
      (dialect.order statement.kind) statement.carried
  else invalid (.missingTable statement.kind)

theorem failsBehind_leading {statement : Statement} {dialect : NamedDialect} {clause : Clause}
    {ahead : Draft} {fault : Failure} (carried : clause ∈ statement.carried)
    (inside : statement.hasTable → ∃ clauseDraft : Draft,
      StartsWith (statement.portion? dialect) clause clauseDraft ∧
      clauseDraft.FailsBehind ahead fault) :
    (statement.draft dialect).FailsBehind (statement.leading dialect clause ++ ahead) fault := by
  cases named : statement.hasTable with
  | false =>
      rw [draft_of_no_table dialect named, leading, named]
      exact failsBehind_fault _ _ _ _
  | true =>
      obtain ⟨clauseDraft, starts, failing⟩ := inside named
      rw [draft_eq_assemble dialect named, leading, named]
      exact failsBehind_leadingTo starts failing carried

end Statement

theorem compile_of_failsBehind {statement : Statement} {name : String} {dialect : Dialect}
    {ahead : Draft} {failure : Failure}
    (failing : (statement.draft ⟨dialect, name⟩).FailsBehind ahead failure) (mode : Mode) :
    (∀ compiled, compile statement name dialect mode ≠ .ok compiled) ∧
    (∀ cause, ahead.write (mode.writeValue ⟨dialect, name⟩) 0 = .error cause →
      compile statement name dialect mode = .error cause) ∧
    ∀ written, ahead.write (mode.writeValue ⟨dialect, name⟩) 0 = .ok written →
      compile statement name dialect mode = .error failure := by
  have outcome := failing (mode.writeValue ⟨dialect, name⟩) 0
  simp only [compile, ne_eq, outcome]
  refine ⟨fun compiled done => ?_, fun cause failed => ?_, fun written done => ?_⟩
  · obtain ⟨_, -, stopped⟩ := bind_eq_ok_iff.mp done
    cases stopped
  · rw [failed]
    rfl
  · rw [done]
    rfl

end SqlDialects
