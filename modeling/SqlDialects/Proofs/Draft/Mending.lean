import SqlDialects.Proofs.Draft.Related
import SqlDialects.Proofs.Draft.Writing
import SqlDialects.Proofs.Filling

/-!
What an empty list does to a draft. Where the draft with filled lists can be written, the draft
without is either the same or an invalid expression.
-/

namespace SqlDialects

open Draft

variable {writeValue : Nat → Value → Except Failure Compiled}

namespace Draft

/-- Wherever `mended` can be written, `draft` is the same or an invalid expression. -/
def Mends (writeValue : Nat → Value → Except Failure Compiled) (mended draft : Draft) : Prop :=
  ∀ count written, mended.write writeValue count = .ok written →
    draft = mended ∨ ∃ defect, draft.write writeValue count = .error (.invalid defect)

theorem Mends.of_eq {mended draft : Draft} (same : draft = mended) :
    Mends writeValue mended draft :=
  fun _ _ _ => .inl same

theorem Mends.refl (draft : Draft) : Mends writeValue draft draft :=
  .of_eq rfl

theorem Mends.append {mended draft mended' draft' : Draft}
    (first : Mends writeValue mended draft) (second : Mends writeValue mended' draft') :
    Mends writeValue (mended ++ mended') (draft ++ draft') := by
  intro count written done
  rw [write_append, bind_eq_ok_iff] at done
  obtain ⟨before, started, done⟩ := done
  obtain ⟨after, followed, -⟩ := map_eq_ok_iff.mp done
  rw [write_append]
  rcases first count before started with rfl | ⟨defect, failed⟩
  · rcases second _ after followed with rfl | ⟨defect, failed⟩
    · exact .inl rfl
    · exact .inr ⟨defect, by rw [started, Except.bind, failed]; rfl⟩
  · exact .inr ⟨defect, by rw [failed]; rfl⟩

/-- Wherever `mended` can be written, `draft` is an invalid expression. -/
def Rescues (writeValue : Nat → Value → Except Failure Compiled) (mended draft : Draft) : Prop :=
  ∀ count written, mended.write writeValue count = .ok written →
    ∃ defect, draft.write writeValue count = .error (.invalid defect)

theorem rescues_invalid (mended : Draft) (defect : Defect) (rest : Draft) :
    Rescues writeValue mended (invalid defect ++ rest) :=
  fun _ _ _ => ⟨defect, rfl⟩

theorem Rescues.mends {mended draft : Draft} (fails : Rescues writeValue mended draft) :
    Mends writeValue mended draft :=
  fun count written done => .inr (fails count written done)

theorem Rescues.append {mended draft : Draft} (fails : Rescues writeValue mended draft)
    (mended' draft' : Draft) : Rescues writeValue (mended ++ mended') (draft ++ draft') := by
  intro count written done
  rw [write_append, bind_eq_ok_iff] at done
  obtain ⟨before, started, -⟩ := done
  obtain ⟨defect, failed⟩ := fails count before started
  exact ⟨defect, by rw [write_append, failed]; rfl⟩

theorem Rescues.behind {mended draft : Draft} (fails : Rescues writeValue mended draft)
    (before : Draft) : Rescues writeValue (before ++ mended) (before ++ draft) := by
  intro count written done
  rw [write_append, bind_eq_ok_iff] at done
  obtain ⟨earlier, started, done⟩ := done
  obtain ⟨later, followed, -⟩ := map_eq_ok_iff.mp done
  obtain ⟨defect, failed⟩ := fails _ later followed
  exact ⟨defect, by rw [write_append, started, Except.bind, failed]; rfl⟩

theorem congruent_mends : Congruent True (Mends writeValue) where
  nil := .refl _
  append := .append
  word := fun same => .of_eq (congrArg ofText (same trivial))
  rowCount := fun _ => .refl _
  invalid := fun _ => .refl _

end Draft

theorem NamedDialect.mends_joinPartDraft (dialect : NamedDialect) (columns : List String)
    (kind : JoinKind) (given : List String) :
    Mends writeValue (dialect.joinPartDraft kind (.using (fillList columns given)))
      (dialect.joinPartDraft kind (.using given)) := by
  cases given with
  | cons column others => exact .refl _
  | nil =>
      simp only [Dialect.joinPartDraft]
      split
      · exact (rescues_invalid _ .emptyUsing []).mends
      · exact .refl _

theorem Rewriting.filling_relates (writeValue : Nat → Value → Except Failure Compiled)
    (columns : List String) (dialect : NamedDialect) :
    (Rewriting.filling columns).Relates True dialect dialect (Mends writeValue) where
  toRelates := congruent_mends.relates dialect.toDialect (fun _ => .refl _) (fun _ => .refl _)
    fun _ => .refl _
  boolean? := fun _ => rfl
  isNullOrBoolean := fun _ => rfl
  value := fun _ => .refl _
  joinColumns := dialect.mends_joinPartDraft columns

end SqlDialects
