import SqlDialects.Literal
import SqlDialects.Proofs.Draft.Pieces

/-!
Writing drafts. The texts of a clean draft stay where they are, whatever the writer makes of the
values between them. Writing fails only by the first fault of the draft or by one of its values.
-/

namespace SqlDialects

section Results

variable {α β : Type} {first : Except Failure α} {next : α → Except Failure β} {change : α → β}
  {result : β} {fault : Failure}

theorem bind_eq_ok_iff :
    first.bind next = .ok result ↔ ∃ value, first = .ok value ∧ next value = .ok result := by
  cases first <;> simp [Except.bind]

theorem bind_eq_error_iff :
    first.bind next = .error fault ↔
      first = .error fault ∨ ∃ value, first = .ok value ∧ next value = .error fault := by
  cases first <;> simp [Except.bind]

theorem map_eq_ok_iff :
    first.map change = .ok result ↔ ∃ value, first = .ok value ∧ change value = result := by
  cases first <;> simp [Except.map]

theorem map_eq_error_iff : first.map change = .error fault ↔ first = .error fault := by
  cases first <;> simp [Except.map]

end Results

def prependText (text : String) : List String → List String
  | [] => [text]
  | gap :: later => (text ++ gap) :: later

/-- Texts with other texts between them, which end where either list does. -/
def weave : List String → List String → String
  | [], _ => ""
  | gap :: _, [] => gap
  | gap :: later, between :: rest => gap ++ between ++ weave later rest

theorem weave_prependText (text : String) {gaps : List String} (nonempty : gaps ≠ [])
    (between : List String) :
    weave (prependText text gaps) between = text ++ weave gaps between := by
  cases gaps with
  | nil => exact absurd rfl nonempty
  | cons gap later => cases between <;> simp [prependText, weave, String.append_assoc]

namespace Draft

/-- The texts around the values of a draft: one before every value and one behind the last. -/
def gaps : Draft → List String
  | [] => [""]
  | .text text :: rest => prependText text (gaps rest)
  | .value _ _ :: rest => "" :: gaps rest
  | .fault _ :: rest => gaps rest

theorem gaps_ne_nil : ∀ draft : Draft, draft.gaps ≠ []
  | [] => by simp [gaps]
  | .text text :: rest => by
      simp only [gaps]
      cases gaps rest <;> simp [prependText]
  | .value _ _ :: _ => by simp [gaps]
  | .fault _ :: rest => gaps_ne_nil rest

theorem length_gaps (draft : Draft) : draft.gaps.length = draft.values.length + 1 := by
  induction draft with
  | nil => rfl
  | cons piece rest ih =>
      cases piece with
      | text text =>
          obtain ⟨gap, later, same⟩ := List.exists_cons_of_ne_nil (gaps_ne_nil rest)
          rw [same] at ih
          simpa [gaps, same, prependText] using ih
      | value origin value => simpa [gaps] using ih
      | fault fault => simpa [gaps] using ih

variable {writeValue : Nat → Value → Except Failure Compiled}

def writeValues (writeValue : Nat → Value → Except Failure Compiled) :
    Nat → List Value → Except Failure (List Compiled)
  | _, [] => .ok []
  | count, value :: rest =>
      (writeValue count value).bind fun written =>
        (writeValues writeValue (count + 1) rest).map (written :: ·)

def woven (draft : Draft) (written : List Compiled) : Compiled :=
  ⟨weave draft.gaps (written.map Compiled.sql), written.flatMap Compiled.arguments⟩

theorem write_of_clean (draft : Draft) (clean : draft.Clean) (count : Nat) :
    draft.write writeValue count =
      (writeValues writeValue count draft.values).map draft.woven := by
  induction draft generalizing count with
  | nil => rfl
  | cons piece rest ih =>
      cases piece with
      | text text =>
          rw [write, ih (by simpa using clean) count, values_text_cons]
          cases writeValues writeValue count (values rest) with
          | error fault => rfl
          | ok written =>
              simp [Except.map, woven, gaps, Compiled.append,
                weave_prependText text (gaps_ne_nil rest)]
      | value origin value =>
          rw [write, values_value_cons, writeValues]
          cases writeValue count value with
          | error fault => rfl
          | ok first =>
              simp only [Except.bind, ih (by simpa using clean) (count + 1)]
              cases writeValues writeValue (count + 1) (values rest) with
              | error fault => rfl
              | ok written => simp [Except.map, woven, gaps, Compiled.append, weave]
      | fault fault => simp at clean

theorem write_append (first second : Draft) (count : Nat) :
    (first ++ second).write writeValue count =
      (first.write writeValue count).bind fun written =>
        (second.write writeValue (count + first.values.length)).map written.append := by
  induction first generalizing count with
  | nil =>
      cases done : second.write writeValue count <;>
        simp [done, write, Except.bind, Except.map, Compiled.append, Compiled.empty]
  | cons piece rest ih =>
      cases piece with
      | text text =>
          rw [List.cons_append, write, write, ih count, values_text_cons]
          cases write writeValue count rest with
          | error fault => rfl
          | ok written =>
              cases second.write writeValue (count + (values rest).length) <;>
                simp [Except.bind, Except.map, Compiled.append, String.append_assoc]
      | value origin value =>
          have shifted : count + (values rest).length + 1 = count + 1 + (values rest).length := by
            omega
          rw [List.cons_append, write, write, ih (count + 1), values_value_cons, List.length_cons,
            ← Nat.add_assoc, shifted]
          cases writeValue count value with
          | error fault => rfl
          | ok here =>
              cases write writeValue (count + 1) rest with
              | error fault => rfl
              | ok written =>
                  cases second.write writeValue (count + 1 + (values rest).length) <;>
                    simp [Except.bind, Except.map, Compiled.append, String.append_assoc]
      | fault fault => rfl

@[simp] theorem write_ofText (text : String) (count : Nat) :
    (ofText text).write writeValue count = .ok ⟨text, []⟩ := by
  simp [ofText, write, Except.map, Compiled.append, Compiled.empty]

@[simp] theorem write_invalid (defect : Defect) (count : Nat) :
    (invalid defect).write writeValue count = .error (.invalid defect) :=
  rfl

theorem write_opened (opening : String) (draft : Draft) (count : Nat) :
    (ofText opening ++ draft).write writeValue count =
      (draft.write writeValue count).map fun inside =>
        ⟨opening ++ inside.sql, inside.arguments⟩ := by
  rw [write_append, write_ofText, values_ofText]
  cases draft.write writeValue count <;> simp [Except.bind, Except.map, Compiled.append]

theorem write_enclosed (opening closing : String) (draft : Draft) (count : Nat) :
    (enclosed opening draft closing).write writeValue count =
      (draft.write writeValue count).map fun inside =>
        ⟨opening ++ inside.sql ++ closing, inside.arguments⟩ := by
  rw [enclosed, write_append, write_opened]
  cases draft.write writeValue count <;> simp [Except.bind, Except.map, Compiled.append]

theorem clean_of_write_ok {draft : Draft} {count : Nat} {compiled : Compiled}
    (written : draft.write writeValue count = .ok compiled) : draft.Clean := by
  induction draft generalizing count compiled with
  | nil => exact clean_nil
  | cons piece rest ih =>
      cases piece with
      | text text =>
          rw [write, map_eq_ok_iff] at written
          obtain ⟨later, done, _⟩ := written
          simpa using ih done
      | value origin value =>
          rw [write, bind_eq_ok_iff] at written
          obtain ⟨first, _, written⟩ := written
          obtain ⟨later, done, _⟩ := map_eq_ok_iff.mp written
          simpa using ih done
      | fault fault => simp [write] at written

theorem exists_write_of_values {first second : Draft} {count : Nat} {written : Compiled}
    (done : first.write writeValue count = .ok written) (clean : second.Clean)
    (values : second.values = first.values) :
    ∃ other, second.write writeValue count = .ok other := by
  rw [write_of_clean first (clean_of_write_ok done)] at done
  obtain ⟨texts, each, -⟩ := map_eq_ok_iff.mp done
  refine ⟨second.woven texts, ?_⟩
  rw [write_of_clean second clean, values, each]
  rfl

theorem write_separated_ofText (separator : String) (texts : List String) (count : Nat) :
    (separated separator (texts.map ofText)).write writeValue count =
      .ok ⟨separator.intercalate texts, []⟩ := by
  induction texts with
  | nil => rfl
  | cons text rest ih =>
      cases rest with
      | nil => simp [separated]
      | cons next others =>
          have whole : separated separator ((text :: next :: others).map ofText) =
              ofText text ++ (ofText separator
                ++ separated separator ((next :: others).map ofText)) := by
            simp [separated, List.intercalate_cons_cons]
          rw [whole, write_opened, write_opened, ih]
          simp [Except.map, String.intercalate_cons_cons, String.append_assoc]

/-- A draft fails by its first fault, unless a value fails before it. -/
theorem head?_faults_or_of_write_error {draft : Draft} {count : Nat} {fault : Failure}
    (failed : draft.write writeValue count = .error fault) :
    draft.faults.head? = some fault ∨
      ∃ value ∈ draft.values, ∃ earlier, writeValue earlier value = .error fault := by
  induction draft generalizing count with
  | nil => simp [write] at failed
  | cons piece rest ih =>
      cases piece with
      | text text =>
          rw [write, map_eq_error_iff] at failed
          exact ih failed
      | value origin value =>
          rw [write, bind_eq_error_iff] at failed
          rcases failed with here | ⟨first, _, failed⟩
          · exact .inr ⟨value, by simp, count, here⟩
          · rcases ih (map_eq_error_iff.mp failed) with found | ⟨other, member, failing⟩
            · exact .inl found
            · exact .inr ⟨other, by simp [member], failing⟩
      | fault other =>
          left
          simpa [write, faults, Piece.fault?] using failed

end Draft

end SqlDialects
