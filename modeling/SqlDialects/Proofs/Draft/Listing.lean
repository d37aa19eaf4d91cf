import SqlDialects.Proofs.Nesting

/-!
What the parts of a written draft come to. Each part is written behind the arguments of those
before it, and a list is written as the texts of its items with the separator between them.
-/

namespace SqlDialects

open Draft

/-- The draft comes to the text, behind some number of arguments. -/
def Draft.WrittenAs (draft : Draft) (dialect : NamedDialect) (mode : Mode) (text : String) : Prop :=
  ∃ count written, draft.write (mode.writeValue dialect) count = .ok written ∧ written.sql = text

def columnListText (columns : List String) : String :=
  if columns.isEmpty then "" else " (" ++ ", ".intercalate columns ++ ")"

def assignmentDraft (dialect : NamedDialect) (entry : String × Expr) : Draft :=
  dialect.identifierDraft (.parse entry.1) ++ ofText " = " ++ entry.2.draft dialect false

variable {dialect : NamedDialect} {mode : Mode} {text : String}

@[simp] theorem writtenAs_ofText (content : String) :
    (ofText content).WrittenAs dialect mode text ↔ text = content := by
  simp [WrittenAs, eq_comm]

theorem writtenAs_enclosed {opening closing : String} {draft : Draft} :
    (enclosed opening draft closing).WrittenAs dialect mode text ↔
      ∃ inside, draft.WrittenAs dialect mode inside ∧ text = opening ++ inside ++ closing := by
  simp only [WrittenAs, write_enclosed, map_eq_ok_iff]
  constructor
  · rintro ⟨count, _, ⟨inside, done, rfl⟩, rfl⟩
    exact ⟨inside.sql, ⟨count, inside, done, rfl⟩, rfl⟩
  · rintro ⟨_, ⟨count, inside, done, rfl⟩, rfl⟩
    exact ⟨count, _, ⟨inside, done, rfl⟩, rfl⟩

namespace Draft.WrittenAs

theorem append {first second : Draft} (done : (first ++ second).WrittenAs dialect mode text) :
    ∃ before after, first.WrittenAs dialect mode before ∧ second.WrittenAs dialect mode after ∧
      text = before ++ after := by
  obtain ⟨count, whole, written, rfl⟩ := done
  obtain ⟨before, after, led, followed, rfl⟩ := write_append_eq_ok_iff.mp written
  exact ⟨before.sql, after.sql, ⟨_, before, led, rfl⟩, ⟨_, after, followed, rfl⟩, rfl⟩

theorem separated {separator : String} {drafts : List Draft}
    (done : (Draft.separated separator drafts).WrittenAs dialect mode text) :
    ∃ texts, List.Forall₂ (fun draft part => draft.WrittenAs dialect mode part) drafts texts ∧
      text = separator.intercalate texts := by
  induction drafts generalizing text with
  | nil =>
      obtain ⟨count, _, written, rfl⟩ := done
      cases written
      exact ⟨[], .nil, rfl⟩
  | cons first rest ih =>
      cases rest with
      | nil =>
          refine ⟨[text], .cons ?_ .nil, rfl⟩
          simpa [Draft.separated] using done
      | cons second others =>
          rw [Draft.separated, List.intercalate_cons_cons] at done
          obtain ⟨opened, later, started, continued, rfl⟩ := done.append
          obtain ⟨here, between, first, comma, rfl⟩ := started.append
          obtain rfl := (writtenAs_ofText _).mp comma
          obtain ⟨texts, each, rfl⟩ := ih continued
          obtain _ | ⟨next, following⟩ := each
          refine ⟨here :: _, .cons first (.cons next following), ?_⟩
          rw [String.intercalate_cons_cons]

theorem columnList {drafts : List Draft}
    (done : (Draft.columnList drafts).WrittenAs dialect mode text) :
    ∃ texts, List.Forall₂ (fun draft part => draft.WrittenAs dialect mode part) drafts texts ∧
      text = columnListText texts := by
  cases drafts with
  | nil =>
      obtain ⟨count, _, written, rfl⟩ := done
      cases written
      exact ⟨[], .nil, rfl⟩
  | cons first rest =>
      obtain ⟨inside, listed, rfl⟩ := writtenAs_enclosed.mp done
      obtain ⟨texts, each, rfl⟩ := listed.separated
      obtain _ | ⟨here, later⟩ := each
      exact ⟨_ :: _, .cons here later, rfl⟩

end Draft.WrittenAs

theorem forall₂_writtenAs_ofText {names texts : List String}
    (each : List.Forall₂ (fun draft part => draft.WrittenAs dialect mode part)
      (names.map ofText) texts) : texts = names := by
  rw [List.forall₂_map_left_iff] at each
  induction each with
  | nil => rfl
  | cons here _ ih => rw [ih, (writtenAs_ofText _).mp here]

end SqlDialects
