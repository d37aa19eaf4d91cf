import Mathlib.Data.List.Forall2
import SqlDialects.Proofs.Draft.Writing

/-!
Drafts written with every value in the text. The number of the values before a draft does not
matter then, so the text of a draft is put together out of the texts of its parts.
-/

namespace SqlDialects.Draft

variable {dialect : NamedDialect}

theorem writeValues_inlineValue {count : Nat} {values : List Value} {written : List Compiled}
    (done : writeValues dialect.inlineValue count values = .ok written) :
    values.map dialect.literalText = written.map (fun each => .ok each.sql) ∧
      written.flatMap Compiled.arguments = [] := by
  induction values generalizing count written with
  | nil =>
      have empty : written = [] := by simpa [writeValues] using done.symm
      simp [empty]
  | cons value rest ih =>
      rw [writeValues, bind_eq_ok_iff] at done
      obtain ⟨first, here, done⟩ := done
      obtain ⟨others, later, rfl⟩ := map_eq_ok_iff.mp done
      obtain ⟨text, literal, rfl⟩ := map_eq_ok_iff.mp here
      obtain ⟨texts, bound⟩ := ih later
      simp [literal, texts, bound]

theorem write_inlineValue_count (draft : Draft) (count other : Nat) :
    draft.write dialect.inlineValue count = draft.write dialect.inlineValue other := by
  induction draft generalizing count other with
  | nil => rfl
  | cons piece rest ih =>
      cases piece with
      | text text => rw [write, write, ih count other]
      | value origin value =>
          rw [write, write, ih (count + 1) (other + 1)]
          rfl
      | fault fault => rfl

/-- A draft is written with the texts of its literals in the gaps between its own texts. -/
theorem exists_texts_of_write_inlineValue {draft : Draft} {count : Nat} {compiled : Compiled}
    (done : draft.write dialect.inlineValue count = .ok compiled) :
    ∃ texts : List String, draft.values.map dialect.literalText = texts.map .ok ∧
      compiled.sql = weave draft.gaps texts ∧ compiled.arguments = [] := by
  rw [write_of_clean draft (clean_of_write_ok done)] at done
  obtain ⟨written, values, rfl⟩ := map_eq_ok_iff.mp done
  obtain ⟨literals, none⟩ := writeValues_inlineValue values
  exact ⟨written.map Compiled.sql, by rw [List.map_map]; exact literals, rfl, none⟩

theorem arguments_of_write_inlineValue {draft : Draft} {count : Nat} {compiled : Compiled}
    (done : draft.write dialect.inlineValue count = .ok compiled) : compiled.arguments = [] := by
  obtain ⟨_, _, _, none⟩ := exists_texts_of_write_inlineValue done
  exact none

/-- A draft that can be written with its values in the text, and the characters of that text. -/
def Inlines (dialect : NamedDialect) (draft : Draft) (text : List Char) : Prop :=
  ∃ compiled, draft.write dialect.inlineValue 0 = .ok compiled ∧ compiled.sql.toList = text

variable {first second draft : Draft} {text : List Char}

theorem Inlines.clean (done : draft.Inlines dialect text) : draft.Clean := by
  obtain ⟨compiled, written, _⟩ := done
  exact clean_of_write_ok written

theorem Inlines.unique {other : List Char} (done : draft.Inlines dialect text)
    (again : draft.Inlines dialect other) : text = other := by
  obtain ⟨compiled, written, rfl⟩ := done
  obtain ⟨recompiled, rewritten, rfl⟩ := again
  rw [written] at rewritten
  cases rewritten
  rfl

@[simp] theorem inlines_nil : Inlines dialect [] text ↔ text = [] := by
  simp [Inlines, write, Compiled.empty, eq_comm]

@[simp] theorem inlines_ofText (content : String) :
    (ofText content).Inlines dialect text ↔ text = content.toList := by
  simp [Inlines, ofText, write, Except.map, Compiled.append, Compiled.empty, eq_comm]

@[simp] theorem not_inlines_invalid (defect : Defect) :
    ¬(invalid defect).Inlines dialect text :=
  fun done => not_clean_invalid defect done.clean

@[simp] theorem not_inlines_unsupported (name : String) (feature : Feature) :
    ¬(unsupported name feature).Inlines dialect text :=
  fun done => not_clean_unsupported name feature done.clean

@[simp] theorem inlines_value (origin : Origin) (value : Value) :
    Inlines dialect [.value origin value] text ↔
      ∃ literal, dialect.literalText value = .ok literal ∧ text = literal.toList := by
  unfold Inlines write NamedDialect.inlineValue
  cases dialect.literalText value with
  | error fault => simp [Except.map, Except.bind]
  | ok literal =>
      simp [write, Except.map, Except.bind, Compiled.append, Compiled.empty, eq_comm]

theorem inlines_append :
    (first ++ second).Inlines dialect text ↔
      ∃ before after, first.Inlines dialect before ∧ second.Inlines dialect after ∧
        text = before ++ after := by
  unfold Inlines
  constructor
  · rintro ⟨compiled, written, rfl⟩
    rw [write_append, bind_eq_ok_iff] at written
    obtain ⟨earlier, here, written⟩ := written
    obtain ⟨later, there, rfl⟩ := map_eq_ok_iff.mp written
    rw [write_inlineValue_count _ _ 0] at there
    exact ⟨_, _, ⟨earlier, here, rfl⟩, ⟨later, there, rfl⟩, String.toList_append ..⟩
  · rintro ⟨_, _, ⟨earlier, here, rfl⟩, ⟨later, there, rfl⟩, rfl⟩
    rw [write_inlineValue_count _ _ (0 + first.values.length)] at there
    refine ⟨earlier.append later, ?_, String.toList_append ..⟩
    rw [write_append, here]
    simp only [Except.bind, there]
    rfl

theorem exists_inlines_of_mem {α : Type} {items : List α} {draftOf : α → Draft} {item : α}
    (member : item ∈ items) (done : Inlines dialect (items.flatMap draftOf) text) :
    ∃ part, (draftOf item).Inlines dialect part := by
  induction items generalizing text with
  | nil => simp at member
  | cons first others ih =>
      rw [List.flatMap_cons, inlines_append] at done
      obtain ⟨before, after, here, later, rfl⟩ := done
      rcases List.mem_cons.mp member with rfl | inside
      · exact ⟨before, here⟩
      · exact ih inside later

theorem inlines_enclosed {opening closing : String} :
    (enclosed opening draft closing).Inlines dialect text ↔
      ∃ inside, draft.Inlines dialect inside ∧
        text = opening.toList ++ inside ++ closing.toList := by
  simp only [enclosed, inlines_append, inlines_ofText]
  constructor
  · rintro ⟨_, _, ⟨_, inside, rfl, written, rfl⟩, rfl, rfl⟩
    exact ⟨inside, written, rfl⟩
  · rintro ⟨inside, written, rfl⟩
    exact ⟨_, _, ⟨_, inside, rfl, written, rfl⟩, rfl, rfl⟩

theorem inlines_parenthesized :
    (parenthesized draft).Inlines dialect text ↔
      ∃ inside, draft.Inlines dialect inside ∧ text = '(' :: inside ++ [')'] :=
  inlines_enclosed

theorem inlines_separated_cons {separator : String} {rest : List Draft} :
    (separated separator (first :: second :: rest)).Inlines dialect text ↔
      ∃ here later, first.Inlines dialect here ∧
        (separated separator (second :: rest)).Inlines dialect later ∧
          text = here ++ (separator.toList ++ later) := by
  rw [separated, List.intercalate_cons_cons, List.append_assoc]
  simp only [inlines_append, inlines_ofText]
  constructor
  · rintro ⟨here, _, started, ⟨_, later, rfl, continued, rfl⟩, rfl⟩
    exact ⟨here, later, started, continued, rfl⟩
  · rintro ⟨here, later, started, continued, rfl⟩
    exact ⟨here, _, started, ⟨_, later, rfl, continued, rfl⟩, rfl⟩

theorem exists_texts_of_separated {separator : String} {drafts : List Draft}
    (done : (separated separator drafts).Inlines dialect text) :
    ∃ texts, List.Forall₂ (fun draft part => draft.Inlines dialect part) drafts texts ∧
      text = separator.toList.intercalate texts := by
  induction drafts generalizing text with
  | nil => exact ⟨[], .nil, by simpa [separated] using done⟩
  | cons first rest ih =>
      cases rest with
      | nil => exact ⟨[text], .cons (by simpa [separated] using done) .nil, by simp⟩
      | cons second others =>
          obtain ⟨here, later, started, continued, rfl⟩ := inlines_separated_cons.mp done
          obtain ⟨texts, each, rfl⟩ := ih continued
          cases each with
          | cons next following =>
              refine ⟨here :: _ :: _, .cons started (.cons next following), ?_⟩
              rw [List.intercalate_cons_cons, List.append_assoc]

end SqlDialects.Draft
