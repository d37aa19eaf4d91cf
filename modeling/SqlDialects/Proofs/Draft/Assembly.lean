import Mathlib.Data.List.Perm.Basic
import SqlDialects.Draft.Delete
import SqlDialects.Draft.Update
import SqlDialects.Proofs.Draft.Pieces

/-!
Conservation. What a fragment writes and what it leaves pending make up what was pending before, so
an assembled statement without faults holds what its clauses hold, each of them once, in whatever
order the dialect writes its fragments.
-/

namespace SqlDialects

namespace Piece

def isText : Piece → Bool
  | .text _ => true
  | _ => false

@[simp] theorem isText_text (content : String) : (text content).isText = true := rfl

@[simp] theorem isText_value (origin : Origin) (held : Value) :
    (value origin held).isText = false := rfl

@[simp] theorem isText_fault (failure : Failure) : (fault failure).isText = false := rfl

end Piece

namespace Draft

def content (draft : Draft) : List Piece :=
  draft.filter fun piece => !piece.isText

@[simp] theorem content_nil : content [] = [] := rfl

@[simp] theorem content_append (first second : Draft) :
    (first ++ second).content = first.content ++ second.content :=
  List.filter_append ..

@[simp] theorem content_ofText (text : String) : (ofText text).content = [] := rfl

@[simp] theorem content_enclosed (opening closing : String) (draft : Draft) :
    (enclosed opening draft closing).content = draft.content := by
  simp [enclosed]

theorem filterMap_content {α : Type} {part? : Piece → Option α}
    (blank : ∀ text, part? (.text text) = none) (draft : Draft) :
    draft.content.filterMap part? = draft.filterMap part? := by
  induction draft with
  | nil => rfl
  | cons piece rest ih =>
      unfold content at ih
      cases piece <;> simp [content, List.filterMap_cons, blank, ih]

end Draft

open Draft

/-- What the given clauses hold of a piece. -/
def held (clauseDraft : Clause → Draft) (clauses : List Clause) (piece : Piece) : Nat :=
  (clauses.flatMap fun clause => (clauseDraft clause).content).count piece

theorem held_erase {clause : Clause} {pending : List Clause} (member : clause ∈ pending)
    (clauseDraft : Clause → Draft) (piece : Piece) :
    (clauseDraft clause).content.count piece + held clauseDraft (pending.erase clause) piece =
      held clauseDraft pending piece := by
  have sorted := (List.perm_cons_erase member).flatMap_right fun each => (clauseDraft each).content
  have balance := sorted.count_eq piece
  simp only [List.flatMap_cons, List.count_append] at balance
  exact balance.symm

namespace Portion

def Conserves (portion : Portion) (clauseDraft : Clause → Draft) (pending : List Clause) : Prop :=
  ∀ piece, portion.draft.content.count piece + held clauseDraft portion.pending piece =
    held clauseDraft pending piece

theorem conserves_nothing (clauseDraft : Clause → Draft) (pending : List Clause) :
    (nothing pending).Conserves clauseDraft pending := by
  intro piece
  simp [nothing]

theorem conserves_take {clause : Clause} {draft : Draft} {clauseDraft : Clause → Draft}
    (same : draft.content = (clauseDraft clause).content) (pending : List Clause) :
    (take clause draft pending).Conserves clauseDraft pending := by
  unfold take
  split
  · next member =>
    intro piece
    rw [same]
    exact held_erase member clauseDraft piece
  · exact conserves_nothing clauseDraft pending

/-- The draft of a clause, or of that clause and another one if both are pending and the dialect
writes them together. -/
def takeWith (lead other : Clause) (together : Bool) (alone both : Draft)
    (pending : List Clause) : Portion :=
  if lead ∈ pending then
    if together && decide (other ∈ pending.erase lead) then
      ⟨both, (pending.erase lead).erase other⟩
    else ⟨alone, pending.erase lead⟩
  else nothing pending

theorem conserves_takeWith {lead other : Clause} {alone both : Draft}
    {clauseDraft : Clause → Draft} (leadSame : alone.content = (clauseDraft lead).content)
    (bothSame : ∀ piece, both.content.count piece =
      alone.content.count piece + (clauseDraft other).content.count piece)
    (together : Bool) (pending : List Clause) :
    (takeWith lead other together alone both pending).Conserves clauseDraft pending := by
  unfold takeWith
  split
  · next leadPending =>
    intro piece
    have leadLeft := held_erase leadPending clauseDraft piece
    rw [← leadSame] at leadLeft
    split
    · next otherPending =>
      simp only [Bool.and_eq_true, decide_eq_true_eq] at otherPending
      have otherLeft := held_erase otherPending.2 clauseDraft piece
      have whole := bothSame piece
      simp only
      omega
    · exact leadLeft
  · exact conserves_nothing clauseDraft pending

end Portion

/-- Each fragment of a kind of statement conserves what is pending, unless it ends in a fault. -/
def ConservesClauses (portion? : Fragment → List Clause → Option Portion)
    (clauseDraft : Clause → Draft) : Prop :=
  ∀ {fragment pending portion}, portion? fragment pending = some portion →
    portion.draft.Clean → portion.Conserves clauseDraft pending

namespace Draft

variable {name : String} {kind : StatementKind}
  {portion? : Fragment → List Clause → Option Portion}
  {clauseDraft : Clause → Draft} {order : List Fragment} {pending : List Clause}

theorem count_content_assemble (conserves : ConservesClauses portion? clauseDraft)
    (clean : (assemble name kind portion? order pending).Clean) (piece : Piece) :
    (assemble name kind portion? order pending).content.count piece =
      held clauseDraft pending piece := by
  induction order generalizing pending with
  | nil =>
      cases pending with
      | nil => rfl
      | cons clause rest =>
          simp only [assemble, remainder] at clean
          split at clean <;> simp at clean
  | cons fragment rest ih =>
      simp only [assemble] at clean ⊢
      cases found : portion? fragment pending with
      | none => simp [found] at clean
      | some portion =>
          simp only [found, clean_append] at clean
          have step := conserves found clean.1 piece
          have later := ih clean.2
          simp only [content_append, List.count_append]
          omega

theorem content_assemble (conserves : ConservesClauses portion? clauseDraft)
    (clean : (assemble name kind portion? order pending).Clean) :
    (assemble name kind portion? order pending).content.Perm
      (pending.flatMap fun clause => (clauseDraft clause).content) :=
  List.perm_iff_count.mpr (count_content_assemble conserves clean)

theorem filterMap_assemble {α : Type} (part? : Piece → Option α)
    (blank : ∀ text, part? (.text text) = none)
    (conserves : ConservesClauses portion? clauseDraft)
    (clean : (assemble name kind portion? order pending).Clean) :
    ((assemble name kind portion? order pending).filterMap part?).Perm
      (pending.flatMap fun clause => (clauseDraft clause).filterMap part?) := by
  have sorted := (content_assemble conserves clean).filterMap part?
  rw [filterMap_content blank, List.filterMap_flatMap] at sorted
  simpa only [filterMap_content blank] using sorted

theorem clean_of_assemble (conserves : ConservesClauses portion? clauseDraft)
    (clean : (assemble name kind portion? order pending).Clean) {clause : Clause}
    (member : clause ∈ pending) : (clauseDraft clause).Clean := by
  have sorted := filterMap_assemble Piece.fault? (fun _ => rfl) conserves clean
  have none : (assemble name kind portion? order pending).filterMap Piece.fault? = [] := clean
  rw [none] at sorted
  exact List.flatMap_eq_nil_iff.mp sorted.nil_eq.symm clause member

theorem values_assemble (conserves : ConservesClauses portion? clauseDraft)
    {bound : Clause → List Value}
    (each : ∀ clause, (clauseDraft clause).Clean → (clauseDraft clause).values.Perm (bound clause))
    (clean : (assemble name kind portion? order pending).Clean) :
    (assemble name kind portion? order pending).values.Perm (pending.flatMap bound) := by
  refine (filterMap_assemble Piece.value? (fun _ => rfl) conserves clean).trans ?_
  apply List.Perm.flatMap_left
  intro clause member
  exact each clause (clean_of_assemble conserves clean member)

end Draft

@[simp] theorem mem_carriedClauses {clause : Clause} {entries : List (Clause × Bool)} :
    clause ∈ carriedClauses entries ↔ (clause, true) ∈ entries := by
  simp [carriedClauses]

theorem flatMap_carriedClauses {α : Type} {bound : Clause → List α}
    {entries : List (Clause × Bool)}
    (empty : ∀ entry ∈ entries, entry.2 = false → bound entry.1 = []) :
    (carriedClauses entries).flatMap bound = entries.flatMap fun entry => bound entry.1 := by
  unfold carriedClauses
  induction entries with
  | nil => rfl
  | cons entry rest ih =>
      have later := ih fun other member => empty other (by simp [member])
      obtain ⟨clause, carried⟩ := entry
      cases carried with
      | true => simpa using later
      | false =>
          have none := empty (clause, false) (by simp) rfl
          simpa [none] using later

end SqlDialects
