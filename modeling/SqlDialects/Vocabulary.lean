/-!
Finite vocabularies. Every member is listed and has a key of its own, by which documents name it.
-/

namespace SqlDialects

class Vocabulary (α : Type) [DecidableEq α] where
  members : List α
  key : α → String
  complete : ∀ member, member ∈ members
  key_injective : ∀ left right, key left = key right → left = right

namespace Vocabulary

variable {α : Type} [DecidableEq α] [Vocabulary α]

def find? (name : String) : Option α :=
  members.find? fun member => key member = name

theorem find?_key (member : α) : find? (key member) = some member := by
  have found : (find? (key member) : Option α).isSome := by
    simp only [find?, List.find?_isSome, decide_eq_true_eq]
    exact ⟨member, complete member, rfl⟩
  obtain ⟨other, same⟩ := Option.isSome_iff_exists.mp found
  have keyed := List.find?_some same
  rw [same, key_injective other member (by simpa using keyed)]

end Vocabulary

end SqlDialects
