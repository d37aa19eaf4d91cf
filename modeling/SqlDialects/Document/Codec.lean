import SqlDialects.Document
import SqlDialects.Table
import SqlDialects.Vocabulary

/-!
How the settings of a dialect are written in documents and read back. Whatever is written can be
read; other documents are refused, with nothing converted from one type to another.
-/

namespace SqlDialects

structure Codec (α : Type) where
  encode : α → Document
  decode? : Document → Option α
  same : α → α → Bool
  decode_encode : ∀ content, decode? (encode content) = some content
  same_iff : ∀ left right, same left right = true ↔ left = right

namespace Codec

def boolean : Codec Bool where
  encode := .boolean
  decode?
    | .boolean truth => some truth
    | _ => none
  same left right := left = right
  decode_encode _ := rfl
  same_iff := by simp

def text : Codec String where
  encode := .text
  decode?
    | .text content => some content
    | _ => none
  same left right := left = right
  decode_encode _ := rfl
  same_iff := by simp

def optionalText : Codec (Option String) where
  encode
    | some content => .text content
    | none => .null
  decode?
    | .text content => some (some content)
    | .null => some none
    | _ => none
  same left right := left = right
  decode_encode content := by cases content <;> rfl
  same_iff := by simp

def characterOfText? (text : String) : Option Char :=
  match text.toList with
  | [character] => some character
  | _ => none

theorem characterOfText?_singleton (character : Char) :
    characterOfText? (String.singleton character) = some character := by
  simp [characterOfText?]

def character : Codec Char where
  encode content := .text (String.singleton content)
  decode?
    | .text content => characterOfText? content
    | _ => none
  same left right := left = right
  decode_encode := characterOfText?_singleton
  same_iff := by simp

/-- The entries of an object whose fields are all texts with readable names. -/
def textEntries? {κ : Type} (key? : String → Option κ) :
    List (String × Document) → Option (List (κ × String))
  | [] => some []
  | (name, .text content) :: rest =>
      match key? name with
      | some key => (textEntries? key? rest).map ((key, content) :: ·)
      | none => none
  | _ :: _ => none

def textFields {κ : Type} (name : κ → String) (entries : List (κ × String)) :
    List (String × Document) :=
  entries.map fun entry => (name entry.1, .text entry.2)

theorem textEntries?_textFields {κ : Type} {name : κ → String} {key? : String → Option κ}
    (readable : ∀ key, key? (name key) = some key) (entries : List (κ × String)) :
    textEntries? key? (textFields name entries) = some entries := by
  induction entries with
  | nil => rfl
  | cons entry rest ih =>
      simp only [textFields, List.map_cons, textEntries?, readable] at ih ⊢
      rw [ih]
      rfl

def escapes : Codec (Table Char String) where
  encode table := .object (textFields String.singleton table.entries)
  decode?
    | .object fields => (textEntries? characterOfText? fields).map Table.ofList
    | _ => none
  same left right := left = right
  decode_encode table := by
    simp [textEntries?_textFields characterOfText?_singleton]
  same_iff := by simp

section Spellings

variable {κ : Type} [DecidableEq κ] [Vocabulary κ]

def spelledEntries (spelling : κ → Option String) : List (κ × String) :=
  (Vocabulary.members : List κ).filterMap fun member =>
    (spelling member).map fun content => (member, content)

def spellingOf (entries : List (κ × String)) (member : κ) : Option String :=
  (entries.find? fun entry => entry.1 = member).map Prod.snd

theorem spellingOf_spelledEntries (spelling : κ → Option String) :
    spellingOf (spelledEntries spelling) = spelling := by
  funext member
  have listed : ∀ entry ∈ spelledEntries spelling, spelling entry.1 = some entry.2 := by
    intro entry present
    obtain ⟨source, -, same⟩ := List.mem_filterMap.mp present
    obtain ⟨content, spelled, same⟩ := Option.map_eq_some_iff.mp same
    subst same
    exact spelled
  unfold spellingOf
  cases found : (spelledEntries spelling).find? fun entry => entry.1 = member with
  | some entry =>
      have same : entry.1 = member := by simpa using List.find?_some found
      subst same
      exact (listed entry (List.mem_of_find?_eq_some found)).symm
  | none =>
      cases spelled : spelling member with
      | none => rfl
      | some content =>
          refine absurd (List.find?_eq_none.mp found (member, content) ?_) (by simp)
          exact List.mem_filterMap.mpr ⟨member, Vocabulary.complete member, by simp [spelled]⟩

/-- The spellings of a vocabulary, as an object with a field for each member that has one. -/
def spellings : Codec (κ → Option String) where
  encode spelling := .object (textFields Vocabulary.key (spelledEntries spelling))
  decode?
    | .object fields => (textEntries? Vocabulary.find? fields).map spellingOf
    | _ => none
  same left right := (Vocabulary.members : List κ).all fun member => left member = right member
  decode_encode spelling := by
    simp [textEntries?_textFields Vocabulary.find?_key, spellingOf_spelledEntries]
  same_iff left right := by
    simp only [List.all_eq_true, decide_eq_true_eq]
    exact ⟨fun same => funext fun member => same member (Vocabulary.complete member),
      fun same member _ => congrFun same member⟩

/-- A member is named by a text, or by the only field of an object that holds nothing else. -/
def member? : Document → Option κ
  | .text name => Vocabulary.find? name
  | .object [(name, .null)] => Vocabulary.find? name
  | _ => none

def membersOf? : List Document → Option (List κ)
  | [] => some []
  | item :: rest =>
      match member? item with
      | some member => (membersOf? rest).map (member :: ·)
      | none => none

theorem membersOf?_keys (members : List κ) :
    membersOf? (members.map fun member => Document.text (Vocabulary.key member)) =
      some members := by
  induction members with
  | nil => rfl
  | cons member rest ih => simp [membersOf?, member?, Vocabulary.find?_key, ih]

def sequence : Codec (List κ) where
  encode members := .list (members.map fun member => .text (Vocabulary.key member))
  decode?
    | .list items => membersOf? items
    | _ => none
  same left right := left = right
  decode_encode := membersOf?_keys
  same_iff := by simp

end Spellings

end Codec

end SqlDialects
