import SqlDialects.Draft

/-!
What a draft holds: its values, its faults, and whether all of its pieces are of some kind. Texts
put around or between drafts add neither a value nor a fault.
-/

namespace SqlDialects

namespace Piece

def value? : Piece → Option Value
  | .value _ held => some held
  | _ => none

def origin? : Piece → Option Origin
  | .value origin _ => some origin
  | _ => none

def fault? : Piece → Option Failure
  | .fault failure => some failure
  | _ => none

end Piece

namespace Draft

def values (draft : Draft) : List Value :=
  draft.filterMap Piece.value?

/-- Where the values come from, each in the place of its value. -/
def origins (draft : Draft) : List Origin :=
  draft.filterMap Piece.origin?

def faults (draft : Draft) : List Failure :=
  draft.filterMap Piece.fault?

def Clean (draft : Draft) : Prop :=
  draft.faults = []

def Holds (allowed : Piece → Prop) (draft : Draft) : Prop :=
  ∀ piece ∈ draft, allowed piece

theorem filterMap_separated {α : Type} (part? : Piece → Option α)
    (blank : ∀ text, part? (.text text) = none) (separator : String) (drafts : List Draft) :
    (separated separator drafts).filterMap part? = drafts.flatMap (List.filterMap part?) := by
  unfold separated
  induction drafts with
  | nil => rfl
  | cons draft rest ih =>
      cases rest with
      | nil => simp
      | cons next others =>
          rw [List.intercalate_cons_cons, List.filterMap_append, List.filterMap_append, ih]
          simp [ofText, blank]

theorem length_origins (draft : Draft) : draft.origins.length = draft.values.length := by
  induction draft with
  | nil => rfl
  | cons piece rest ih =>
      cases piece with
      | text text => exact ih
      | value origin value => exact congrArg Nat.succ ih
      | fault fault => exact ih

section Values

@[simp] theorem values_nil : values [] = [] := rfl

@[simp] theorem values_text_cons (text : String) (rest : Draft) :
    values (.text text :: rest) = values rest := rfl

@[simp] theorem values_value_cons (origin : Origin) (value : Value) (rest : Draft) :
    values (.value origin value :: rest) = value :: values rest := rfl

@[simp] theorem values_fault_cons (failure : Failure) (rest : Draft) :
    values (.fault failure :: rest) = values rest := rfl

@[simp] theorem values_append (first second : Draft) :
    (first ++ second).values = first.values ++ second.values :=
  List.filterMap_append

@[simp] theorem values_ofText (text : String) : (ofText text).values = [] := rfl

@[simp] theorem values_unsupported (name : String) (feature : Feature) :
    (unsupported name feature).values = [] := rfl

@[simp] theorem values_invalid (defect : Defect) : (invalid defect).values = [] := rfl

@[simp] theorem values_spelling (name : String) (feature : Feature) (text? : Option String) :
    (spelling name feature text?).values = [] := by
  cases text? <;> rfl

@[simp] theorem values_demand (name : String) (capability : Bool) (feature : Feature) :
    (demand name capability feature).values = [] := by
  cases capability <;> rfl

@[simp] theorem values_separated (separator : String) (drafts : List Draft) :
    (separated separator drafts).values = drafts.flatMap values :=
  filterMap_separated Piece.value? (fun _ => rfl) separator drafts

@[simp] theorem values_commaSeparated (drafts : List Draft) :
    (commaSeparated drafts).values = drafts.flatMap values :=
  values_separated ", " drafts

@[simp] theorem values_flatMap {α : Type} (items : List α) (draft : α → Draft) :
    values (items.flatMap draft) = items.flatMap fun item => (draft item).values :=
  List.filterMap_flatMap

@[simp] theorem values_enclosed (opening closing : String) (draft : Draft) :
    (enclosed opening draft closing).values = draft.values := by
  simp [enclosed]

@[simp] theorem values_parenthesized (draft : Draft) :
    (parenthesized draft).values = draft.values :=
  values_enclosed "(" ")" draft

@[simp] theorem values_parenthesizedIf (nested : Bool) (draft : Draft) :
    (parenthesizedIf nested draft).values = draft.values := by
  cases nested <;> simp [parenthesizedIf]

end Values

section Clean

@[simp] theorem clean_nil : Clean [] := rfl

@[simp] theorem clean_text_cons (text : String) (rest : Draft) :
    Clean (.text text :: rest) ↔ rest.Clean := Iff.rfl

@[simp] theorem clean_value_cons (origin : Origin) (value : Value) (rest : Draft) :
    Clean (.value origin value :: rest) ↔ rest.Clean := Iff.rfl

@[simp] theorem not_clean_fault_cons (failure : Failure) (rest : Draft) :
    ¬Clean (.fault failure :: rest) := by
  simp [Clean, faults, Piece.fault?]

@[simp] theorem clean_append (first second : Draft) :
    (first ++ second).Clean ↔ first.Clean ∧ second.Clean := by
  simp [Clean, faults]

@[simp] theorem clean_ofText (text : String) : (ofText text).Clean := rfl

@[simp] theorem not_clean_unsupported (name : String) (feature : Feature) :
    ¬(unsupported name feature).Clean :=
  not_clean_fault_cons _ _

@[simp] theorem not_clean_invalid (defect : Defect) : ¬(invalid defect).Clean :=
  not_clean_fault_cons _ _

@[simp] theorem not_clean_misconfigured (name : String) (cause : Misconfiguration) :
    ¬(misconfigured name cause).Clean :=
  not_clean_fault_cons _ _

@[simp] theorem clean_spelling (name : String) (feature : Feature) (text? : Option String) :
    (spelling name feature text?).Clean ↔ text?.isSome := by
  cases text? <;> simp [spelling]

@[simp] theorem clean_demand (name : String) (capability : Bool) (feature : Feature) :
    (demand name capability feature).Clean ↔ capability = true := by
  cases capability <;> simp [demand]

@[simp] theorem clean_separated (separator : String) (drafts : List Draft) :
    (separated separator drafts).Clean ↔ ∀ draft ∈ drafts, draft.Clean := by
  have faultsSeparated := filterMap_separated Piece.fault? (fun _ => rfl) separator drafts
  simp only [Clean, faults, faultsSeparated, List.flatMap_eq_nil_iff]

@[simp] theorem clean_commaSeparated (drafts : List Draft) :
    (commaSeparated drafts).Clean ↔ ∀ draft ∈ drafts, draft.Clean :=
  clean_separated ", " drafts

@[simp] theorem clean_flatMap {α : Type} (items : List α) (draft : α → Draft) :
    Clean (items.flatMap draft) ↔ ∀ item ∈ items, (draft item).Clean := by
  simp only [Clean, faults, List.filterMap_flatMap, List.flatMap_eq_nil_iff]

@[simp] theorem clean_enclosed (opening closing : String) (draft : Draft) :
    (enclosed opening draft closing).Clean ↔ draft.Clean := by
  simp [enclosed]

@[simp] theorem clean_parenthesized (draft : Draft) :
    (parenthesized draft).Clean ↔ draft.Clean :=
  clean_enclosed "(" ")" draft

@[simp] theorem clean_parenthesizedIf (nested : Bool) (draft : Draft) :
    (parenthesizedIf nested draft).Clean ↔ draft.Clean := by
  cases nested <;> simp [parenthesizedIf]

end Clean

section Holds

variable {allowed : Piece → Prop}

@[simp] theorem holds_nil : Holds allowed [] := by
  simp [Holds]

@[simp] theorem holds_append (first second : Draft) :
    (first ++ second).Holds allowed ↔ first.Holds allowed ∧ second.Holds allowed :=
  List.forall_mem_append

@[simp] theorem holds_singleton (piece : Piece) : Holds allowed [piece] ↔ allowed piece := by
  simp [Holds]

theorem clean_iff_holds (draft : Draft) :
    draft.Clean ↔ draft.Holds fun piece => piece.fault? = none :=
  List.filterMap_eq_nil_iff

end Holds

end Draft

end SqlDialects
