import SqlDialects.Text.Split

/-!
Qualified names such as `schema.table.column`, `table.*` or `column`: reading them from dotted
text, printing them back, and the flaws that keep a name out of a statement.
-/

namespace SqlDialects

inductive Identifier.Part where
  | name (text : String)
  | star
deriving DecidableEq, Repr

/-- Parts from the outermost to the innermost. -/
structure Identifier where
  parts : List Identifier.Part
deriving DecidableEq, Repr

inductive Identifier.Flaw where
  | partCount
  | emptyPart
  | starBeforeLast
deriving DecidableEq, Repr

namespace Identifier

def Part.ofText (text : String) : Part :=
  if text = "*" then .star else .name text

def Part.text : Part → String
  | .name text => text
  | .star => "*"

@[simp] theorem Part.text_ofText (text : String) : (Part.ofText text).text = text := by
  unfold Part.ofText
  split
  · next same => exact same.symm
  · rfl

/-- A dotted text names one part between every two dots. -/
def parse (text : String) : Identifier :=
  ⟨(Text.pieces '.' text).map Part.ofText⟩

/-- A single part; dots and stars in it are ordinary characters. -/
def single (text : String) : Identifier :=
  ⟨[.name text]⟩

def star : Identifier :=
  ⟨[.star]⟩

def child (parent : Identifier) (text : String) : Identifier :=
  ⟨parent.parts ++ [Part.ofText text]⟩

def lastName? (identifier : Identifier) : Option String :=
  match identifier.parts.getLast? with
  | some (.name text) => some text
  | _ => none

def display (identifier : Identifier) : String :=
  ".".intercalate (identifier.parts.map Part.text)

/-- The first flaw of the parts alone, from left to right. -/
def partsFlaw? : List Part → Option Flaw
  | [] => none
  | .name text :: rest => if text.isEmpty then some .emptyPart else partsFlaw? rest
  | .star :: [] => none
  | .star :: _ :: _ => some .starBeforeLast

/-- A statement may use a name of one to three parts, none empty and only the last a star. -/
def flaw? (identifier : Identifier) : Option Flaw :=
  if identifier.parts.isEmpty || identifier.parts.length > 3 then some .partCount
  else partsFlaw? identifier.parts

theorem partsFlaw?_eq_none_iff {parts : List Part} :
    partsFlaw? parts = none ↔ .name "" ∉ parts ∧ .star ∉ parts.dropLast := by
  fun_induction partsFlaw? parts with
  | case1 => simp
  | case2 text rest empty =>
      have none : text = "" := by simpa using empty
      simp [none]
  | case3 text rest given ih =>
      have some : text ≠ "" := by simpa using given
      cases rest with
      | nil => simp [some.symm, partsFlaw?]
      | cons next others => simp [ih, some.symm]
  | case4 => simp
  | case5 next others => simp

theorem flaw?_eq_none_iff {identifier : Identifier} :
    identifier.flaw? = none ↔ identifier.parts ≠ [] ∧ identifier.parts.length ≤ 3 ∧
      .name "" ∉ identifier.parts ∧ .star ∉ identifier.parts.dropLast := by
  rw [flaw?]
  split
  · next uncounted =>
    simp only [reduceCtorEq, false_iff]
    rintro ⟨given, few, -, -⟩
    have many : 3 < identifier.parts.length := by simpa [given] using uncounted
    omega
  · next counted =>
    obtain ⟨given, few⟩ : identifier.parts ≠ [] ∧ identifier.parts.length ≤ 3 := by
      simpa using counted
    simp [partsFlaw?_eq_none_iff, given, few]

theorem parts_parse_ne_nil (text : String) : (parse text).parts ≠ [] := by
  simp [parse, Text.pieces, Text.splitAt_ne_nil]

theorem display_parse (text : String) : (parse text).display = text := by
  have unchanged : ∀ pieces : List (List Char),
      pieces.map (String.toList ∘ Part.text ∘ Part.ofText ∘ String.ofList) = pieces := by
    intro pieces
    induction pieces with
    | nil => rfl
    | cons piece rest ih => simp only [List.map_cons, ih, Function.comp, Part.text_ofText,
        String.toList_ofList]
  apply String.toList_injective
  simp only [parse, display, Text.pieces, List.map_map, String.toList_intercalate, unchanged]
  exact Text.intercalate_splitAt '.' text.toList

end Identifier

end SqlDialects
