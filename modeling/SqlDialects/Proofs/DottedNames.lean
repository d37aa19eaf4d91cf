import SqlDialects.Compile
import SqlDialects.Proofs.Draft.Writing

/-!
Dotted names. A text is split at its dots into the parts of a name and printed as it was, and it
can be rendered if the segments between its dots are those of a qualified name. A name in turn reads
back from what it prints unless one of its parts holds a dot or is named like the star.
-/

namespace SqlDialects

namespace Identifier

/-- What the constructors of identifiers build. -/
inductive Built : Identifier → Prop
  | parse (text : String) : Built (.parse text)
  | single (text : String) : Built (.single text)
  | star : Built .star
  | child {parent : Identifier} (built : Built parent) (text : String) : Built (parent.child text)

/-- One to three segments that are not empty, and none but the last is a star. -/
structure AreQualified (segments : List (List Char)) : Prop where
  given : 1 ≤ segments.length
  few : segments.length ≤ 3
  filled : [] ∉ segments
  starLast : ['*'] ∉ segments.dropLast

section Parts

variable {text : String} {part : Part}

theorem Part.ofText_eq_star_iff : ofText text = star ↔ text = "*" := by
  unfold ofText
  split <;> simp_all

theorem Part.ofText_eq_name_iff {name : String} :
    ofText text = .name name ↔ text = name ∧ name ≠ "*" := by
  unfold ofText
  split
  · next star => simpa [star] using fun same => same.symm
  · next other =>
    simp only [Part.name.injEq, iff_self_and]
    rintro rfl
    exact other

theorem Part.ofText_text_eq_iff : ofText part.text = part ↔ part ≠ .name "*" := by
  cases part with
  | name text => simp [ofText_eq_name_iff, Part.text]
  | star => simp [ofText_eq_star_iff, Part.text]

end Parts

section Segments

variable (text : String)

theorem parts_parse :
    (parse text).parts = (text.toList.splitOn '.').map fun segment =>
      .ofText (String.ofList segment) := by
  simp [parse, Text.pieces, Text.splitAt_eq_splitOn]

theorem flaw?_parse_eq_none_iff :
    (parse text).flaw? = none ↔ AreQualified (text.toList.splitOn '.') := by
  have empty : ∀ segment : List Char,
      Part.ofText (String.ofList segment) = .name "" ↔ segment = [] := by
    intro segment
    simp [Part.ofText_eq_name_iff]
  have star : ∀ segment : List Char,
      Part.ofText (String.ofList segment) = .star ↔ segment = ['*'] := by
    intro segment
    rw [Part.ofText_eq_star_iff, ← String.toList_inj, String.toList_ofList]
    rfl
  have filled : Part.name "" ∈ (parse text).parts ↔ [] ∈ text.toList.splitOn '.' := by
    simp [parts_parse, empty]
  have starred : Part.star ∈ (parse text).parts.dropLast ↔
      ['*'] ∈ (text.toList.splitOn '.').dropLast := by
    simp [parts_parse, ← List.map_dropLast, star]
  have length : (parse text).parts.length = (text.toList.splitOn '.').length := by
    simp [parts_parse]
  rw [flaw?_eq_none_iff, filled, starred, length, ← List.length_pos_iff, length]
  constructor
  · rintro ⟨given, few, noneEmpty, noStar⟩
    exact ⟨given, few, noneEmpty, noStar⟩
  · rintro ⟨given, few, noneEmpty, noStar⟩
    exact ⟨given, few, noneEmpty, noStar⟩

end Segments

section ReadBack

theorem Built.parts_ne_nil {identifier : Identifier} (built : Built identifier) :
    identifier.parts ≠ [] := by
  cases built with
  | parse text => exact parts_parse_ne_nil text
  | single text => simp [Identifier.single]
  | star => simp [Identifier.star]
  | child built text => simp [Identifier.child]

theorem plain_of_mem_parse {text name : String} (listed : .name name ∈ (parse text).parts) :
    '.' ∉ name.toList ∧ name ≠ "*" := by
  obtain ⟨piece, split, named⟩ := List.mem_map.mp listed
  obtain ⟨characters, inside, rfl⟩ := List.mem_map.mp split
  obtain ⟨rfl, unlike⟩ := Part.ofText_eq_name_iff.mp named
  have apart := Text.separator_not_mem_of_mem_splitAt '.' text.toList characters inside
  exact ⟨by simpa using apart, unlike⟩

variable {identifier : Identifier}

theorem toList_display (identifier : Identifier) :
    identifier.display.toList = ['.'].intercalate (identifier.parts.map (·.text.toList)) := by
  simp [display, String.toList_intercalate, Function.comp_def]

theorem parse_display_of_plain (given : identifier.parts ≠ [])
    (plain : ∀ name, .name name ∈ identifier.parts → '.' ∉ name.toList ∧ name ≠ "*") :
    parse identifier.display = identifier := by
  have undotted : ∀ part ∈ identifier.parts, '.' ∉ part.text.toList := by
    intro part listed
    cases part with
    | name name => exact (plain name listed).1
    | star => decide
  have unchanged : ∀ part ∈ identifier.parts, Part.ofText part.text = part := by
    intro part listed
    rw [Part.ofText_text_eq_iff]
    rintro rfl
    exact (plain "*" listed).2 rfl
  have split : identifier.display.toList.splitOn '.' =
      identifier.parts.map (·.text.toList) := by
    rw [toList_display]
    exact List.splitOn_intercalate '.' (by simpa using undotted) (by simpa using given)
  have parts : (parse identifier.display).parts = identifier.parts := by
    rw [parts_parse, split, List.map_map]
    refine (List.map_congr_left fun part listed => ?_).trans (List.map_id _)
    simpa using unchanged part listed
  exact congrArg Identifier.mk parts

theorem parse_display_eq_iff (given : identifier.parts ≠ []) :
    parse identifier.display = identifier ↔
      ∀ name, .name name ∈ identifier.parts → '.' ∉ name.toList ∧ name ≠ "*" := by
  constructor
  · intro same name listed
    rw [← same] at listed
    exact plain_of_mem_parse listed
  · exact parse_display_of_plain given

end ReadBack

end Identifier

open Identifier

theorem exists_write_identifierDraft_iff (dialect : NamedDialect) (mode : Mode) (count : Nat)
    (identifier : Identifier) :
    (∃ compiled, (dialect.identifierDraft identifier).write (mode.writeValue dialect) count =
      .ok compiled) ↔ identifier.flaw? = none := by
  rw [Dialect.identifierDraft]
  cases identifier.flaw? with
  | none => simp
  | some flaw => simp

/-- A text that is parsed as a name prints as it was, and the name can be rendered exactly if the
segments between the dots are those of a qualified name. A name that was built part by part reads
back from what it prints exactly if none of its parts holds a dot or is named like the star. -/
theorem dotted_names_read_back :
    (∀ text : String, (parse text).display = text ∧
      ∀ (dialect : NamedDialect) (mode : Mode) (count : Nat),
        (∃ compiled, (dialect.identifierDraft (parse text)).write (mode.writeValue dialect) count =
          .ok compiled) ↔ AreQualified (text.toList.splitOn '.')) ∧
    ∀ identifier : Identifier, identifier.Built →
      (parse identifier.display = identifier ↔
        ∀ name, .name name ∈ identifier.parts → '.' ∉ name.toList ∧ name ≠ "*") := by
  constructor
  · intro text
    refine ⟨display_parse text, fun dialect mode count => ?_⟩
    rw [exists_write_identifierDraft_iff, flaw?_parse_eq_none_iff]
  · intro identifier built
    exact parse_display_eq_iff built.parts_ne_nil

def oddColumn : Identifier :=
  ((single "odd.name").child "team").child "*"

theorem dotted_names_read_back_oddColumn :
    oddColumn.Built ∧ oddColumn.display = "odd.name.team.*" ∧ parse oddColumn.display ≠ oddColumn ∧
    ((parse "public.jobs").child "*").Built ∧
    parse ((parse "public.jobs").child "*").display = (parse "public.jobs").child "*" := by
  have odd : oddColumn.Built := ((Built.single "odd.name").child "team").child "*"
  have even : ((parse "public.jobs").child "*").Built := (Built.parse "public.jobs").child "*"
  refine ⟨odd, by decide, ?_, even, ?_⟩
  · intro same
    have plain := (dotted_names_read_back.2 oddColumn odd).mp same "odd.name" (by decide)
    exact absurd plain.1 (by decide)
  · refine (dotted_names_read_back.2 _ even).mpr ?_
    have parts : ((parse "public.jobs").child "*").parts =
        [.name "public", .name "jobs", .star] := by decide
    simp [parts]

end SqlDialects
