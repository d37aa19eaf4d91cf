import SqlDialects.Dialect.MySql
import SqlDialects.Proofs.Tokens

/-!
A reader of qualified names. It goes from one part to the next wherever a dot stands outside of
quotes, and what it reads of a rendered name are the parts of that name, whatever their characters.
-/

namespace SqlDialects

open Draft

/-- Reads a part of a qualified name: a quoted name, or a star without quotes. -/
def readPart (quote : Char) : List Char → Option (Identifier.Part × List Char)
  | [] => none
  | first :: rest =>
      if first = quote then
        (readQuoted quote rest).map (Prod.map (fun name => .name (String.ofList name)) id)
      else if first = '*' then some (.star, rest)
      else none

section Lengths

variable {quote : Char} {text rest : List Char}

theorem length_lt_of_readQuoted {content : List Char}
    (read : readQuoted quote text = some (content, rest)) : rest.length < text.length := by
  fun_induction readQuoted quote text generalizing content with
  | case1 => simp at read
  | case2 => simp_all
  | case3 => simp at read
  | case4 later ih =>
      obtain ⟨⟨inside, after⟩, found, same⟩ := Option.map_eq_some_iff.mp read
      obtain ⟨-, rfl⟩ : _ ∧ after = rest := by simpa using same
      have shorter := ih found
      simp only [List.length_cons]
      omega
  | case5 => simp_all
  | case6 first second later different ih =>
      obtain ⟨⟨inside, after⟩, found, same⟩ := Option.map_eq_some_iff.mp read
      obtain ⟨-, rfl⟩ : _ ∧ after = rest := by simpa using same
      have shorter := ih found
      simp only [List.length_cons] at shorter ⊢
      omega

theorem length_lt_of_readPart {part : Identifier.Part}
    (read : readPart quote text = some (part, rest)) : rest.length < text.length := by
  unfold readPart at read
  split at read
  · simp at read
  · split at read
    · obtain ⟨⟨name, after⟩, found, same⟩ := Option.map_eq_some_iff.mp read
      obtain ⟨-, rfl⟩ : _ ∧ after = rest := by simpa using same
      exact Nat.lt_succ_of_lt (length_lt_of_readQuoted found)
    · split at read
      · simp_all
      · simp at read

end Lengths

/-- Reads parts as long as a dot follows, and stops behind the first part without one. -/
def readParts (quote : Char) (text : List Char) :
    Option (List Identifier.Part × List Char) :=
  match found : readPart quote text with
  | some (part, '.' :: rest) =>
      have _shorter : rest.length + 1 < text.length := length_lt_of_readPart found
      (readParts quote rest).map (Prod.map (part :: ·) id)
  | some (part, rest) => some ([part], rest)
  | none => none
termination_by text.length

section Reading

variable {quote : Char} {text rest : List Char} {part : Identifier.Part}

theorem readParts_of_dot (found : readPart quote text = some (part, '.' :: rest)) :
    readParts quote text = (readParts quote rest).map (Prod.map (part :: ·) id) := by
  rw [readParts]
  split <;> simp_all

theorem readParts_of_last (found : readPart quote text = some (part, rest))
    (ends : '.' ∉ rest.head?) : readParts quote text = some ([part], rest) := by
  rw [readParts]
  split
  · next dotted =>
    rw [found] at dotted
    obtain ⟨-, rfl⟩ : _ ∧ rest = _ := by simpa using dotted
    simp at ends
  · next other => simp_all
  · next none => simp_all

end Reading

namespace Dialect

variable {dialect : Dialect} {rest : List Char}

theorem readPart_partText (quoted : dialect.conventions.quotedIdentifiers = true)
    (plain : dialect.lexicon.identifierQuote ≠ '*') (part : Identifier.Part)
    (ends : dialect.lexicon.identifierQuote ∉ rest.head?) :
    readPart dialect.lexicon.identifierQuote ((dialect.partText part).toList ++ rest) =
      some (part, rest) := by
  cases part with
  | name text =>
      have read := readQuoted_doubleQuote text.toList ends
      simp [partText, toList_nameText quoted, readPart, read]
  | star => simp [partText, readPart, plain.symm]

theorem readParts_innerParts (quoted : dialect.conventions.quotedIdentifiers = true)
    (plain : dialect.lexicon.identifierQuote ≠ '*' ∧ dialect.lexicon.identifierQuote ≠ '.')
    (first : Identifier.Part) (parts : List Identifier.Part)
    (ends : dialect.lexicon.identifierQuote ∉ rest.head? ∧ '.' ∉ rest.head?) :
    readParts dialect.lexicon.identifierQuote
      ((dialect.partText first).toList ++ (dialect.innerParts parts ++ rest)) =
        some (first :: parts, rest) := by
  induction parts generalizing first with
  | nil => exact readParts_of_last (readPart_partText quoted plain.1 first ends.1) ends.2
  | cons second others ih =>
      have unquoted : dialect.lexicon.identifierQuote ∉
          (dialect.innerParts (second :: others) ++ rest).head? :=
        ends_innerParts plain.2 (second :: others) ends.1
      have here := readPart_partText quoted plain.1 first unquoted
      have dotted : dialect.innerParts (second :: others) ++ rest =
          '.' :: ((dialect.partText second).toList ++ (dialect.innerParts others ++ rest)) := by
        simp [innerParts]
      rw [dotted] at here ⊢
      rw [readParts_of_dot here, ih second]
      rfl

theorem readParts_identifierText (quoted : dialect.conventions.quotedIdentifiers = true)
    (plain : dialect.lexicon.identifierQuote ≠ '*' ∧ dialect.lexicon.identifierQuote ≠ '.')
    {identifier : Identifier} (given : identifier.parts ≠ [])
    (ends : dialect.lexicon.identifierQuote ∉ rest.head? ∧ '.' ∉ rest.head?) :
    readParts dialect.lexicon.identifierQuote
      ((dialect.identifierText identifier).toList ++ rest) = some (identifier.parts, rest) := by
  obtain ⟨_ | ⟨first, parts⟩⟩ := identifier
  · exact absurd rfl given
  · rw [toList_identifierText, List.append_assoc]
    exact readParts_innerParts quoted plain first parts ends

end Dialect

/-- What is rendered of a valid identifier reads back as its parts, and the reader stops where the
rendered text stops, whatever follows that does not continue a name. So no two valid identifiers
are rendered alike, and no character of a name ends it early. -/
theorem identifiers_read_back {dialect : Dialect}
    (quoted : dialect.conventions.quotedIdentifiers = true)
    (quote : dialect.lexicon.identifierQuote = '"' ∨ dialect.lexicon.identifierQuote = '\x60')
    {identifier : Identifier} (valid : identifier.flaw? = none) :
    dialect.identifierDraft identifier = ofText (dialect.identifierText identifier) ∧
    (∀ rest : List Char, dialect.lexicon.identifierQuote ∉ rest.head? → '.' ∉ rest.head? →
      readParts dialect.lexicon.identifierQuote
        ((dialect.identifierText identifier).toList ++ rest) = some (identifier.parts, rest)) ∧
    (∀ other : Identifier, other.flaw? = none →
      dialect.identifierText other = dialect.identifierText identifier → other = identifier) ∧
    ∀ (name : String) (rest : List Char), dialect.lexicon.identifierQuote ∉ rest.head? →
      readPart dialect.lexicon.identifierQuote ((dialect.nameText name).toList ++ rest) =
        some (.name name, rest) := by
  have plain : dialect.lexicon.identifierQuote ≠ '*' ∧ dialect.lexicon.identifierQuote ≠ '.' := by
    rcases quote with same | same <;> simp [same]
  refine ⟨by rw [Dialect.identifierDraft, valid], ?_, ?_, ?_⟩
  · exact fun rest unquoted undotted =>
      Dialect.readParts_identifierText quoted plain (identifier.parts_ne_nil valid)
        ⟨unquoted, undotted⟩
  · intro other otherValid same
    have texts : (dialect.identifierText other).toList ++ [] =
        (dialect.identifierText identifier).toList ++ [] := by rw [same]
    exact (Dialect.identifierText_unique quoted plain (other.parts_ne_nil otherValid)
      (identifier.parts_ne_nil valid) texts (by simp) (by simp)).1
  · exact fun name rest unquoted => Dialect.readPart_partText quoted plain.1 (.name name) unquoted

def disguised : Identifier :=
  ⟨[.name "\x60.\x60", .name "*", .star]⟩

theorem identifiers_read_back_disguised :
    Dialect.mySql.conventions.quotedIdentifiers = true ∧
    Dialect.mySql.lexicon.identifierQuote = '\x60' ∧ disguised.flaw? = none ∧
    Dialect.mySql.identifierDraft disguised =
      ofText "\x60\x60\x60.\x60\x60\x60.\x60*\x60.*" ∧
    readParts '\x60' "\x60\x60\x60.\x60\x60\x60.\x60*\x60.* = 1".toList =
      some (disguised.parts, " = 1".toList) := by
  have quoted : Dialect.mySql.conventions.quotedIdentifiers = true := rfl
  have valid : disguised.flaw? = none := by decide
  obtain ⟨drafted, reads, _⟩ := identifiers_read_back quoted (.inr rfl) valid
  exact ⟨quoted, rfl, valid, drafted.trans (by decide), reads " = 1".toList (by decide) (by decide)⟩

end SqlDialects
