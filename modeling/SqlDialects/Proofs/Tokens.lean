import SqlDialects.Compile
import SqlDialects.Dialect.Standard
import SqlDialects.Proofs.Draft.Writing
import SqlDialects.Proofs.Tables

/-!
The names, texts and numbers of a statement can be read back from what stands before any text that
does not continue them, so two of them before such texts are the same if the whole is the same.
-/

namespace SqlDialects

/-- Reads on to the closing quote and past it. A doubled quote stands for the quote itself. -/
def readQuoted (quote : Char) : List Char → Option (List Char × List Char)
  | [] => none
  | [last] => if last = quote then some ([], []) else none
  | first :: second :: rest =>
      if first = quote then
        if second = quote then (readQuoted quote rest).map (Prod.map (quote :: ·) id)
        else some ([], second :: rest)
      else (readQuoted quote (second :: rest)).map (Prod.map (first :: ·) id)

section Quoted

variable {quote : Char}

theorem readQuoted_cons_of_ne {character : Char} (different : character ≠ quote)
    {rest : List Char} (more : rest ≠ []) :
    readQuoted quote (character :: rest) =
      (readQuoted quote rest).map (Prod.map (character :: ·) id) := by
  cases rest with
  | nil => exact absurd rfl more
  | cons second rest => simp [readQuoted, different]

theorem readQuoted_doubleQuote (content : List Char) {rest : List Char}
    (ends : quote ∉ rest.head?) :
    readQuoted quote (Dialect.doubleQuote quote content ++ quote :: rest) =
      some (content, rest) := by
  induction content with
  | nil =>
      cases rest with
      | nil => simp [Dialect.doubleQuote, readQuoted]
      | cons next later =>
          have different : next ≠ quote := by simpa using ends
          simp [Dialect.doubleQuote, readQuoted, different]
  | cons character content ih =>
      by_cases same : character = quote
      · simp [Dialect.doubleQuote, same, readQuoted, ih]
      · simp only [Dialect.doubleQuote, same, if_false, List.cons_append]
        rw [readQuoted_cons_of_ne same (by simp), ih]
        simp

theorem quoted_unique {left right leftRest rightRest : List Char}
    (same : Dialect.doubleQuote quote left ++ quote :: leftRest =
      Dialect.doubleQuote quote right ++ quote :: rightRest)
    (leftEnds : quote ∉ leftRest.head?) (rightEnds : quote ∉ rightRest.head?) :
    left = right ∧ leftRest = rightRest := by
  have read := readQuoted_doubleQuote left leftEnds
  rw [same, readQuoted_doubleQuote right rightEnds] at read
  simpa [eq_comm] using read

end Quoted

theorem Identifier.parts_ne_nil {name : Identifier} (valid : name.flaw? = none) :
    name.parts ≠ [] :=
  (flaw?_eq_none_iff.mp valid).1

namespace Dialect

variable {dialect : Dialect}

theorem toList_nameText (quoted : dialect.conventions.quotedIdentifiers = true) (name : String) :
    (dialect.nameText name).toList =
      dialect.lexicon.identifierQuote ::
        (doubleQuote dialect.lexicon.identifierQuote name.toList ++
          [dialect.lexicon.identifierQuote]) := by
  simp [nameText, quoted]

theorem partText_unique (quoted : dialect.conventions.quotedIdentifiers = true)
    (plain : dialect.lexicon.identifierQuote ≠ '*') {left right : Identifier.Part}
    {leftRest rightRest : List Char}
    (same : (dialect.partText left).toList ++ leftRest =
      (dialect.partText right).toList ++ rightRest)
    (leftEnds : dialect.lexicon.identifierQuote ∉ leftRest.head?)
    (rightEnds : dialect.lexicon.identifierQuote ∉ rightRest.head?) :
    left = right ∧ leftRest = rightRest := by
  cases left with
  | name leftName =>
      cases right with
      | name rightName =>
          simp only [partText, toList_nameText quoted, List.cons_append, List.append_assoc,
            List.nil_append, List.cons.injEq, true_and] at same
          obtain ⟨names, rests⟩ := quoted_unique same leftEnds rightEnds
          exact ⟨by rw [String.toList_injective names], rests⟩
      | star =>
          simp only [partText, toList_nameText quoted, List.cons_append] at same
          exact absurd (List.cons.inj same).1 plain
  | star =>
      cases right with
      | name rightName =>
          simp only [partText, toList_nameText quoted, List.cons_append] at same
          exact absurd (List.cons.inj same).1.symm plain
      | star => exact ⟨rfl, by simpa [partText] using same⟩

def innerParts (dialect : Dialect) (parts : List Identifier.Part) : List Char :=
  parts.flatMap fun part => '.' :: (dialect.partText part).toList

theorem toList_identifierText (first : Identifier.Part) (rest : List Identifier.Part) :
    (dialect.identifierText ⟨first :: rest⟩).toList =
      (dialect.partText first).toList ++ dialect.innerParts rest := by
  simp only [identifierText, String.toList_intercalate, List.map_map]
  induction rest generalizing first with
  | nil => simp [innerParts]
  | cons second rest ih =>
      rw [List.map_cons, List.map_cons, List.intercalate_cons_cons, ← List.map_cons, ih]
      simp [innerParts]

variable {leftRest rightRest : List Char}

theorem ends_innerParts {quote : Char} (plain : quote ≠ '.') (parts : List Identifier.Part)
    {rest : List Char} (ends : quote ∉ rest.head?) :
    quote ∉ (dialect.innerParts parts ++ rest).head? := by
  cases parts with
  | nil => exact ends
  | cons part others => simpa [innerParts] using fun dot => plain dot.symm

theorem innerParts_unique (quoted : dialect.conventions.quotedIdentifiers = true)
    (plain : dialect.lexicon.identifierQuote ≠ '*' ∧ dialect.lexicon.identifierQuote ≠ '.')
    {left right : List Identifier.Part}
    (same : dialect.innerParts left ++ leftRest = dialect.innerParts right ++ rightRest)
    (leftEnds : dialect.lexicon.identifierQuote ∉ leftRest.head? ∧ '.' ∉ leftRest.head?)
    (rightEnds : dialect.lexicon.identifierQuote ∉ rightRest.head? ∧ '.' ∉ rightRest.head?) :
    left = right ∧ leftRest = rightRest := by
  induction left generalizing right with
  | nil =>
      cases right with
      | nil => exact ⟨rfl, same⟩
      | cons part rest =>
          rw [show leftRest = _ from same] at leftEnds
          simp [innerParts] at leftEnds
  | cons part rest ih =>
      cases right with
      | nil =>
          rw [show rightRest = _ from same.symm] at rightEnds
          simp [innerParts] at rightEnds
      | cons other others =>
          simp only [innerParts, List.flatMap_cons, List.cons_append, List.append_assoc,
            List.cons.injEq, true_and] at same
          obtain ⟨rfl, later⟩ := partText_unique quoted plain.1 same
            (ends_innerParts plain.2 rest leftEnds.1) (ends_innerParts plain.2 others rightEnds.1)
          obtain ⟨rfl, rests⟩ := ih later
          exact ⟨rfl, rests⟩

theorem identifierText_unique (quoted : dialect.conventions.quotedIdentifiers = true)
    (plain : dialect.lexicon.identifierQuote ≠ '*' ∧ dialect.lexicon.identifierQuote ≠ '.')
    {left right : Identifier} (leftGiven : left.parts ≠ []) (rightGiven : right.parts ≠ [])
    (same : (dialect.identifierText left).toList ++ leftRest =
      (dialect.identifierText right).toList ++ rightRest)
    (leftEnds : dialect.lexicon.identifierQuote ∉ leftRest.head? ∧ '.' ∉ leftRest.head?)
    (rightEnds : dialect.lexicon.identifierQuote ∉ rightRest.head? ∧ '.' ∉ rightRest.head?) :
    left = right ∧ leftRest = rightRest := by
  obtain ⟨_ | ⟨first, rest⟩⟩ := left
  · exact absurd rfl leftGiven
  obtain ⟨_ | ⟨other, others⟩⟩ := right
  · exact absurd rfl rightGiven
  rw [toList_identifierText, toList_identifierText, List.append_assoc, List.append_assoc] at same
  obtain ⟨rfl, later⟩ := partText_unique quoted plain.1 same
    (ends_innerParts plain.2 rest leftEnds.1) (ends_innerParts plain.2 others rightEnds.1)
  obtain ⟨rfl, rests⟩ := innerParts_unique quoted plain later leftEnds rightEnds
  exact ⟨rfl, rests⟩

/-- Whether the one escape of a dialect is to double the quote of a text. -/
def DoublesQuotes (dialect : Dialect) : Prop :=
  ∀ character, dialect.lexicon.escapes.find? character =
    if character = dialect.lexicon.textQuote then
      some (String.ofList [dialect.lexicon.textQuote, dialect.lexicon.textQuote])
    else none

theorem doublesQuotes_standard : standard.DoublesQuotes := by
  intro character
  change (Table.ofList [('\'', "''")]).find? character = _
  simp [Table.ofList, Table.find?_insert, standard]

end Dialect

namespace NamedDialect

variable {dialect : NamedDialect}

theorem toList_of_escapeCharacters (doubles : dialect.DoublesQuotes) {content : List Char}
    {escaped : String} (done : dialect.escapeCharacters content = .ok escaped) :
    escaped.toList = Dialect.doubleQuote dialect.lexicon.textQuote content := by
  induction content generalizing escaped with
  | nil =>
      have empty : escaped = "" := by simpa [escapeCharacters] using done.symm
      simp [empty, Dialect.doubleQuote]
  | cons character rest ih =>
      rw [escapeCharacters, bind_eq_ok_iff] at done
      obtain ⟨here, single, done⟩ := done
      obtain ⟨later, others, rfl⟩ := map_eq_ok_iff.mp done
      rw [String.toList_append, ih others]
      unfold escapeCharacter at single
      rw [doubles character] at single
      by_cases quote : character = dialect.lexicon.textQuote
      · have escape : here =
            String.ofList [dialect.lexicon.textQuote, dialect.lexicon.textQuote] := by
          simpa [quote] using single.symm
        simp [escape, quote, Dialect.doubleQuote]
      · simp only [quote, if_false, decide_false, Bool.false_or] at single
        split at single
        · simp at single
        · have itself : here = character.toString := by simpa using single.symm
          simp [itself, quote, Dialect.doubleQuote]

theorem toList_of_quoteText {content text : String}
    (done : dialect.quoteText content = .ok text) (doubles : dialect.DoublesQuotes) :
    text.toList =
      dialect.lexicon.textQuote ::
        (Dialect.doubleQuote dialect.lexicon.textQuote content.toList ++
          [dialect.lexicon.textQuote]) := by
  obtain ⟨escaped, written, rfl⟩ := map_eq_ok_iff.mp done
  simp [toList_of_escapeCharacters doubles written]

end NamedDialect

section Numbers

def isNumeral (character : Char) : Bool :=
  character.isDigit || character = '-'

theorem isNumeral_of_mem_natText {number : Nat} {character : Char}
    (member : character ∈ number.repr.toList) : isNumeral character := by
  rw [Nat.repr_eq_ofList_toDigits, String.toList_ofList] at member
  simp [isNumeral, Nat.isDigit_of_mem_toDigits (by omega) (by omega) member]

theorem isNumeral_of_mem_intText {number : Int} {character : Char}
    (member : character ∈ (toString number).toList) : isNumeral character := by
  rw [Int.toString_eq_repr, Int.repr_eq_if] at member
  split at member
  · exact isNumeral_of_mem_natText member
  · rw [String.toList_append, List.mem_append] at member
    rcases member with sign | digit
    · have minus : character = '-' := by simpa using sign
      simp [isNumeral, minus]
    · exact isNumeral_of_mem_natText digit

def readInt : List Char → Int
  | '-' :: digits => -(Nat.ofDigitChars 10 digits 0 : Int)
  | digits => Nat.ofDigitChars 10 digits 0

theorem ofDigitChars_natText (number : Nat) :
    Nat.ofDigitChars 10 number.repr.toList 0 = number := by
  rw [Nat.repr_eq_ofList_toDigits, String.toList_ofList, Nat.ofDigitChars_ten_toDigits]

theorem readInt_natText (number : Nat) : readInt number.repr.toList = number := by
  unfold readInt
  split
  · next minus same =>
    have digits : ∀ character ∈ number.repr.toList, character.isDigit = true := by
      rw [Nat.repr_eq_ofList_toDigits, String.toList_ofList]
      exact fun _ => Nat.isDigit_of_mem_toDigits (by omega) (by omega)
    rw [same] at digits
    exact absurd (digits '-' (by simp)) (by decide)
  · rw [ofDigitChars_natText]

theorem readInt_intText (number : Int) : readInt (toString number).toList = number := by
  rw [Int.toString_eq_repr, Int.repr_eq_if]
  split
  · next nonnegative =>
    rw [readInt_natText]
    omega
  · next negative =>
    rw [String.toList_append]
    change -(Nat.ofDigitChars 10 (-number).toNat.repr.toList 0 : Int) = number
    rw [ofDigitChars_natText]
    omega

theorem exists_numeral (number : Int) :
    ∃ first more, (toString number).toList = first :: more ∧ isNumeral first := by
  cases same : (toString number).toList with
  | nil =>
      rw [Int.toString_eq_repr, Int.repr_eq_if] at same
      split at same
      · simp [Nat.repr_eq_ofList_toDigits, Nat.toDigits_ne_nil] at same
      · simp at same
  | cons first more =>
      have member : first ∈ (toString number).toList := same ▸ List.mem_cons_self
      exact ⟨first, more, rfl, isNumeral_of_mem_intText member⟩

theorem takeWhile_isNumeral {text rest : List Char}
    (numerals : ∀ character ∈ text, isNumeral character)
    (ends : ∀ character ∈ rest.head?, isNumeral character = false) :
    (text ++ rest).takeWhile isNumeral = text := by
  rw [List.takeWhile_append_of_pos numerals]
  cases rest with
  | nil => simp
  | cons next later => simp [ends next (by simp)]

theorem intText_unique {left right : Int} {leftRest rightRest : List Char}
    (same : (toString left).toList ++ leftRest = (toString right).toList ++ rightRest)
    (leftEnds : ∀ character ∈ leftRest.head?, isNumeral character = false)
    (rightEnds : ∀ character ∈ rightRest.head?, isNumeral character = false) :
    left = right ∧ leftRest = rightRest := by
  have read : ((toString left).toList ++ leftRest).takeWhile isNumeral = (toString left).toList :=
    takeWhile_isNumeral (fun _ => isNumeral_of_mem_intText) leftEnds
  rw [same, takeWhile_isNumeral (fun _ => isNumeral_of_mem_intText) rightEnds] at read
  rw [read] at same
  have numbers := congrArg readInt read
  rw [readInt_intText, readInt_intText] at numbers
  exact ⟨numbers.symm, List.append_cancel_left same⟩

end Numbers

end SqlDialects
