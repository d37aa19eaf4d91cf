import SqlDialects.Dialect.Bundled
import SqlDialects.Proofs.Outcome
import SqlDialects.Proofs.Tokens
import Std.Data.String.ToInt

/-!
Literals that stand in the text read back as their values. Under the bundled dialects a quote inside
of a text literal is doubled or takes a backslash, and a reader that knows which finds the closing
quote where the literal ends.
-/

namespace SqlDialects

def unescaped : Char → Char
  | 'n' => '\n'
  | 'r' => '\r'
  | '0' => '\x00'
  | 'Z' => '\x1a'
  | other => other

/-- Reads on to the closing quote and past it. A backslash takes the next character with it. -/
def readEscaped (quote : Char) : List Char → Option (List Char × List Char)
  | [] => none
  | '\\' :: next :: rest => (readEscaped quote rest).map (Prod.map (unescaped next :: ·) id)
  | character :: rest =>
      if character = quote then some ([], rest)
      else (readEscaped quote rest).map (Prod.map (character :: ·) id)

def hexValue? (digit : Char) : Option Nat :=
  if '0' ≤ digit ∧ digit ≤ '9' then some (digit.toNat - '0'.toNat)
  else if 'a' ≤ digit ∧ digit ≤ 'f' then some (digit.toNat - 'a'.toNat + 10)
  else none

def readBytes : List Char → Option (List UInt8)
  | [] => some []
  | [_] => none
  | high :: low :: rest =>
      (hexValue? high).bind fun upper =>
        (hexValue? low).bind fun lower =>
          (readBytes rest).map (UInt8.ofNat (16 * upper + lower) :: ·)

/-- Reads a text literal of the dialect from behind its opening quote. -/
def BundledDialect.readText : BundledDialect → List Char → Option (List Char × List Char)
  | .mySql => readEscaped '\''
  | .standard | .postgres | .sqlite | .sqlServer => readQuoted '\''

section Bytes

theorem hexValue?_digitChar : ∀ value < 16, hexValue? (Nat.digitChar value) = some value := by
  decide

theorem readBytes_hexByte (byte : UInt8) (rest : List Char) :
    readBytes (Text.hexByte byte ++ rest) = (readBytes rest).map (byte :: ·) := by
  have bound : byte.toNat < 256 := byte.toNat_lt
  have upper := hexValue?_digitChar (byte.toNat / 16) (by omega)
  have lower := hexValue?_digitChar (byte.toNat % 16) (by omega)
  have whole : UInt8.ofNat (16 * (byte.toNat / 16) + byte.toNat % 16) = byte := by
    rw [Nat.div_add_mod, UInt8.ofNat_toNat]
  simp only [Text.hexByte, List.cons_append, List.nil_append, readBytes, upper, lower,
    Option.bind_some, whole]

theorem readBytes_hexBytes (bytes : List UInt8) :
    readBytes (bytes.flatMap Text.hexByte) = some bytes := by
  induction bytes with
  | nil => rfl
  | cons byte rest ih => rw [List.flatMap_cons, readBytes_hexByte, ih, Option.map_some]

end Bytes

namespace NamedDialect

section Doubled

variable {dialect : NamedDialect}

theorem escapeCharacter_eq_error_iff (doubles : dialect.DoublesQuotes)
    (quote : dialect.lexicon.textQuote ≠ '\x00') {character : Char} {fault : Failure} :
    dialect.escapeCharacter character = .error fault ↔
      character = '\x00' ∧ fault = .unescapable '\x00' dialect.name := by
  rw [escapeCharacter, doubles character]
  by_cases same : character = dialect.lexicon.textQuote
  · simp [same, quote]
  · by_cases null : character = '\x00' <;> simp [same, null, quote.symm, eq_comm]

theorem escapeCharacters_eq_error_iff (doubles : dialect.DoublesQuotes)
    (quote : dialect.lexicon.textQuote ≠ '\x00') {content : List Char} {fault : Failure} :
    dialect.escapeCharacters content = .error fault ↔
      '\x00' ∈ content ∧ fault = .unescapable '\x00' dialect.name := by
  induction content with
  | nil => simp [escapeCharacters]
  | cons character rest ih =>
      rw [escapeCharacters, bind_eq_error_iff]
      constructor
      · rintro (here | ⟨escape, -, later⟩)
        · obtain ⟨rfl, same⟩ := (escapeCharacter_eq_error_iff doubles quote).mp here
          exact ⟨List.mem_cons_self, same⟩
        · obtain ⟨member, same⟩ := ih.mp (map_eq_error_iff.mp later)
          exact ⟨List.mem_cons_of_mem _ member, same⟩
      · rintro ⟨member, rfl⟩
        cases first : dialect.escapeCharacter character with
        | error fault =>
            obtain ⟨-, rfl⟩ := (escapeCharacter_eq_error_iff doubles quote).mp first
            exact .inl rfl
        | ok escape =>
            rcases List.mem_cons.mp member with rfl | later
            · have failed := (escapeCharacter_eq_error_iff doubles quote).mpr
                (And.intro (Eq.refl '\x00') rfl)
              rw [failed] at first
              cases first
            · exact .inr ⟨escape, rfl, map_eq_error_iff.mpr (ih.mpr ⟨later, rfl⟩)⟩

end Doubled

section Escaped

theorem mySql_escapes_entries : Dialect.mySql.lexicon.escapes.entries =
    [('\x00', "\\0"), ('\n', "\\n"), ('\r', "\\r"), ('\x1a', "\\Z"), ('"', "\\\""), ('\'', "\\'"),
      ('\\', "\\\\")] := by
  decide

theorem mySql_escapeCharacter (name : String) (character : Char) :
    ∃ escape, escapeCharacter ⟨.mySql, name⟩ character = .ok escape ∧
      ∀ rest, readEscaped '\'' (escape.toList ++ rest) =
        (readEscaped '\'' rest).map (Prod.map (character :: ·) id) := by
  unfold escapeCharacter
  cases found : Dialect.mySql.lexicon.escapes.find? character with
  | some escape =>
      have listed := (Table.mem_entries_iff _).mpr found
      refine ⟨escape, rfl, fun rest => ?_⟩
      simp only [mySql_escapes_entries, List.mem_cons, List.not_mem_nil, or_false,
        Prod.mk.injEq] at listed
      rcases listed with ⟨rfl, rfl⟩ | ⟨rfl, rfl⟩ | ⟨rfl, rfl⟩ | ⟨rfl, rfl⟩ | ⟨rfl, rfl⟩ |
        ⟨rfl, rfl⟩ | ⟨rfl, rfl⟩ <;> rfl
  | none =>
      have unlisted : character ∉ Dialect.mySql.lexicon.escapes.keys := by
        simp [Table.mem_keys_iff, found]
      simp only [Table.keys, mySql_escapes_entries, List.map_cons, List.map_nil, List.mem_cons,
        List.not_mem_nil, or_false, not_or] at unlisted
      obtain ⟨null, -, -, -, -, quote, backslash⟩ := unlisted
      have unquoted : character ≠ Dialect.mySql.lexicon.textQuote := quote
      refine ⟨character.toString, by simp [unquoted, null], fun rest => ?_⟩
      simp [readEscaped, quote, backslash]

theorem mySql_escapeCharacters (name : String) (content : List Char) :
    ∃ escaped, escapeCharacters ⟨.mySql, name⟩ content = .ok escaped ∧
      ∀ rest, readEscaped '\'' (escaped.toList ++ '\'' :: rest) = some (content, rest) := by
  induction content with
  | nil => exact ⟨"", rfl, fun rest => by simp [readEscaped]⟩
  | cons character content ih =>
      obtain ⟨escape, first, reads⟩ := mySql_escapeCharacter name character
      obtain ⟨escaped, later, readsLater⟩ := ih
      refine ⟨escape ++ escaped, by simp [escapeCharacters, first, later, Except.bind, Except.map],
        fun rest => ?_⟩
      rw [String.toList_append, List.append_assoc, reads, readsLater]
      rfl

end Escaped

end NamedDialect

namespace BundledDialect

variable {bundled : BundledDialect} {name : String}

theorem doublesQuotes (doubling : bundled ≠ .mySql) : bundled.dialect.DoublesQuotes := by
  cases bundled with
  | mySql => exact absurd rfl doubling
  | standard | postgres | sqlite | sqlServer => exact Dialect.doublesQuotes_standard

theorem textQuote_eq (bundled : BundledDialect) : bundled.dialect.lexicon.textQuote = '\'' := by
  cases bundled <;> rfl

theorem readText_of_doubling (doubling : bundled ≠ .mySql) :
    bundled.readText = readQuoted '\'' := by
  cases bundled with
  | mySql => exact absurd rfl doubling
  | standard | postgres | sqlite | sqlServer => rfl

theorem quoteText_eq_error (doubling : bundled ≠ .mySql) {content : String}
    (null : '\x00' ∈ content.toList) :
    quoteText name bundled.dialect content = .error (.unescapable '\x00' name) := by
  have failed : NamedDialect.escapeCharacters ⟨bundled.dialect, name⟩ content.toList =
      .error (.unescapable '\x00' name) :=
    (NamedDialect.escapeCharacters_eq_error_iff (doublesQuotes doubling)
      (by rw [textQuote_eq]; decide)).mpr ⟨null, rfl⟩
  exact map_eq_error_iff.mpr failed

/-- A text literal without a null character that cannot be written ends at its closing quote, unless
another quote follows, and reads back as the text. -/
theorem quoteText_reads_back {content : String}
    (writable : '\x00' ∉ content.toList ∨ bundled = .mySql) :
    ∃ literal body, quoteText name bundled.dialect content = .ok literal ∧
      literal.toList = '\'' :: body ∧
      ∀ rest : List Char, '\'' ∉ rest.head? →
        bundled.readText (body ++ rest) = some (content.toList, rest) := by
  by_cases doubling : bundled = .mySql
  · subst doubling
    obtain ⟨escaped, done, reads⟩ := NamedDialect.mySql_escapeCharacters name content.toList
    refine ⟨"'" ++ escaped ++ "'", escaped.toList ++ ['\''], ?_, by simp, fun rest _ => ?_⟩
    · exact map_eq_ok_iff.mpr ⟨escaped, done, rfl⟩
    · simpa [readText] using reads rest
  · have null := writable.resolve_right doubling
    cases done : quoteText name bundled.dialect content with
    | error fault =>
        have found := (NamedDialect.escapeCharacters_eq_error_iff (doublesQuotes doubling)
          (by rw [textQuote_eq]; decide)).mp (map_eq_error_iff.mp done)
        exact absurd found.1 null
    | ok literal =>
        have quoted := NamedDialect.toList_of_quoteText done (doublesQuotes doubling)
        rw [textQuote_eq] at quoted
        refine ⟨literal, _, rfl, quoted, fun rest ends => ?_⟩
        rw [readText_of_doubling doubling, List.append_assoc]
        exact readQuoted_doubleQuote content.toList ends

theorem quoteText_eq_iff {left right : String} (leftWritable : '\x00' ∉ left.toList)
    (rightWritable : '\x00' ∉ right.toList) :
    quoteText name bundled.dialect left = quoteText name bundled.dialect right ↔ left = right := by
  obtain ⟨leftLiteral, leftBody, leftDone, leftOpened, leftReads⟩ :=
    @quoteText_reads_back bundled name left (.inl leftWritable)
  obtain ⟨rightLiteral, rightBody, rightDone, rightOpened, rightReads⟩ :=
    @quoteText_reads_back bundled name right (.inl rightWritable)
  constructor
  · intro same
    rw [leftDone, rightDone, Except.ok.injEq] at same
    rw [same, rightOpened, List.cons.injEq] at leftOpened
    have read := leftReads [] (by simp)
    rw [← leftOpened.2, rightReads [] (by simp)] at read
    apply String.toList_injective
    simpa using read.symm
  · rintro rfl
    rfl

end BundledDialect

/-- Under the bundled dialects a text can be written unless it holds the null character and the
dialect has no escape for it. What is written reads back as the text and ends at its own closing
quote, whatever follows other than a quote. Bytes and integers read back likewise. -/
theorem literals_read_back (bundled : BundledDialect) (name : String) :
    (∀ content : String, '\x00' ∈ content.toList → bundled ≠ .mySql →
      quoteText name bundled.dialect content = .error (.unescapable '\x00' name)) ∧
    (∀ content : String, '\x00' ∉ content.toList ∨ bundled = .mySql →
      ∃ literal body, quoteText name bundled.dialect content = .ok literal ∧
        NamedDialect.literalText ⟨bundled.dialect, name⟩ (.text content) = .ok literal ∧
        literal.toList = '\'' :: body ∧
        ∀ rest : List Char, '\'' ∉ rest.head? →
          bundled.readText (body ++ rest) = some (content.toList, rest)) ∧
    (∀ bytes : List UInt8, ∃ digits,
      NamedDialect.literalText ⟨bundled.dialect, name⟩ (.blob bytes) =
        .ok (bundled.dialect.lexicon.blobOpening ++ String.ofList digits
          ++ bundled.dialect.lexicon.blobClosing) ∧
        readBytes digits = some bytes) ∧
    ∀ number : Int64, ∃ literal,
      NamedDialect.literalText ⟨bundled.dialect, name⟩ (.integer number) = .ok literal ∧
        literal.toInt? = some number.toInt := by
  refine ⟨?_, ?_, ?_, ?_⟩
  · exact fun content null doubling => BundledDialect.quoteText_eq_error doubling null
  · intro content writable
    obtain ⟨literal, body, written, quoted, reads⟩ :=
      BundledDialect.quoteText_reads_back writable
    exact ⟨literal, body, written, written, quoted, reads⟩
  · exact fun bytes => ⟨bytes.flatMap Text.hexByte, rfl, readBytes_hexBytes bytes⟩
  · exact fun number => ⟨toString number.toInt, rfl, Int.toInt?_repr number.toInt⟩

end SqlDialects
