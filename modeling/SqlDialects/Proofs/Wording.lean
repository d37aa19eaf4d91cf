import SqlDialects.Proofs.Surface

/-!
What the bundled dialects write on their own account: keywords, operators, names and literals. All
of it is closed, and none of it has an `OR` outside of its quotes.
-/

namespace SqlDialects

/-- A closed text without a bare `OR`. -/
def IsNeutral (backslash : Bool) (text : List Char) : Prop :=
  IsClosed backslash text ∧ ¬HasBareOr backslash text

instance (backslash : Bool) (text : List Char) : Decidable (IsNeutral backslash text) :=
  inferInstanceAs (Decidable (_ ∧ _))

section Neutral

variable {backslash : Bool} {first second text shown : List Char}

theorem isNeutral_of_surface? (known : surface? backslash text = some shown)
    (others : ∀ character ∈ shown, character.toUpper ≠ 'O') : IsNeutral backslash text :=
  ⟨isClosed_of_surface? known, (hasBareOr_iff known).not.mpr (not_mentionsOr_of_letters others)⟩

theorem isNeutral_of_ordinary
    (each : ∀ character ∈ text, isOrdinary character ∧ character.toUpper ≠ 'O') :
    IsNeutral backslash text :=
  isNeutral_of_surface?
    (surface?_of_ordinary (List.all_eq_true.mpr fun character member => (each character member).1))
    fun character member => (each character member).2

theorem isNeutral_word (ordinary : text.all isOrdinary)
    (silent : ¬MentionsOr text) : IsNeutral backslash text :=
  ⟨isClosed_of_ordinary ordinary, (hasBareOr_of_ordinary ordinary).not.mpr silent⟩

theorem isNeutral_nil : IsNeutral backslash [] :=
  isNeutral_word rfl not_mentionsOr_nil

theorem IsNeutral.append (start : IsNeutral backslash first) (rest : IsNeutral backslash second)
    (apart : ∀ character ∈ second.head?, isWordCharacter character = false) :
    IsNeutral backslash (first ++ second) := by
  refine ⟨start.1.append rest.1, ?_⟩
  rw [hasBareOr_append start.1 rest.1 apart]
  exact fun bare => bare.elim start.2 rest.2

theorem toUpper_ne_of_isQuoteMark {mark : Char} (marks : isQuoteMark mark) :
    mark.toUpper ≠ 'O' := by
  simp only [isQuoteMark, Bool.or_eq_true, decide_eq_true_eq] at marks
  rcases marks with (rfl | rfl) | rfl <;> decide

theorem isNeutral_quoted {mark : Char} (marks : isQuoteMark mark)
    (unescaped : backslash → mark = '\x60') (content : List Char) :
    IsNeutral backslash (mark :: (Dialect.doubleQuote mark content ++ [mark])) := by
  obtain ⟨shown, known, quotes⟩ := surface?_quoted marks unescaped content
  refine isNeutral_of_surface? known fun character member => ?_
  rw [quotes character member]
  exact toUpper_ne_of_isQuoteMark marks

end Neutral

section Numbers

def isDecimal (character : Char) : Bool :=
  isNumeral character || character = '.'

theorem ordinary_of_code : ∀ code < 58, 48 ≤ code →
    isOrdinary (Char.ofNat code) ∧ (Char.ofNat code).toUpper ≠ 'O' := by
  decide

theorem ordinary_of_isDecimal {character : Char} (decimal : isDecimal character) :
    isOrdinary character ∧ character.toUpper ≠ 'O' := by
  simp only [isDecimal, isNumeral, Bool.or_eq_true, decide_eq_true_eq] at decimal
  rcases decimal with (digit | rfl) | rfl
  · simp only [Char.isDigit, Bool.and_eq_true, decide_eq_true_eq, ge_iff_le,
      UInt32.le_iff_toNat_le] at digit
    have known := ordinary_of_code character.toNat (Nat.lt_succ_of_le digit.2) digit.1
    rwa [Char.ofNat_toNat] at known
  · decide
  · decide

theorem isDecimal_of_mem_positional {decimal : Decimal} {character : Char}
    (member : character ∈ decimal.positional.toList) : isDecimal character := by
  have digits : ∀ digit ∈ Nat.toDigits 10 decimal.digits, isDecimal digit := by
    intro digit listed
    simp [isDecimal, isNumeral, Nat.isDigit_of_mem_toDigits (by omega) (by omega) listed]
  have zeros : ∀ count, ∀ digit ∈ List.replicate count '0', isDecimal digit := by
    intro count digit listed
    rw [List.eq_of_mem_replicate listed]
    rfl
  have padded : ∀ count, ∀ digit ∈ List.replicate count '0' ++ Nat.toDigits 10 decimal.digits,
      isDecimal digit :=
    fun count => List.forall_mem_append.mpr ⟨zeros count, digits⟩
  unfold Decimal.positional at member
  simp only at member
  split at member
  · rw [String.toList_ofList] at member
    exact List.forall_mem_append.mpr ⟨digits, zeros _⟩ character member
  · split at member
    · rw [String.toList_ofList] at member
      exact padded _ character (List.mem_of_mem_take member)
    · rw [String.toList_ofList, List.mem_append, List.mem_cons, List.mem_reverse] at member
      rcases member with whole | rfl | fraction
      · exact padded _ character (List.mem_of_mem_take whole)
      · rfl
      · have behind := List.mem_reverse.mp ((List.dropWhile_sublist _).subset fraction)
        exact padded _ character (List.mem_of_mem_drop behind)

theorem Binary64.isDecimal_of_mem_text {number : Binary64} (finite : number.isFinite)
    {character : Char} (member : character ∈ number.text.toList) : isDecimal character := by
  have known : number.isNaN = false := by
    have exponent : number.exponentField ≠ 2047 := by simpa [isFinite] using finite
    simp [isNaN, exponent]
  have magnitude : ∀ digit ∈ (if number.isZero then "0"
      else number.roundingRange.shortest.positional).toList, isDecimal digit := by
    split
    · simp [isDecimal, isNumeral]
    · exact fun digit listed => isDecimal_of_mem_positional listed
  simp only [text, known, finite, Bool.false_eq_true, Bool.not_true, if_false] at member
  split at member
  · rw [String.toList_append, List.mem_append] at member
    rcases member with sign | digit
    · obtain rfl : character = '-' := by simpa using sign
      rfl
    · exact magnitude character digit
  · exact magnitude character member

theorem exists_digit_of_mem_hexBytes {bytes : List UInt8} {character : Char}
    (member : character ∈ bytes.flatMap Text.hexByte) :
    ∃ value < 16, character = Nat.digitChar value := by
  obtain ⟨byte, -, inside⟩ := List.mem_flatMap.mp member
  have bound : byte.toNat < 256 := byte.toNat_lt
  simp only [Text.hexByte, List.mem_cons, List.not_mem_nil, or_false] at inside
  rcases inside with rfl | rfl
  · exact ⟨_, by omega, rfl⟩
  · exact ⟨_, by omega, rfl⟩

theorem ordinary_of_digitChar : ∀ value < 16,
    isOrdinary (Nat.digitChar value) ∧ (Nat.digitChar value).toUpper ≠ 'O' := by
  decide

theorem digitChar_ne : ∀ value < 16,
    Nat.digitChar value ≠ '\'' ∧ Nat.digitChar value ≠ '\\' := by
  decide

end Numbers

namespace Dialect

def takesBackslash (dialect : Dialect) : Bool :=
  (dialect.lexicon.escapes.find? '\\').isSome

/-- The words and signs that a dialect may write in an expression or a query, as far as it has
them. -/
def ownWords (dialect : Dialect) : List (Option String) :=
  [some dialect.keywords.select, some dialect.keywords.distinct,
      some dialect.keywords.commonTables, some dialect.keywords.recursive,
      some dialect.lexicon.emptyTuple, some dialect.lexicon.nullText,
      some dialect.lexicon.trueText, some dialect.lexicon.falseText, dialect.keywords.nullsFirst,
      dialect.keywords.nullsLast, dialect.keywords.noWait, dialect.keywords.skipLocked]
    ++ Vocabulary.members.map dialect.operators.comparison
    ++ Vocabulary.members.map dialect.operators.bitwise
    ++ Vocabulary.members.map dialect.operators.join
    ++ Vocabulary.members.map dialect.operators.compound
    ++ Vocabulary.members.map dialect.operators.lock

/-- Nothing that a dialect writes on its own account opens what it does not close, or says `OR`. -/
structure Neutral (dialect : Dialect) : Prop where
  word : ∀ word ∈ dialect.ownWords, ∀ text ∈ word, IsNeutral dialect.takesBackslash text.toList
  nulls : ∀ word ∈ [dialect.keywords.nullsFirst, dialect.keywords.nullsLast], ∀ text ∈ word,
    ∀ character ∈ text.toList.head?, isWordCharacter character = false
  name : ∀ name, IsNeutral dialect.takesBackslash (dialect.nameText name).toList
  excluded : ∀ column, IsNeutral dialect.takesBackslash
    (dialect.lexicon.excludedOpening.toList ++ (dialect.nameText column).toList
      ++ dialect.lexicon.excludedClosing.toList)
  literal : ∀ {name value text}, NamedDialect.literalText ⟨dialect, name⟩ value = .ok text →
    IsNeutral dialect.takesBackslash text.toList

theorem Neutral.isNeutral_identifierText {dialect : Dialect} (neutral : dialect.Neutral)
    {identifier : Identifier} (valid : identifier.flaw? = none) :
    IsNeutral dialect.takesBackslash (dialect.identifierText identifier).toList := by
  have part : ∀ part : Identifier.Part,
      IsNeutral dialect.takesBackslash (dialect.partText part).toList := by
    intro part
    cases part with
    | name text => exact neutral.name text
    | star =>
        change IsNeutral _ "*".toList
        exact isNeutral_word (by decide) (by decide)
  have inner : ∀ parts : List Identifier.Part,
      IsNeutral dialect.takesBackslash (dialect.innerParts parts) := by
    intro parts
    induction parts with
    | nil => exact isNeutral_nil
    | cons head tail ih =>
        have behind : IsNeutral dialect.takesBackslash
            ((dialect.partText head).toList ++ dialect.innerParts tail) := by
          refine (part head).append ih ?_
          cases tail <;> simp [innerParts, isWordCharacter]
        refine ⟨behind.1.cons rfl, ?_⟩
        rw [innerParts, List.flatMap_cons, List.cons_append]
        exact (hasBareOr_cons rfl rfl behind.1).not.mpr behind.2
  obtain ⟨_ | ⟨first, rest⟩⟩ := identifier
  · exact absurd rfl (Identifier.parts_ne_nil valid)
  · rw [toList_identifierText]
    refine (part first).append (inner rest) ?_
    cases rest <;> simp [innerParts, isWordCharacter]

end Dialect

namespace NamedDialect

variable {name : String}

theorem mySql_walk_escapeCharacter {character : Char} {escape : String}
    (done : escapeCharacter ⟨.mySql, name⟩ character = .ok escape) :
    walk true (.quoted '\'' 0) escape.toList = some ([], .quoted '\'' 0) := by
  unfold escapeCharacter at done
  cases found : Dialect.mySql.lexicon.escapes.find? character with
  | some known =>
      obtain rfl : known = escape := by simpa [found] using done
      have listed := (Table.mem_entries_iff _).mpr found
      simp only [mySql_escapes_entries, List.mem_cons, List.not_mem_nil, or_false,
        Prod.mk.injEq] at listed
      rcases listed with ⟨rfl, rfl⟩ | ⟨rfl, rfl⟩ | ⟨rfl, rfl⟩ | ⟨rfl, rfl⟩ | ⟨rfl, rfl⟩ |
        ⟨rfl, rfl⟩ | ⟨rfl, rfl⟩ <;> rfl
  | none =>
      have unlisted : character ∉ Dialect.mySql.lexicon.escapes.keys := by
        simp [Table.mem_keys_iff, found]
      simp only [Table.keys, mySql_escapes_entries, List.map_cons, List.map_nil, List.mem_cons,
        List.not_mem_nil, or_false, not_or] at unlisted
      obtain ⟨null, -, -, -, -, quote, backslash⟩ := unlisted
      have unquoted : character ≠ Dialect.mySql.lexicon.textQuote := quote
      obtain rfl : character.toString = escape := by simpa [found, unquoted, null] using done
      simp [walk, Place.next?, quote, backslash]

theorem mySql_walk_escapeCharacters {content : List Char} {escaped : String}
    (done : escapeCharacters ⟨.mySql, name⟩ content = .ok escaped) :
    walk true (.quoted '\'' 0) escaped.toList = some ([], .quoted '\'' 0) := by
  induction content generalizing escaped with
  | nil =>
      obtain rfl : "" = escaped := by simpa [escapeCharacters] using done
      rfl
  | cons character rest ih =>
      rw [escapeCharacters, bind_eq_ok_iff] at done
      obtain ⟨escape, here, done⟩ := done
      obtain ⟨others, later, rfl⟩ := map_eq_ok_iff.mp done
      rw [String.toList_append]
      exact walk_append (mySql_walk_escapeCharacter here) (ih later)

theorem mySql_isNeutral_quoteText {content text : String}
    (done : quoteText ⟨.mySql, name⟩ content = .ok text) : IsNeutral true text.toList := by
  obtain ⟨escaped, written, rfl⟩ := map_eq_ok_iff.mp done
  have opening : walk true (.outside 0) ['\''] = some (['\''], .quoted '\'' 0) := rfl
  have closing : walk true (.quoted '\'' 0) ['\''] = some (['\''], .outside 0) := rfl
  have whole := walk_append (walk_append opening (mySql_walk_escapeCharacters written)) closing
  have shown : surface? true (['\''] ++ escaped.toList ++ ['\'']) = some ['\'', '\''] :=
    surface?_eq_some_iff.mpr whole
  have text : ("'" ++ escaped ++ "'").toList = ['\''] ++ escaped.toList ++ ['\''] := by
    simp [String.toList_append]
  change IsNeutral true ("'" ++ escaped ++ "'").toList
  rw [text]
  exact isNeutral_of_surface? shown (by simp)

end NamedDialect

namespace BundledDialect

variable (bundled : BundledDialect)

theorem takesBackslash_eq : bundled.dialect.takesBackslash = decide (bundled = .mySql) := by
  cases bundled <;> decide

theorem isNeutral_ownWord : ∀ word ∈ bundled.dialect.ownWords, ∀ text ∈ word,
    IsNeutral bundled.dialect.takesBackslash text.toList := by
  cases bundled <;> decide +kernel

theorem isNeutral_quoteText {name content text : String}
    (done : quoteText name bundled.dialect content = .ok text) :
    IsNeutral bundled.dialect.takesBackslash text.toList := by
  rw [takesBackslash_eq]
  by_cases doubling : bundled = .mySql
  · subst doubling
    exact NamedDialect.mySql_isNeutral_quoteText done
  · rw [NamedDialect.toList_of_quoteText done (doublesQuotes doubling), textQuote_eq]
    exact isNeutral_quoted rfl (by simp [doubling]) content.toList

theorem quotedIdentifiers_eq : bundled.dialect.conventions.quotedIdentifiers = true := by
  cases bundled <;> rfl

theorem isNeutral_nameText (name : String) :
    IsNeutral bundled.dialect.takesBackslash (bundled.dialect.nameText name).toList := by
  have marks : isQuoteMark bundled.dialect.lexicon.identifierQuote = true := by
    cases bundled <;> rfl
  have unescaped : bundled.dialect.takesBackslash →
      bundled.dialect.lexicon.identifierQuote = '\x60' := by
    cases bundled <;> decide
  rw [Dialect.toList_nameText bundled.quotedIdentifiers_eq]
  exact isNeutral_quoted marks unescaped name.toList

theorem apart_nameText (name : String) : ∀ character ∈ (bundled.dialect.nameText name).toList.head?,
    isWordCharacter character = false := by
  have apart : isWordCharacter bundled.dialect.lexicon.identifierQuote = false := by
    cases bundled <;> decide
  rw [Dialect.toList_nameText bundled.quotedIdentifiers_eq]
  simpa using apart

theorem isNeutral_excluded (column : String) :
    IsNeutral bundled.dialect.takesBackslash
      (bundled.dialect.lexicon.excludedOpening.toList ++ (bundled.dialect.nameText column).toList
        ++ bundled.dialect.lexicon.excludedClosing.toList) := by
  have ways :
      (bundled.dialect.lexicon.excludedOpening = "VALUES(" ∧
        bundled.dialect.lexicon.excludedClosing = ")") ∨
      (bundled.dialect.lexicon.excludedOpening = "EXCLUDED." ∧
        bundled.dialect.lexicon.excludedClosing = "") := by
    cases bundled <;> first | exact .inl ⟨rfl, rfl⟩ | exact .inr ⟨rfl, rfl⟩
  have name := bundled.isNeutral_nameText column
  rcases ways with ⟨opening, closing⟩ | ⟨opening, closing⟩
  · have word : IsNeutral bundled.dialect.takesBackslash "VALUES".toList :=
      isNeutral_word (by decide) (by decide)
    have value : IsNeutral bundled.dialect.takesBackslash
        ('(' :: ((bundled.dialect.nameText column).toList ++ [')'])) :=
      ⟨name.1.parenthesized, name.1.not_hasBareOr_parenthesized⟩
    simpa [opening, closing] using word.append value (by simp [isWordCharacter])
  · have word : IsNeutral bundled.dialect.takesBackslash "EXCLUDED.".toList :=
      isNeutral_word (by decide) (by decide)
    simpa [opening, closing] using word.append name (bundled.apart_nameText column)

theorem isNeutral_blobText (bytes : List UInt8) :
    IsNeutral bundled.dialect.takesBackslash (bundled.dialect.blobText bytes).toList := by
  have ways :
      (bundled.dialect.lexicon.blobOpening = "X'" ∧ bundled.dialect.lexicon.blobClosing = "'") ∨
      (bundled.dialect.lexicon.blobOpening = "'\\x" ∧ bundled.dialect.lexicon.blobClosing = "'" ∧
        bundled.dialect.takesBackslash = false) ∨
      (bundled.dialect.lexicon.blobOpening = "0x" ∧ bundled.dialect.lexicon.blobClosing = "") := by
    cases bundled <;>
      first
        | exact .inl ⟨rfl, rfl⟩
        | exact .inr (.inr ⟨rfl, rfl⟩)
        | exact .inr (.inl ⟨rfl, rfl, takesBackslash_eq _⟩)
  have within : ∀ character ∈ bytes.flatMap Text.hexByte,
      character ≠ '\'' ∧ character ≠ '\\' := by
    intro character member
    obtain ⟨value, bound, rfl⟩ := exists_digit_of_mem_hexBytes member
    exact digitChar_ne value bound
  rcases ways with ⟨opening, closing⟩ | ⟨opening, closing, unescaped⟩ | ⟨opening, closing⟩
  · have quoted : surface? bundled.dialect.takesBackslash
        ('\'' :: (bytes.flatMap Text.hexByte ++ ['\''])) = some ['\'', '\''] :=
      surface?_within rfl fun character member =>
        ⟨(within character member).1, fun _ => (within character member).2⟩
    have letter : surface? bundled.dialect.takesBackslash ['X'] = some ['X'] := rfl
    have whole := isNeutral_of_surface? (surface?_append letter quoted) (by simp)
    simpa [Dialect.blobText, opening, closing] using whole
  · have quoted : surface? bundled.dialect.takesBackslash
        ('\'' :: ('\\' :: 'x' :: bytes.flatMap Text.hexByte ++ ['\''])) = some ['\'', '\''] :=
      surface?_within rfl (by
        simpa [unescaped] using fun character member => (within character member).1)
    have whole := isNeutral_of_surface? quoted (by simp)
    simpa [Dialect.blobText, opening, closing] using whole
  · have digits : ∀ character ∈ '0' :: 'x' :: bytes.flatMap Text.hexByte,
        isOrdinary character ∧ character.toUpper ≠ 'O' := by
      refine List.forall_mem_cons.mpr ⟨by decide, List.forall_mem_cons.mpr ⟨by decide, ?_⟩⟩
      intro character member
      obtain ⟨value, bound, rfl⟩ := exists_digit_of_mem_hexBytes member
      exact ordinary_of_digitChar value bound
    have whole : IsNeutral bundled.dialect.takesBackslash _ := isNeutral_of_ordinary digits
    simpa [Dialect.blobText, opening, closing] using whole

theorem isNeutral_literalText {name : String} {value : Value} {text : String}
    (done : NamedDialect.literalText ⟨bundled.dialect, name⟩ value = .ok text) :
    IsNeutral bundled.dialect.takesBackslash text.toList := by
  have word := bundled.isNeutral_ownWord
  cases value with
  | null =>
      obtain rfl : bundled.dialect.lexicon.nullText = text := Except.ok.inj done
      exact word (some bundled.dialect.lexicon.nullText) (by simp [Dialect.ownWords]) _ rfl
  | boolean truth =>
      obtain rfl : bundled.dialect.booleanText truth = text := Except.ok.inj done
      refine word (some (bundled.dialect.booleanText truth)) ?_ _ rfl
      cases truth <;> simp [Dialect.ownWords, Dialect.booleanText]
  | integer number =>
      obtain rfl : toString number.toInt = text := Except.ok.inj done
      refine isNeutral_of_ordinary fun character member => ordinary_of_isDecimal ?_
      simp [isDecimal, isNumeral_of_mem_intText member]
  | float number =>
      simp only [NamedDialect.literalText] at done
      split at done
      · next finite =>
        obtain rfl : number.text = text := Except.ok.inj done
        exact isNeutral_of_ordinary fun character member =>
          ordinary_of_isDecimal (number.isDecimal_of_mem_text finite member)
      · cases done
  | text content => exact bundled.isNeutral_quoteText done
  | blob bytes =>
      obtain rfl : bundled.dialect.blobText bytes = text := Except.ok.inj done
      exact bundled.isNeutral_blobText bytes
  | timestamp time =>
      simp only [NamedDialect.literalText, NamedDialect.timeText] at done
      split at done
      · exact bundled.isNeutral_quoteText done
      · cases done

theorem apart_nulls :
    ∀ word ∈ [bundled.dialect.keywords.nullsFirst, bundled.dialect.keywords.nullsLast],
      ∀ text ∈ word, ∀ character ∈ text.toList.head?, isWordCharacter character = false := by
  have apart :
      ∀ word ∈ [bundled.dialect.keywords.nullsFirst, bundled.dialect.keywords.nullsLast],
        ∀ text ∈ word, text.toList.head?.any isWordCharacter = false := by
    cases bundled <;> decide
  intro word listed text written character member
  have known := apart word listed text written
  rwa [Option.mem_def.mp member] at known

theorem neutral : bundled.dialect.Neutral where
  word := bundled.isNeutral_ownWord
  nulls := bundled.apart_nulls
  name := bundled.isNeutral_nameText
  excluded := bundled.isNeutral_excluded
  literal := bundled.isNeutral_literalText

end BundledDialect

end SqlDialects
