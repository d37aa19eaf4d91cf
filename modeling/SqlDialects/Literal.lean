import SqlDialects.Dialect
import SqlDialects.Draft
import SqlDialects.TimePattern

/-!
Literals. Null is text under every dialect and a float must be finite; every other value is left
to the writer, which either binds it to a placeholder or writes it into the text.
-/

namespace SqlDialects

open Draft

namespace Dialect

def booleanText (dialect : Dialect) (truth : Bool) : String :=
  if truth then dialect.lexicon.trueText else dialect.lexicon.falseText

def blobText (dialect : Dialect) (bytes : List UInt8) : String :=
  dialect.lexicon.blobOpening ++ String.ofList (bytes.flatMap Text.hexByte)
    ++ dialect.lexicon.blobClosing

/-- The placeholder of the value after so many others. -/
def placeholderText (dialect : Dialect) (count : Nat) : String :=
  if dialect.conventions.numberedPlaceholders then
    dialect.lexicon.placeholder ++ toString (count + 1)
  else dialect.lexicon.placeholder

def bindValue (dialect : Dialect) (count : Nat) (value : Value) : Except Failure Compiled :=
  .ok ⟨dialect.placeholderText count, [value]⟩

def valueDraft (dialect : Dialect) : Value → Draft
  | .null => ofText dialect.lexicon.nullText
  | .float number =>
      if number.isFinite then [.value .literal (.float number)] else invalid (.nonFinite number)
  | other => [.value .literal other]

end Dialect

namespace NamedDialect

/-- A character of a text literal: its escape if it has one; the quote and the null character must
have one. -/
def escapeCharacter (dialect : NamedDialect) (character : Char) : Except Failure String :=
  match dialect.lexicon.escapes.find? character with
  | some escape => .ok escape
  | none =>
      if character = dialect.lexicon.textQuote || character = '\x00' then
        .error (.unescapable character dialect.name)
      else .ok character.toString

def escapeCharacters (dialect : NamedDialect) : List Char → Except Failure String
  | [] => .ok ""
  | character :: rest =>
      (dialect.escapeCharacter character).bind fun escaped =>
        (dialect.escapeCharacters rest).map (escaped ++ ·)

def quoteText (dialect : NamedDialect) (text : String) : Except Failure String :=
  (dialect.escapeCharacters text.toList).map fun escaped =>
    let quote := dialect.lexicon.textQuote.toString
    quote ++ escaped ++ quote

def timeText (dialect : NamedDialect) (time : Timestamp) : Except Failure String :=
  match TimePattern.format? dialect.lexicon.timePattern time with
  | some text => dialect.quoteText text
  | none => .error (.misconfigured (.timePattern dialect.lexicon.timePattern) dialect.name)

def literalText (dialect : NamedDialect) : Value → Except Failure String
  | .null => .ok dialect.lexicon.nullText
  | .boolean truth => .ok (dialect.booleanText truth)
  | .integer number => .ok (toString number.toInt)
  | .float number =>
      if number.isFinite then .ok number.text else .error (.invalid (.nonFinite number))
  | .text content => dialect.quoteText content
  | .blob bytes => .ok (dialect.blobText bytes)
  | .timestamp time => dialect.timeText time

def inlineValue (dialect : NamedDialect) (_count : Nat) (value : Value) : Except Failure Compiled :=
  (dialect.literalText value).map fun text => ⟨text, []⟩

end NamedDialect

namespace Draft

/-- The first number of rows that is no integer of 64 bits. -/
def rowCountBound : Nat := 9223372036854775808

def rowCount (rows : Nat) : Draft :=
  if rows < rowCountBound then [.value .rowCount (.integer (Int64.ofNat rows))]
  else invalid (.rowCount rows)

end Draft

end SqlDialects
