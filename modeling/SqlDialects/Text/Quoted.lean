import SqlDialects.Text.Extending
import SqlDialects.Text.Ignorable
import SqlDialects.Text.Unprintable

/-!
Hexadecimal digits, and the quoting of text inside messages. The quote itself, the backslash and
the common control characters take a backslash. Any other character that would not be seen, or
would be drawn over the one before it, is written by its code point.
-/

namespace SqlDialects.Text

def hexDigits (number : Nat) : String :=
  String.ofList (Nat.toDigits 16 number)

def hexByte (byte : UInt8) : List Char :=
  [Nat.digitChar (byte.toNat / 16), Nat.digitChar (byte.toNat % 16)]

def isPlain (character : Char) : Bool :=
  !unprintable.holds character.toNat && !ignorable.holds character.toNat
    && !extending.holds character.toNat

def quotedCharacter (quote character : Char) : String :=
  if character = quote || character = '\\' then String.ofList ['\\', character]
  else if character = '\x00' then "\\0"
  else if character = '\t' then "\\t"
  else if character = '\r' then "\\r"
  else if character = '\n' then "\\n"
  else if isPlain character then character.toString
  else "\\u\x7b" ++ hexDigits character.toNat ++ "\x7d"

def quotedText (text : String) : String :=
  "\"" ++ String.join (text.toList.map (quotedCharacter '"')) ++ "\""

def quotedSymbol (character : Char) : String :=
  "'" ++ quotedCharacter '\'' character ++ "'"

end SqlDialects.Text
