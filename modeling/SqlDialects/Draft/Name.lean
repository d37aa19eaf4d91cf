import SqlDialects.Dialect
import SqlDialects.Draft

/-!
Names inside a statement. A quoted name doubles its quote and a star is never quoted.
-/

namespace SqlDialects

open Draft

namespace Dialect

def doubleQuote (quote : Char) : List Char → List Char
  | [] => []
  | character :: rest =>
      if character = quote then quote :: quote :: doubleQuote quote rest
      else character :: doubleQuote quote rest

def nameText (dialect : Dialect) (name : String) : String :=
  if dialect.conventions.quotedIdentifiers then
    let quote := dialect.lexicon.identifierQuote
    String.ofList (quote :: doubleQuote quote name.toList ++ [quote])
  else name

def partText (dialect : Dialect) : Identifier.Part → String
  | .name text => dialect.nameText text
  | .star => "*"

def identifierText (dialect : Dialect) (identifier : Identifier) : String :=
  ".".intercalate (identifier.parts.map dialect.partText)

def nameDraft (dialect : Dialect) (name : String) : Draft :=
  ofText (dialect.nameText name)

def nameListDraft (dialect : Dialect) (names : List String) : Draft :=
  commaSeparated (names.map dialect.nameDraft)

def identifierDraft (dialect : Dialect) (identifier : Identifier) : Draft :=
  match identifier.flaw? with
  | some flaw => invalid (.identifier identifier flaw)
  | none => ofText (dialect.identifierText identifier)

end Dialect

end SqlDialects
