import SqlDialects.Dialect.Bundled
import SqlDialects.Document.Codec

/-!
Dialects as documents. A document is an object with one field for each setting; a document that
lacks some of the fields changes only the others, and fields of other names are ignored.
-/

namespace SqlDialects

/-- A setting of a dialect, by name. -/
structure Setting where
  name : String
  Content : Type
  codec : Codec Content
  get : Dialect → Content
  set : Dialect → Content → Dialect

namespace Setting

def of {Content : Type} (name : String) (codec : Codec Content) (get : Dialect → Content)
    (set : Dialect → Content → Dialect) : Setting :=
  ⟨name, Content, codec, get, set⟩

def encode (setting : Setting) (dialect : Dialect) : String × Document :=
  (setting.name, setting.codec.encode (setting.get dialect))

def change? (setting : Setting) (dialect : Dialect) (document : Document) : Option Dialect :=
  (setting.codec.decode? document).map (setting.set dialect)

def changeFrom? (fields : List (String × Document)) (dialect : Dialect) (setting : Setting) :
    Option Dialect :=
  match Document.field? setting.name fields with
  | some document => setting.change? dialect document
  | none => some dialect

def differs (setting : Setting) (left right : Dialect) : Bool :=
  !setting.codec.same (setting.get left) (setting.get right)

end Setting

namespace Dialect

def settings : List Setting :=
  [.of "supports_returning" .boolean (·.capabilities.returning)
      fun dialect content => { dialect with capabilities.returning := content },
    .of "supports_on_conflict" .boolean (·.capabilities.onConflict)
      fun dialect content => { dialect with capabilities.onConflict := content },
    .of "supports_conflict_target" .boolean (·.capabilities.conflictTarget)
      fun dialect content => { dialect with capabilities.conflictTarget := content },
    .of "supports_conflict_update_where" .boolean (·.capabilities.conflictCondition)
      fun dialect content => { dialect with capabilities.conflictCondition := content },
    .of "supports_insert_ignore_syntax" .boolean (·.capabilities.insertIgnore)
      fun dialect content => { dialect with capabilities.insertIgnore := content },
    .of "conflict_update_requires_target" .boolean (·.conventions.conflictUpdateNeedsTarget)
      fun dialect content => { dialect with conventions.conflictUpdateNeedsTarget := content },
    .of "supports_with_cte" .boolean (·.capabilities.commonTables)
      fun dialect content => { dialect with capabilities.commonTables := content },
    .of "supports_with_cte_recursive" .boolean (·.capabilities.recursiveTables)
      fun dialect content => { dialect with capabilities.recursiveTables := content },
    .of "supports_distinct_on" .boolean (·.capabilities.distinctOn)
      fun dialect content => { dialect with capabilities.distinctOn := content },
    .of "supports_window_function" .boolean (·.capabilities.windows)
      fun dialect content => { dialect with capabilities.windows := content },
    .of "supports_limit_on_update" .boolean (·.capabilities.limitOnUpdate)
      fun dialect content => { dialect with capabilities.limitOnUpdate := content },
    .of "supports_order_by_on_update" .boolean (·.capabilities.orderOnUpdate)
      fun dialect content => { dialect with capabilities.orderOnUpdate := content },
    .of "supports_limit_on_delete" .boolean (·.capabilities.limitOnDelete)
      fun dialect content => { dialect with capabilities.limitOnDelete := content },
    .of "supports_order_by_on_delete" .boolean (·.capabilities.orderOnDelete)
      fun dialect content => { dialect with capabilities.orderOnDelete := content },
    .of "supports_multiple_update_tables" .boolean (·.capabilities.furtherTables)
      fun dialect content => { dialect with capabilities.furtherTables := content },
    .of "use_from_clause_for_multiple_update_tables" .boolean (·.conventions.furtherTablesInFrom)
      fun dialect content => { dialect with conventions.furtherTablesInFrom := content },
    .of "wrap_compounds_in_parens" .boolean (·.conventions.compoundsInParentheses)
      fun dialect content => { dialect with conventions.compoundsInParentheses := content },
    .of "boolean_data_type_supported" .boolean (·.conventions.booleanType)
      fun dialect content => { dialect with conventions.booleanType := content },
    .of "use_literal_is_bools" .boolean (·.conventions.plainBooleanTests)
      fun dialect content => { dialect with conventions.plainBooleanTests := content },
    .of "quote_identifiers" .boolean (·.conventions.quotedIdentifiers)
      fun dialect content => { dialect with conventions.quotedIdentifiers := content },
    .of "quote_rune" .character (·.lexicon.identifierQuote)
      fun dialect content => { dialect with lexicon.identifierQuote := content },
    .of "string_quote" .character (·.lexicon.textQuote)
      fun dialect content => { dialect with lexicon.textQuote := content },
    .of "placeholder_fragment" .text (·.lexicon.placeholder)
      fun dialect content => { dialect with lexicon.placeholder := content },
    .of "include_placeholder_num" .boolean (·.conventions.numberedPlaceholders)
      fun dialect content => { dialect with conventions.numberedPlaceholders := content },
    .of "escaped_runes" .escapes (·.lexicon.escapes)
      fun dialect content => { dialect with lexicon.escapes := content },
    .of "null_literal" .text (·.lexicon.nullText)
      fun dialect content => { dialect with lexicon.nullText := content },
    .of "true_literal" .text (·.lexicon.trueText)
      fun dialect content => { dialect with lexicon.trueText := content },
    .of "false_literal" .text (·.lexicon.falseText)
      fun dialect content => { dialect with lexicon.falseText := content },
    .of "time_format" .text (·.lexicon.timePattern)
      fun dialect content => { dialect with lexicon.timePattern := content },
    .of "blob_prefix" .text (·.lexicon.blobOpening)
      fun dialect content => { dialect with lexicon.blobOpening := content },
    .of "blob_suffix" .text (·.lexicon.blobClosing)
      fun dialect content => { dialect with lexicon.blobClosing := content },
    .of "empty_list_fragment" .text (·.lexicon.emptyTuple)
      fun dialect content => { dialect with lexicon.emptyTuple := content },
    .of "excluded_prefix" .text (·.lexicon.excludedOpening)
      fun dialect content => { dialect with lexicon.excludedOpening := content },
    .of "excluded_suffix" .text (·.lexicon.excludedClosing)
      fun dialect content => { dialect with lexicon.excludedClosing := content },
    .of "with_fragment" .text (·.keywords.commonTables)
      fun dialect content => { dialect with keywords.commonTables := content },
    .of "recursive_fragment" .text (·.keywords.recursive)
      fun dialect content => { dialect with keywords.recursive := content },
    .of "select_clause" .text (·.keywords.select)
      fun dialect content => { dialect with keywords.select := content },
    .of "distinct_fragment" .text (·.keywords.distinct)
      fun dialect content => { dialect with keywords.distinct := content },
    .of "insert_clause" .text (·.keywords.insert)
      fun dialect content => { dialect with keywords.insert := content },
    .of "insert_ignore_clause" .text (·.keywords.insertIgnore)
      fun dialect content => { dialect with keywords.insertIgnore := content },
    .of "update_clause" .text (·.keywords.update)
      fun dialect content => { dialect with keywords.update := content },
    .of "delete_clause" .text (·.keywords.delete)
      fun dialect content => { dialect with keywords.delete := content },
    .of "truncate_clause" .text (·.keywords.truncate)
      fun dialect content => { dialect with keywords.truncate := content },
    .of "default_values_fragment" .text (·.keywords.defaultValues)
      fun dialect content => { dialect with keywords.defaultValues := content },
    .of "conflict_fragment" .text (·.keywords.onConflict)
      fun dialect content => { dialect with keywords.onConflict := content },
    .of "conflict_do_nothing_fragment" .text (·.keywords.doNothing)
      fun dialect content => { dialect with keywords.doNothing := content },
    .of "conflict_do_update_fragment" .text (·.keywords.doUpdate)
      fun dialect content => { dialect with keywords.doUpdate := content },
    .of "returning_fragment" .text (·.keywords.returning)
      fun dialect content => { dialect with keywords.returning := content },
    .of "cascade_fragment" .optionalText (·.keywords.cascade)
      fun dialect content => { dialect with keywords.cascade := content },
    .of "restrict_fragment" .optionalText (·.keywords.restrict)
      fun dialect content => { dialect with keywords.restrict := content },
    .of "restart_identity_fragment" .optionalText (·.keywords.restartIdentity)
      fun dialect content => { dialect with keywords.restartIdentity := content },
    .of "nulls_first_fragment" .optionalText (·.keywords.nullsFirst)
      fun dialect content => { dialect with keywords.nullsFirst := content },
    .of "nulls_last_fragment" .optionalText (·.keywords.nullsLast)
      fun dialect content => { dialect with keywords.nullsLast := content },
    .of "nowait_fragment" .optionalText (·.keywords.noWait)
      fun dialect content => { dialect with keywords.noWait := content },
    .of "skip_locked_fragment" .optionalText (·.keywords.skipLocked)
      fun dialect content => { dialect with keywords.skipLocked := content },
    .of "boolean_operator_lookup" .spellings (·.operators.comparison)
      fun dialect content => { dialect with operators.comparison := content },
    .of "bitwise_operator_lookup" .spellings (·.operators.bitwise)
      fun dialect content => { dialect with operators.bitwise := content },
    .of "join_type_lookup" .spellings (·.operators.join)
      fun dialect content => { dialect with operators.join := content },
    .of "compound_lookup" .spellings (·.operators.compound)
      fun dialect content => { dialect with operators.compound := content },
    .of "lock_lookup" .spellings (·.operators.lock)
      fun dialect content => { dialect with operators.lock := content },
    .of "select_sql_order" .sequence (·.orders.select)
      fun dialect content => { dialect with orders.select := content },
    .of "insert_sql_order" .sequence (·.orders.insert)
      fun dialect content => { dialect with orders.insert := content },
    .of "update_sql_order" .sequence (·.orders.update)
      fun dialect content => { dialect with orders.update := content },
    .of "delete_sql_order" .sequence (·.orders.delete)
      fun dialect content => { dialect with orders.delete := content },
    .of "truncate_sql_order" .sequence (·.orders.truncate)
      fun dialect content => { dialect with orders.truncate := content }]

def toDocument (dialect : Dialect) : List (String × Document) :=
  settings.map fun setting => setting.encode dialect

def override? (dialect : Dialect) (fields : List (String × Document)) : Option Dialect :=
  settings.foldlM (Setting.changeFrom? fields) dialect

/-- The dialect with its first settings changed, one for each document of the list. -/
def overrideInOrder? (dialect : Dialect) : List Setting → List Document → Option Dialect
  | _, [] => some dialect
  | [], _ :: _ => none
  | setting :: settings, document :: documents =>
      (setting.change? dialect document).bind fun changed =>
        overrideInOrder? changed settings documents

/-- A document overrides the standard dialect, by the names of the settings or by their order. -/
def ofDocument? : Document → Option Dialect
  | .object fields => override? standard fields
  | .list documents => overrideInOrder? standard settings documents
  | _ => none

def differences (dialect : Dialect) : List (String × Document) :=
  (settings.filter fun setting => setting.differs standard dialect).map fun setting =>
    setting.encode dialect

end Dialect

namespace BundledDialect

/-- A bundled dialect overridden by a document; the others than the standard one by name only. -/
def revise? (bundled : BundledDialect) (document : Document) : Option Dialect :=
  match bundled, document with
  | .standard, document => Dialect.ofDocument? document
  | other, .object fields => other.dialect.override? fields
  | _, _ => none

end BundledDialect

end SqlDialects
