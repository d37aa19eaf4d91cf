/-!
Documents: null, booleans, numbers, texts, lists and objects with named fields.
-/

namespace SqlDialects

/-- A number is `mantissa * 10 ^ (-exponent)`. -/
inductive Document where
  | null
  | boolean (truth : Bool)
  | number (mantissa : Int) (exponent : Nat)
  | text (text : String)
  | list (items : List Document)
  | object (fields : List (String × Document))
deriving Inhabited

namespace Document

def field? (name : String) (fields : List (String × Document)) : Option Document :=
  (fields.find? fun field => field.1 = name).map Prod.snd

end Document

end SqlDialects
