import SqlDialects.Binary64
import SqlDialects.Timestamp

/-!
The values that a literal of a statement may have.
-/

namespace SqlDialects

inductive Value where
  | null
  | boolean (truth : Bool)
  | integer (number : Int64)
  | float (number : Binary64)
  | text (content : String)
  | blob (bytes : List UInt8)
  | timestamp (time : Timestamp)
deriving DecidableEq

namespace Value

def kind : Value → String
  | .null => "null"
  | .boolean _ => "bool"
  | .integer _ => "int"
  | .float _ => "float"
  | .text _ => "text"
  | .blob _ => "blob"
  | .timestamp _ => "timestamp"

def isNull : Value → Bool
  | .null => true
  | _ => false

def isNullOrBoolean : Value → Bool
  | .null | .boolean _ => true
  | _ => false

def boolean? : Value → Option Bool
  | .boolean truth => some truth
  | _ => none

/-- Equality of values, where floats are compared as numbers. -/
def same : Value → Value → Bool
  | .float left, .float right => left.same right
  | left, right => left = right

end Value

end SqlDialects
