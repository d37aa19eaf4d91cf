/-!
Sets of characters, as closed ranges of code points that ascend and do not touch. The search for a
code point stops at the first range that lies behind it.
-/

namespace SqlDialects.Text

namespace CharacterSet

/-- Each range is in order, and a gap parts it from the next one. -/
def isAscending : List (Nat × Nat) → Bool
  | [] => true
  | [range] => range.1 ≤ range.2
  | range :: next :: rest =>
      range.1 ≤ range.2 && range.2 + 1 < next.1 && isAscending (next :: rest)

def covers (codePoint : Nat) : List (Nat × Nat) → Bool
  | [] => false
  | range :: rest =>
      if codePoint < range.1 then false else codePoint ≤ range.2 || covers codePoint rest

end CharacterSet

structure CharacterSet where
  ranges : List (Nat × Nat)
  ascending : CharacterSet.isAscending ranges = true

namespace CharacterSet

def holds (set : CharacterSet) (codePoint : Nat) : Bool :=
  covers codePoint set.ranges

end CharacterSet

end SqlDialects.Text
