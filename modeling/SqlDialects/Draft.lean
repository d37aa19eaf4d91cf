import SqlDialects.Failure

/-!
Drafts. A statement is first drafted as a list of pieces: text, values that are written later, and
faults, each with the failure it leads to. A draft does not depend on whether values are bound or
written into the text; writing a draft decides that, and stops at the first fault.
-/

namespace SqlDialects

inductive Origin where
  | literal
  | rowCount
deriving DecidableEq, Repr

inductive Piece where
  | text (text : String)
  | value (origin : Origin) (value : Value)
  | fault (failure : Failure)
deriving DecidableEq

abbrev Draft := List Piece

namespace Draft

def ofText (text : String) : Draft :=
  [.text text]

def unsupported (dialect : String) (feature : Feature) : Draft :=
  [.fault (.unsupported feature dialect)]

def invalid (defect : Defect) : Draft :=
  [.fault (.invalid defect)]

def misconfigured (dialect : String) (cause : Misconfiguration) : Draft :=
  [.fault (.misconfigured cause dialect)]

/-- A spelling of the dialect, or the fault that it has none. -/
def spelling (dialect : String) (feature : Feature) : Option String → Draft
  | some text => ofText text
  | none => unsupported dialect feature

/-- Nothing, or the fault that a capability is missing. -/
def demand (dialect : String) (capability : Bool) (feature : Feature) : Draft :=
  if capability then [] else unsupported dialect feature

def separated (separator : String) (drafts : List Draft) : Draft :=
  (ofText separator).intercalate drafts

def commaSeparated (drafts : List Draft) : Draft :=
  separated ", " drafts

def enclosed (opening : String) (draft : Draft) (closing : String) : Draft :=
  ofText opening ++ draft ++ ofText closing

def parenthesized (draft : Draft) : Draft :=
  enclosed "(" draft ")"

def parenthesizedIf (nested : Bool) (draft : Draft) : Draft :=
  if nested then parenthesized draft else draft

end Draft

structure Compiled where
  sql : String
  arguments : List Value
deriving DecidableEq

namespace Compiled

def empty : Compiled :=
  ⟨"", []⟩

def append (first second : Compiled) : Compiled :=
  ⟨first.sql ++ second.sql, first.arguments ++ second.arguments⟩

end Compiled

namespace Draft

/-- Writes a draft. The writer of values learns how many values came before. -/
def write (writeValue : Nat → Value → Except Failure Compiled) :
    Nat → Draft → Except Failure Compiled
  | _, [] => .ok .empty
  | count, .text text :: rest =>
      (write writeValue count rest).map (Compiled.append ⟨text, []⟩)
  | count, .value _ value :: rest =>
      (writeValue count value).bind fun written =>
        (write writeValue (count + 1) rest).map written.append
  | _, .fault failure :: _ => .error failure

end Draft

end SqlDialects
