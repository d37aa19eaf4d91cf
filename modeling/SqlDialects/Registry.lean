import SqlDialects.Compile
import SqlDialects.Dialect.Bundled

/-!
Dialects by name. The standard dialect is always there under the name `default`, and the last
registration of a name counts.
-/

namespace SqlDialects

abbrev Registry := Table String Dialect

namespace Registry

def initial : Registry :=
  Table.empty.insert BundledDialect.standard.name .standard

def register (registry : Registry) (name : String) (dialect : Dialect) : Registry :=
  registry.insert name dialect

def registerBundled (registry : Registry) (bundled : BundledDialect) : Registry :=
  registry.register bundled.name bundled.dialect

/-- The bundled dialects apart from the standard one. -/
def registerAllBundled (registry : Registry) : Registry :=
  [BundledDialect.postgres, .mySql, .sqlite, .sqlServer].foldl registerBundled registry

def bundled : Registry :=
  initial.registerAllBundled

def lookup (registry : Registry) (name : String) : Except Failure Dialect :=
  match registry.find? name with
  | some dialect => .ok dialect
  | none => .error (.unknownDialect name)

def names (registry : Registry) : List String :=
  registry.keys

def compile (registry : Registry) (statement : Statement) (name : String) (mode : Mode) :
    Except Failure Compiled :=
  (registry.lookup name).bind fun dialect => SqlDialects.compile statement name dialect mode

end Registry

end SqlDialects
