import SqlDialects.Dialect.MySql
import SqlDialects.Dialect.Postgres
import SqlDialects.Dialect.Sqlite
import SqlDialects.Dialect.SqlServer

/-!
The dialects that come with the library, by name.
-/

namespace SqlDialects

inductive BundledDialect where
  | standard
  | mySql
  | postgres
  | sqlite
  | sqlServer
deriving DecidableEq, Repr

namespace BundledDialect

def all : List BundledDialect :=
  [.standard, .mySql, .postgres, .sqlite, .sqlServer]

def name : BundledDialect → String
  | .standard => "default"
  | .mySql => "mysql"
  | .postgres => "postgres"
  | .sqlite => "sqlite"
  | .sqlServer => "sqlserver"

def dialect : BundledDialect → Dialect
  | .standard => .standard
  | .mySql => .mySql
  | .postgres => .postgres
  | .sqlite => .sqlite
  | .sqlServer => .sqlServer

def find? (name : String) : Option BundledDialect :=
  all.find? fun bundled => bundled.name = name

end BundledDialect

end SqlDialects
