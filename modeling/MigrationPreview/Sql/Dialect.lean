import MigrationPreview.Failure
import MigrationPreview.Json.Form
import MigrationPreview.Text.Blank
import MigrationPreview.Text.Lower

/-!
# SQL dialects

The two databases for which statements can be written, and how each of them quotes identifiers.

## Main definitions

* `Dialect`: the dialects
* `Dialect.parse`: the dialect that a name stands for
* `Dialect.quote`: an identifier in quotes
-/

namespace MigrationPreview

/-- A dialect of SQL. -/
inductive Dialect where
  | postgres
  | mySql
  deriving DecidableEq, Inhabited

instance : Enumerated Dialect where
  all := [.postgres, .mySql]
  name
    | .postgres => "postgres"
    | .mySql => "mysql"

namespace Dialect

/-- The name of a dialect. -/
abbrev name (d : Dialect) : String := Enumerated.name d

/-- The dialect that a name stands for. Case and blanks around the name do not count. -/
def parse (text : String) : Except Failure Dialect :=
  let word := Text.lowercaseString (Text.trimString text)
  if word ∈ ["postgres", "postgresql", "pg"] then .ok postgres
  else if word ∈ ["mysql", "mariadb"] then .ok mySql
  else .error (.configuration s!"Unknown SQL dialect '{word}' (expected postgres or mysql)")

/-- The character around quoted identifiers. -/
def quoteChar : Dialect → Char
  | postgres => '"'
  | mySql => '\x60'

/-- An identifier in quotes, in which a quote is written twice. -/
def quote (d : Dialect) (identifier : String) : String :=
  let q := d.quoteChar
  String.ofList (q :: identifier.toList.flatMap (fun c => if c = q then [q, q] else [c]) ++ [q])

end Dialect

end MigrationPreview
