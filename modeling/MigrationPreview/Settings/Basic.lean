import MigrationPreview.Json.Reader
import MigrationPreview.Sql.Dialect
import MigrationPreview.Text.Search
import MigrationPreview.Url.Basic

/-!
# Settings

Where the schema is read from and how a preview is made. Settings come from named variables; those
of the database come from one URL if it is given, and from single variables otherwise. Only the URL
and the name of the dialect can be wrong: numbers that cannot be read fall back to their defaults.

## Main definitions

* `DatabaseSettings`, `AnalysisSettings`, `Settings`: the settings with their defaults
* `SettingsError`: what can be wrong
* `DatabaseSettings.ofUrl`: the settings in a URL
* `Settings.ofVariables`: the settings in some variables
-/

namespace MigrationPreview

/-! ### Settings and errors -/

/-- How to reach the database. -/
structure DatabaseSettings where
  host : String := "localhost"
  port : Nat := 5432
  user : String := "postgres"
  password : String := ""
  database : String := "postgres"
  maxPoolSize : Nat := 10
  requireTls : Bool := false
  deriving DecidableEq

/-- How a preview is made. -/
structure AnalysisSettings where
  /-- The schema to look at. -/
  schema : String := "public"
  dialect : Dialect := .postgres
  /-- The directory in which migrations are looked for. -/
  migrationsPath : String := "database/migrations"
  /-- The file that stands in for the database. -/
  snapshotFile : Option String := none
  /-- The file to which the report is written. -/
  reportPath : Option String := none
  deriving DecidableEq

/-- All settings. -/
structure Settings where
  database : DatabaseSettings := {}
  analysis : AnalysisSettings := {}
  deriving DecidableEq

/-- What can be wrong with settings. -/
inductive SettingsError where
  | missing (what : String)
  | invalid (reason : String)
  deriving DecidableEq

/-- The wording of an error. -/
def SettingsError.message : SettingsError → String
  | missing what => s!"Missing required environment variable: {what}"
  | invalid reason => s!"Invalid configuration value: {reason}"

/-! ### Values of variables -/

/-- The number that a text denotes, if it is at most `limit`: decimal digits, perhaps behind a plus
sign. -/
def boundedNat? (limit : Nat) (text : String) : Option Nat :=
  let digits := match text.toList with
    | '+' :: rest => rest
    | cs => cs
  if digits.isEmpty ∨ !digits.all Char.isDigit then none
  else
    let n := Json.natOfDigits digits
    if n ≤ limit then some n else none

/-- Whether a query asks for an encrypted connection. -/
def asksForTls (query : List Char) : Bool :=
  (Url.queryPairs query).any fun (name, value) =>
    name = "sslmode".toUTF8.data.toList && value = "require".toUTF8.data.toList

namespace DatabaseSettings

/-- The settings in a URL. A host of one known provider always asks for an encrypted
connection. -/
def ofUrl (text : String) (maxPoolSize : Nat) : Except SettingsError DatabaseSettings :=
  match Url.parse? text with
  | none => .error (.invalid "Invalid DATABASE_URL format (expected postgresql://...)")
  | some url =>
    match url.host with
    | none => .error (.invalid "Missing host in DATABASE_URL")
    | some host =>
      let database := url.path.dropWhile (· == '/')
      if database.isEmpty then .error (.missing "database name in DATABASE_URL")
      else .ok {
        host := String.ofList host
        port := url.port.getD 5432
        user := String.ofList url.username
        password := String.ofList url.password
        database := String.ofList database
        maxPoolSize := maxPoolSize
        requireTls := url.query.any asksForTls || Text.contains "neon.tech".toList host }

/-- The settings in single variables. -/
def ofVariables (valueOf? : String → Option String) (maxPoolSize : Nat) : DatabaseSettings where
  host := (valueOf? "DB_HOST").getD "localhost"
  port := ((valueOf? "DB_PORT").bind (boundedNat? 65535)).getD 5432
  user := (valueOf? "DB_USER").getD "postgres"
  password := (valueOf? "DB_PASSWORD").getD ""
  database := (valueOf? "DB_NAME").getD "postgres"
  maxPoolSize := maxPoolSize
  requireTls := valueOf? "DB_SSLMODE" = some "require"

end DatabaseSettings

/-- The dialect in a variable. -/
def dialectOfVariable : Option String → Except SettingsError Dialect
  | none => .ok .postgres
  | some text =>
    match Dialect.parse text with
    | .ok dialect => .ok dialect
    | .error failure => .error (.invalid failure.message)

/-- The settings in some variables. -/
def Settings.ofVariables (valueOf? : String → Option String) : Except SettingsError Settings := do
  let maxPoolSize := ((valueOf? "DB_MAX_CONNECTIONS").bind (boundedNat? (UInt64.size - 1))).getD 10
  let database ← match valueOf? "DATABASE_URL" with
    | some url => DatabaseSettings.ofUrl url maxPoolSize
    | none => .ok (.ofVariables valueOf? maxPoolSize)
  let dialect ← dialectOfVariable (valueOf? "SCHEMA_LENS_SQL_DIALECT")
  return {
    database := database
    analysis := {
      schema := (valueOf? "SCHEMA_LENS_SCHEMA").getD "public"
      dialect := dialect
      migrationsPath := (valueOf? "SCHEMA_LENS_MIGRATIONS_PATH").getD "database/migrations"
      snapshotFile := valueOf? "SCHEMA_LENS_SNAPSHOT_FILE"
      reportPath := valueOf? "SCHEMA_LENS_REPORT_PATH" } }

end MigrationPreview
