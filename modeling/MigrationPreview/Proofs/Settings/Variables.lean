import MigrationPreview.Settings.Basic
import Mathlib.Data.List.TakeWhile
import Mathlib.Tactic.ByContra

/-!
# Settings in variables

What settings come from which variables. Only the URL of the database and the name of the dialect can
be wrong, the URL first; a number that cannot be read, or that is too large, leaves the default in
place. The URL takes the place of the six variables that describe the database one by one. Without
it every variable has a field of its own, and no other variable has an influence on this field.

## Main definitions

* `Denotes`, `TakesNumber`: the numbers in variables
* `DatabaseSettings.UrlError`, `SettingsError.Arises`: what is wrong with variables
* `SettingsVariable`: the variables without the URL, each with its field

## Main results

* `Settings.ofVariables_eq_ok_iff`, `Settings.ofVariables_eq_error_iff`: the settings and the errors
* `Settings.ofVariables_spec`: when there are settings, what they are, and on which variables they
  depend
-/

namespace MigrationPreview

variable {valueOf? other : String → Option String} {text : String} {limit default n : Nat}
  {s s' : Settings} {e : SettingsError}

/-! ### Numbers -/

/-- A text of decimal digits, perhaps behind a plus sign, and the number that it stands for. -/
def Denotes (text : String) (n : Nat) : Prop :=
  ∃ digits, (text.toList = digits ∨ text.toList = '+' :: digits) ∧ digits ≠ [] ∧
    (∀ c ∈ digits, c.isDigit) ∧ Json.natOfDigits digits = n

/-- The number that a setting takes from a variable. It is the one that the value denotes, if it is
at most `limit`, and the default in all other cases. -/
inductive TakesNumber (limit default : Nat) : Option String → Nat → Prop where
  | read {text : String} {n : Nat} (h : Denotes text n) (hle : n ≤ limit) :
    TakesNumber limit default (some text) n
  | unset : TakesNumber limit default none default
  | malformed {text : String} (h : ∀ n, ¬Denotes text n) :
    TakesNumber limit default (some text) default
  | outOfRange {text : String} {n : Nat} (h : Denotes text n) (hlt : limit < n) :
    TakesNumber limit default (some text) default

/-- A text without its plus sign. -/
def behindSign : List Char → List Char
  | '+' :: rest => rest
  | cs => cs

/-- Digits do not begin with a plus sign, so there is only one way to read a number. -/
theorem isDigits_iff {cs digits : List Char} :
    (cs = digits ∨ cs = '+' :: digits) ∧ (∀ c ∈ digits, c.isDigit) ↔
      behindSign cs = digits ∧ ∀ c ∈ digits, c.isDigit := by
  apply and_congr_left
  intro hdigits
  unfold behindSign
  split
  next rest =>
    constructor
    · rintro (rfl | heq)
      · exact absurd (hdigits '+' List.mem_cons_self) (by decide)
      · exact (List.cons.inj heq).2
    · rintro rfl
      exact .inr rfl
  next hplus =>
    constructor
    · rintro (rfl | rfl)
      · rfl
      · exact absurd rfl (hplus digits)
    · rintro rfl
      exact .inl rfl

theorem denotes_iff :
    Denotes text n ↔ (∀ c ∈ behindSign text.toList, c.isDigit) ∧ behindSign text.toList ≠ [] ∧
      Json.natOfDigits (behindSign text.toList) = n := by
  have hdenotes : Denotes text n ↔ ∃ digits, ((text.toList = digits ∨ text.toList = '+' :: digits) ∧
      ∀ c ∈ digits, c.isDigit) ∧ digits ≠ [] ∧ Json.natOfDigits digits = n := by
    apply exists_congr
    intro digits
    rw [and_left_comm (a := digits ≠ []), and_assoc]
  rw [hdenotes]
  simp only [isDigits_iff, and_assoc, exists_eq_left']

theorem boundedNat?_eq_some_iff : boundedNat? limit text = some n ↔ Denotes text n ∧ n ≤ limit := by
  have hbounded : boundedNat? limit text =
      if (behindSign text.toList).isEmpty ∨ !(behindSign text.toList).all Char.isDigit then none
      else if Json.natOfDigits (behindSign text.toList) ≤ limit then
        some (Json.natOfDigits (behindSign text.toList))
      else none := rfl
  rw [denotes_iff, hbounded]
  generalize behindSign text.toList = digits
  grind

example : boundedNat? 65535 "+0065535" = some 65535 ∧ boundedNat? 65535 "65536" = none := by decide

theorem takesNumber_getD (limit default : Nat) (value? : Option String) :
    TakesNumber limit default value? ((value?.bind (boundedNat? limit)).getD default) := by
  cases value? with
  | none => exact .unset
  | some text =>
    rw [Option.bind_some]
    cases hbounded : boundedNat? limit text with
    | some n =>
      obtain ⟨hdenotes, hle⟩ := boundedNat?_eq_some_iff.1 hbounded
      exact .read hdenotes hle
    | none =>
      by_cases hnumber : ∃ n, Denotes text n
      · obtain ⟨n, hn⟩ := hnumber
        apply TakesNumber.outOfRange hn
        by_contra hle
        rw [boundedNat?_eq_some_iff.2 ⟨hn, Nat.not_lt.1 hle⟩] at hbounded
        exact absurd hbounded (Option.some_ne_none n)
      · exact .malformed (not_exists.1 hnumber)

/-! ### Results -/

theorem isOk_iff_forall_ne_error {ε α : Type} {result : Except ε α} :
    result.isOk ↔ ∀ e, result ≠ .error e := by
  cases result with
  | error e => exact ⟨nofun, fun h => absurd rfl (h e)⟩
  | ok => exact ⟨fun _ => nofun, fun _ => rfl⟩

theorem exists_of_bind_eq_ok {ε α β : Type} {result : Except ε α} {f : α → Except ε β} {b : β}
    (h : result >>= f = .ok b) : ∃ a, result = .ok a ∧ f a = .ok b := by
  cases result with
  | error => cases h
  | ok a => exact ⟨a, rfl, h⟩

theorem exists_of_bind_eq_error {ε α β : Type} {result : Except ε α} {f : α → Except ε β} {e : ε}
    (h : result >>= f = .error e) : result = .error e ∨ ∃ a, result = .ok a ∧ f a = .error e := by
  cases result with
  | error cause =>
    obtain rfl : cause = e := Except.error.inj h
    exact .inl rfl
  | ok a => exact .inr ⟨a, rfl, h⟩

/-! ### Errors -/

/-- What is wrong with the URL of a database. -/
inductive DatabaseSettings.UrlError (text : String) : SettingsError → Prop where
  | notUrl (h : Url.parse? text = none) :
    UrlError text (.invalid "Invalid DATABASE_URL format (expected postgresql://...)")
  | noHost {url : Url} (h : Url.parse? text = some url) (hhost : url.host = none) :
    UrlError text (.invalid "Missing host in DATABASE_URL")
  | noDatabase {url : Url} {host : List Char} (h : Url.parse? text = some url)
    (hhost : url.host = some host) (hpath : ∀ c ∈ url.path, c = '/') :
    UrlError text (.missing "database name in DATABASE_URL")

theorem DatabaseSettings.ofUrl_eq_error_iff :
    ofUrl text n = .error e ↔ UrlError text e := by
  constructor
  · intro h
    unfold ofUrl at h
    split at h
    next hparse =>
      obtain rfl := Except.error.inj h
      exact .notUrl hparse
    next url hparse =>
      split at h
      next hhost =>
        obtain rfl := Except.error.inj h
        exact .noHost hparse hhost
      next host hhost =>
        dsimp only at h
        split at h
        next hpath =>
          obtain rfl := Except.error.inj h
          apply UrlError.noDatabase hparse hhost
          intro c hc
          simpa using List.dropWhile_eq_nil_iff.1 (List.isEmpty_iff.1 hpath) c hc
        next => cases h
  · intro h
    cases h with
    | notUrl hparse => simp only [ofUrl, hparse]
    | noHost hparse hhost => simp only [ofUrl, hparse, hhost]
    | @noDatabase url host hparse hhost hpath =>
      have hdrop : url.path.dropWhile (· == '/') = [] :=
        List.dropWhile_eq_nil_iff.2 fun c hc => beq_iff_eq.2 (hpath c hc)
      simp only [ofUrl, hparse, hhost, hdrop, List.isEmpty_nil, if_true]

theorem DatabaseSettings.maxPoolSize_of_ofUrl {database : DatabaseSettings}
    (h : ofUrl text n = .ok database) : database.maxPoolSize = n := by
  unfold ofUrl at h
  split at h
  next => cases h
  next =>
    split at h
    next => cases h
    next =>
      dsimp only at h
      split at h
      next => cases h
      next =>
        rw [← Except.ok.inj h]

/-- The names of the dialects. -/
def Dialect.knownNames : List String := ["postgres", "postgresql", "pg", "mysql", "mariadb"]

/-- The name that a value gives, in small letters and without blanks around it. -/
def Dialect.wordOf (text : String) : String := Text.lowercaseString (Text.trimString text)

/-- The error of a name that no dialect has. -/
def Dialect.unknown (text : String) : SettingsError :=
  .invalid (Failure.configuration
    s!"Unknown SQL dialect '{wordOf text}' (expected postgres or mysql)").message

theorem Dialect.mem_knownNames_iff {word : String} :
    word ∈ knownNames ↔ word ∈ ["postgres", "postgresql", "pg"] ∨ word ∈ ["mysql", "mariadb"] :=
  List.mem_append (s := [_, _, _])

theorem Dialect.parse_eq_error_iff {failure : Failure} :
    parse text = .error failure ↔ wordOf text ∉ knownNames ∧
      .configuration s!"Unknown SQL dialect '{wordOf text}' (expected postgres or mysql)" = failure := by
  rw [mem_knownNames_iff, not_or, parse, ← wordOf]
  split_ifs with hpostgres hmySql
  · simp [hpostgres]
  · simp [hmySql]
  · simp [hpostgres, hmySql]

theorem Dialect.isOk_parse_iff : (parse text).isOk ↔ wordOf text ∈ knownNames := by
  rw [isOk_iff_forall_ne_error]
  simp [parse_eq_error_iff]

theorem dialectOfVariable_eq_error_iff {value? : Option String} :
    dialectOfVariable value? = .error e ↔
      ∃ text, value? = some text ∧ Dialect.wordOf text ∉ Dialect.knownNames ∧
        Dialect.unknown text = e := by
  cases value? with
  | none => simp [dialectOfVariable]
  | some text =>
    rw [dialectOfVariable]
    cases hparse : Dialect.parse text with
    | ok dialect =>
      have hknown := Dialect.isOk_parse_iff.1 (congrArg Except.isOk hparse)
      simp [hknown]
    | error failure =>
      obtain ⟨hunknown, rfl⟩ := Dialect.parse_eq_error_iff.1 hparse
      simp [hunknown, Dialect.unknown]

/-! ### Settings and errors -/

/-- The greatest number of connections that some variables allow. -/
def poolSizeOf (valueOf? : String → Option String) : Nat :=
  ((valueOf? "DB_MAX_CONNECTIONS").bind (boundedNat? (UInt64.size - 1))).getD 10

/-- The settings of the database in some variables: those in its URL, or else one field from each of
the variables that describe it. -/
def databaseOf (valueOf? : String → Option String) : Except SettingsError DatabaseSettings :=
  match valueOf? "DATABASE_URL" with
  | some url => DatabaseSettings.ofUrl url (poolSizeOf valueOf?)
  | none => .ok {
      host := (valueOf? "DB_HOST").getD "localhost"
      port := ((valueOf? "DB_PORT").bind (boundedNat? 65535)).getD 5432
      user := (valueOf? "DB_USER").getD "postgres"
      password := (valueOf? "DB_PASSWORD").getD ""
      database := (valueOf? "DB_NAME").getD "postgres"
      maxPoolSize := poolSizeOf valueOf?
      requireTls := valueOf? "DB_SSLMODE" = some "require" }

/-- The settings that variables give. -/
structure Settings.Loads (valueOf? : String → Option String) (s : Settings) : Prop where
  database : databaseOf valueOf? = .ok s.database
  schema : s.analysis.schema = (valueOf? "SCHEMA_LENS_SCHEMA").getD "public"
  dialect : dialectOfVariable (valueOf? "SCHEMA_LENS_SQL_DIALECT") = .ok s.analysis.dialect
  migrationsPath : s.analysis.migrationsPath =
    (valueOf? "SCHEMA_LENS_MIGRATIONS_PATH").getD "database/migrations"
  snapshotFile : s.analysis.snapshotFile = valueOf? "SCHEMA_LENS_SNAPSHOT_FILE"
  reportPath : s.analysis.reportPath = valueOf? "SCHEMA_LENS_REPORT_PATH"

/-- What is wrong with some variables: the URL of the database, or else the name of the dialect. -/
inductive SettingsError.Arises (valueOf? : String → Option String) : SettingsError → Prop where
  | url {text : String} {e : SettingsError} (h : valueOf? "DATABASE_URL" = some text)
    (he : DatabaseSettings.UrlError text e) : Arises valueOf? e
  | dialect {text : String}
    (hurl : ∀ url ∈ valueOf? "DATABASE_URL", ∀ e, ¬DatabaseSettings.UrlError url e)
    (h : valueOf? "SCHEMA_LENS_SQL_DIALECT" = some text)
    (hunknown : Dialect.wordOf text ∉ Dialect.knownNames) : Arises valueOf? (Dialect.unknown text)

theorem SettingsError.Arises.congr (h : Arises valueOf? e)
    (hurl : valueOf? "DATABASE_URL" = other "DATABASE_URL")
    (hdialect : valueOf? "SCHEMA_LENS_SQL_DIALECT" = other "SCHEMA_LENS_SQL_DIALECT") :
    Arises other e := by
  cases h with
  | url htext he => exact .url (hurl ▸ htext) he
  | dialect hreadable htext hunknown =>
    exact .dialect (hurl ▸ hreadable) (hdialect ▸ htext) hunknown

namespace Settings

theorem ofVariables_eq_bind (valueOf? : String → Option String) :
    ofVariables valueOf? = databaseOf valueOf? >>= fun database =>
      dialectOfVariable (valueOf? "SCHEMA_LENS_SQL_DIALECT") >>= fun dialect => pure {
        database
        analysis := {
          schema := (valueOf? "SCHEMA_LENS_SCHEMA").getD "public"
          dialect
          migrationsPath := (valueOf? "SCHEMA_LENS_MIGRATIONS_PATH").getD "database/migrations"
          snapshotFile := valueOf? "SCHEMA_LENS_SNAPSHOT_FILE"
          reportPath := valueOf? "SCHEMA_LENS_REPORT_PATH" } } := by
  unfold ofVariables databaseOf
  cases valueOf? "DATABASE_URL" <;> rfl

theorem ofVariables_eq_ok_iff : ofVariables valueOf? = .ok s ↔ Loads valueOf? s := by
  rw [ofVariables_eq_bind]
  constructor
  · intro h
    obtain ⟨database, hdatabase, h⟩ := exists_of_bind_eq_ok h
    obtain ⟨dialect, hdialect, h⟩ := exists_of_bind_eq_ok h
    obtain rfl := Except.ok.inj h
    exact ⟨hdatabase, rfl, hdialect, rfl, rfl, rfl⟩
  · intro h
    rw [h.database, h.dialect, ← h.schema, ← h.migrationsPath, ← h.snapshotFile, ← h.reportPath]
    rfl

theorem databaseOf_eq_error_iff :
    databaseOf valueOf? = .error e ↔
      ∃ text, valueOf? "DATABASE_URL" = some text ∧ DatabaseSettings.UrlError text e := by
  rw [databaseOf]
  cases valueOf? "DATABASE_URL" with
  | none => simp
  | some text => simp [DatabaseSettings.ofUrl_eq_error_iff]

theorem ofVariables_eq_error_iff : ofVariables valueOf? = .error e ↔ SettingsError.Arises valueOf? e := by
  rw [ofVariables_eq_bind]
  constructor
  · intro h
    obtain hdatabase | ⟨database, hdatabase, h⟩ := exists_of_bind_eq_error h
    · obtain ⟨text, htext, he⟩ := databaseOf_eq_error_iff.1 hdatabase
      exact .url htext he
    · obtain hdialect | ⟨dialect, -, h⟩ := exists_of_bind_eq_error h
      · obtain ⟨text, htext, hunknown, rfl⟩ := dialectOfVariable_eq_error_iff.1 hdialect
        -- the name of the dialect is looked at only behind a URL that can be read
        refine .dialect ?_ htext hunknown
        intro url hurl e he
        rw [databaseOf_eq_error_iff.2 ⟨url, hurl, he⟩] at hdatabase
        cases hdatabase
      · cases h
  · intro h
    cases h with
    | url htext he =>
      rw [databaseOf_eq_error_iff.2 ⟨_, htext, he⟩]
      rfl
    | dialect hurl htext hunknown =>
      rw [dialectOfVariable_eq_error_iff.2 ⟨_, htext, hunknown, rfl⟩]
      cases hdatabase : databaseOf valueOf? with
      | error e =>
        obtain ⟨url, hsome, he⟩ := databaseOf_eq_error_iff.1 hdatabase
        exact absurd he (hurl url hsome e)
      | ok database => rfl

theorem Loads.database_eq (h : Loads valueOf? s) (hurl : valueOf? "DATABASE_URL" = none) :
    s.database = .ofVariables valueOf? (poolSizeOf valueOf?) := by
  have hdatabase := h.database
  rw [databaseOf, hurl] at hdatabase
  exact (Except.ok.inj hdatabase).symm

theorem Loads.maxPoolSize_eq (h : Loads valueOf? s) : s.database.maxPoolSize = poolSizeOf valueOf? := by
  cases hurl : valueOf? "DATABASE_URL" with
  | none => rw [h.database_eq hurl, DatabaseSettings.ofVariables]
  | some url =>
    have hdatabase := h.database
    rw [databaseOf, hurl] at hdatabase
    exact DatabaseSettings.maxPoolSize_of_ofUrl hdatabase

end Settings

/-! ### Variables and their fields -/

/-- The variables without the URL of the database. -/
inductive SettingsVariable where
  | host
  | port
  | user
  | password
  | databaseName
  | sslMode
  | maxConnections
  | schema
  | dialect
  | migrationsPath
  | snapshotFile
  | reportPath
  deriving DecidableEq

namespace SettingsVariable

/-- The name of a variable. -/
def name : SettingsVariable → String
  | host => "DB_HOST"
  | port => "DB_PORT"
  | user => "DB_USER"
  | password => "DB_PASSWORD"
  | databaseName => "DB_NAME"
  | sslMode => "DB_SSLMODE"
  | maxConnections => "DB_MAX_CONNECTIONS"
  | schema => "SCHEMA_LENS_SCHEMA"
  | dialect => "SCHEMA_LENS_SQL_DIALECT"
  | migrationsPath => "SCHEMA_LENS_MIGRATIONS_PATH"
  | snapshotFile => "SCHEMA_LENS_SNAPSHOT_FILE"
  | reportPath => "SCHEMA_LENS_REPORT_PATH"

/-- Whether the URL of the database takes the place of a variable. -/
def isReplacedByUrl : SettingsVariable → Bool
  | host | port | user | password | databaseName | sslMode => true
  | _ => false

/-- What the field of a variable holds. -/
def Value : SettingsVariable → Type
  | port | maxConnections => Nat
  | sslMode => Bool
  | dialect => Dialect
  | snapshotFile | reportPath => Option String
  | _ => String

/-- The field of a variable. -/
def field : (v : SettingsVariable) → Settings → v.Value
  | host, s => s.database.host
  | port, s => s.database.port
  | user, s => s.database.user
  | password, s => s.database.password
  | databaseName, s => s.database.database
  | sslMode, s => s.database.requireTls
  | maxConnections, s => s.database.maxPoolSize
  | schema, s => s.analysis.schema
  | dialect, s => s.analysis.dialect
  | migrationsPath, s => s.analysis.migrationsPath
  | snapshotFile, s => s.analysis.snapshotFile
  | reportPath, s => s.analysis.reportPath

/-- The variables have all fields among them. -/
theorem ext_field (h : ∀ v : SettingsVariable, v.field s = v.field s') : s = s' := by
  obtain ⟨⟨host, port, user, password, database, maxPoolSize, requireTls⟩,
    ⟨schema, dialect, migrationsPath, snapshotFile, reportPath⟩⟩ := s
  obtain ⟨⟨host', port', user', password', database', maxPoolSize', requireTls'⟩,
    ⟨schema', dialect', migrationsPath', snapshotFile', reportPath'⟩⟩ := s'
  obtain rfl : host = host' := h .host
  obtain rfl : port = port' := h .port
  obtain rfl : user = user' := h .user
  obtain rfl : password = password' := h .password
  obtain rfl : database = database' := h .databaseName
  obtain rfl : requireTls = requireTls' := h .sslMode
  obtain rfl : maxPoolSize = maxPoolSize' := h .maxConnections
  obtain rfl : schema = schema' := h .schema
  obtain rfl : dialect = dialect' := h .dialect
  obtain rfl : migrationsPath = migrationsPath' := h .migrationsPath
  obtain rfl : snapshotFile = snapshotFile' := h .snapshotFile
  obtain rfl : reportPath = reportPath' := h .reportPath
  rfl

/-- Without a URL, the field of a variable depends on this variable alone. -/
theorem field_congr (v : SettingsVariable) (hurl : valueOf? "DATABASE_URL" = none)
    (hurl' : other "DATABASE_URL" = none) (h : Settings.Loads valueOf? s)
    (h' : Settings.Loads other s') (hv : valueOf? v.name = other v.name) : v.field s = v.field s' := by
  have hdatabase := h.database_eq hurl
  have hdatabase' := h'.database_eq hurl'
  cases v
  -- unlike the other fields, the dialect is not determined where its variable is wrong
  case dialect =>
    have hdialect := h.dialect
    rw [show valueOf? "SCHEMA_LENS_SQL_DIALECT" = other "SCHEMA_LENS_SQL_DIALECT" from hv,
      h'.dialect] at hdialect
    exact (Except.ok.inj hdialect).symm
  all_goals
    simp only [name] at hv
    simp only [field, hdatabase, hdatabase', DatabaseSettings.ofVariables, poolSizeOf, h.schema,
      h'.schema, h.migrationsPath, h'.migrationsPath, h.snapshotFile, h'.snapshotFile,
      h.reportPath, h'.reportPath, hv]
    rfl

end SettingsVariable

namespace Settings

/-- Without a URL, the variables alone decide. -/
theorem ofVariables_congr (hurl : valueOf? "DATABASE_URL" = none)
    (hurl' : other "DATABASE_URL" = none)
    (h : ∀ v : SettingsVariable, valueOf? v.name = other v.name) :
    ofVariables valueOf? = ofVariables other := by
  -- an error of one side is one of the other, and two settings agree field by field
  have hboth := hurl.trans hurl'.symm
  cases hread : ofVariables valueOf? with
  | error e =>
    have harises := (ofVariables_eq_error_iff.1 hread).congr hboth (h .dialect)
    exact (ofVariables_eq_error_iff.2 harises).symm
  | ok s =>
    cases hread' : ofVariables other with
    | error e =>
      have harises := (ofVariables_eq_error_iff.1 hread').congr hboth.symm (h .dialect).symm
      rw [ofVariables_eq_error_iff.2 harises] at hread
      cases hread
    | ok s' =>
      congr 1
      apply SettingsVariable.ext_field
      intro v
      exact v.field_congr hurl hurl' (ofVariables_eq_ok_iff.1 hread) (ofVariables_eq_ok_iff.1 hread')
        (h v)

/-- With a URL, the variables that it takes the place of do not matter. -/
theorem ofVariables_congr_of_url {url : String} (hurl : valueOf? "DATABASE_URL" = some url)
    (hurl' : other "DATABASE_URL" = some url)
    (h : ∀ v : SettingsVariable, v.isReplacedByUrl = false → valueOf? v.name = other v.name) :
    ofVariables valueOf? = ofVariables other := by
  have hsize : poolSizeOf valueOf? = poolSizeOf other := by
    rw [poolSizeOf, poolSizeOf]
    exact congrArg (fun value? => (Option.bind value? _).getD 10) (h .maxConnections rfl)
  have hdatabase : databaseOf valueOf? = databaseOf other := by
    rw [databaseOf, databaseOf, hurl, hurl', hsize]
  have hschema := h .schema rfl
  have hdialect := h .dialect rfl
  have hmigrationsPath := h .migrationsPath rfl
  have hsnapshotFile := h .snapshotFile rfl
  have hreportPath := h .reportPath rfl
  simp only [SettingsVariable.name] at hschema hdialect hmigrationsPath hsnapshotFile hreportPath
  rw [ofVariables_eq_bind, ofVariables_eq_bind, hdatabase, hschema, hdialect, hmigrationsPath,
    hsnapshotFile, hreportPath]

/-- When there are settings, what they are, and on which variables they depend. Something is wrong
exactly if the URL of the database is, or else the name of the dialect. Otherwise the settings are
those that the variables give. The two numbers are taken from their variables or keep their defaults.
With a URL, the six variables that it takes the place of do not matter. Without one, there is no other
variable that matters, and each matters to its own field. -/
theorem ofVariables_spec (valueOf? : String → Option String) :
    (∀ e, ofVariables valueOf? = .error e ↔ SettingsError.Arises valueOf? e) ∧
    (∀ s, ofVariables valueOf? = .ok s ↔ Loads valueOf? s) ∧
    (∀ s, ofVariables valueOf? = .ok s →
      TakesNumber (UInt64.size - 1) 10 (valueOf? "DB_MAX_CONNECTIONS") s.database.maxPoolSize ∧
      (valueOf? "DATABASE_URL" = none →
        TakesNumber 65535 5432 (valueOf? "DB_PORT") s.database.port)) ∧
    (∀ other url, valueOf? "DATABASE_URL" = some url → other "DATABASE_URL" = some url →
      (∀ v : SettingsVariable, v.isReplacedByUrl = false → valueOf? v.name = other v.name) →
      ofVariables valueOf? = ofVariables other) ∧
    ∀ other, valueOf? "DATABASE_URL" = none → other "DATABASE_URL" = none →
      ((∀ v : SettingsVariable, valueOf? v.name = other v.name) →
        ofVariables valueOf? = ofVariables other) ∧
      ∀ s s', ofVariables valueOf? = .ok s → ofVariables other = .ok s' →
        ∀ v : SettingsVariable, valueOf? v.name = other v.name → v.field s = v.field s' := by
  refine ⟨fun e => ofVariables_eq_error_iff, fun s => ofVariables_eq_ok_iff, ?numbers, ?withUrl,
    ?withoutUrl⟩
  case numbers =>
    intro s h
    have hloads := ofVariables_eq_ok_iff.1 h
    constructor
    · rw [hloads.maxPoolSize_eq]
      apply takesNumber_getD
    · intro hurl
      rw [hloads.database_eq hurl]
      apply takesNumber_getD
  case withUrl =>
    intro other url hurl hurl' h
    exact ofVariables_congr_of_url hurl hurl' h
  case withoutUrl =>
    intro other hurl hurl'
    refine ⟨ofVariables_congr hurl hurl', ?_⟩
    intro s s' h h' v hv
    exact v.field_congr hurl hurl' (ofVariables_eq_ok_iff.1 h) (ofVariables_eq_ok_iff.1 h') hv

/-- Variables with two numbers that no setting takes. -/
def variablesWithoutNumbers : String → Option String
  | "DB_HOST" => some "db.internal"
  | "DB_PORT" => some "65536"
  | "DB_MAX_CONNECTIONS" => some "many"
  | "SCHEMA_LENS_SQL_DIALECT" => some " MariaDB"
  | _ => none

/-- Settings from variables with numbers that cannot be taken: both keep their defaults, whatever else
stands in variables without a field. -/
theorem ofVariables_spec_of_defaults :
    ∃ s, ofVariables variablesWithoutNumbers = .ok s ∧ s.database.host = "db.internal" ∧
      s.database.port = 5432 ∧ s.database.maxPoolSize = 10 ∧ s.analysis.dialect = .mySql ∧
      TakesNumber 65535 5432 (some "65536") s.database.port ∧
      ∀ other, other "DATABASE_URL" = none →
        (∀ v : SettingsVariable, variablesWithoutNumbers v.name = other v.name) →
        ofVariables variablesWithoutNumbers = ofVariables other := by
  obtain ⟨-, hloads, hnumbers, -, hcongr⟩ := ofVariables_spec variablesWithoutNumbers
  have hok := (hloads ⟨{ host := "db.internal" }, { dialect := .mySql }⟩).mpr
    ⟨by decide +kernel, rfl, by decide +kernel, rfl, rfl, rfl⟩
  exact ⟨_, hok, rfl, rfl, rfl, rfl, (hnumbers _ hok).2 rfl,
    fun other hurl h => (hcongr other rfl hurl).1 h⟩

end Settings

end MigrationPreview
