import MigrationPreview.Sql.Dialect

/-!
# Command-line arguments

The program has two commands. Options that hold for both may stand before or behind the name of the
command; where an option is given in both places, the one behind the name counts. An option may be
given once in each place. A value stands behind an equals sign or is the next argument, and paths
must not be empty. A value that is an argument of its own is looked at when something follows it at
its place; in front of the name of a command, that is after the arguments of the command.

## Main definitions

* `Options`, `Command`: what a run is asked to do
* `Invocation`: what the arguments amount to
* `Invocation.parse`: reads the arguments
-/

namespace MigrationPreview

/-! ### What can be asked for -/

/-- The options of both commands. -/
structure Options where
  snapshotFile : Option String := none
  schema : Option String := none
  dialect : Option Dialect := none
  migrationsPath : Option String := none
  verbose : Bool := false
  deriving DecidableEq

/-- A command. -/
inductive Command where
  /-- Analyse a migration and report, perhaps to a file. -/
  | preview (migration : String) (report : Option String)
  /-- Capture the schema to a file. -/
  | snapshot (output : String)
  deriving DecidableEq

/-- What the arguments amount to. -/
inductive Invocation where
  | run (options : Options) (command : Command)
  | showHelp
  | showVersion
  | usageError
  deriving DecidableEq

namespace Arguments

/-! ### Options -/

/-- The options that take a value. -/
inductive OptionName where
  | snapshotFile
  | schema
  | dialect
  | migrationsPath
  | report
  deriving DecidableEq

/-- The places where options may stand: before the name of a command, or behind it. -/
inductive Place where
  | program
  | preview
  | snapshot
  deriving DecidableEq

/-- The option of a long name. -/
def longOption? (place : Place) (name : List Char) : Option OptionName :=
  let name := String.ofList name
  if name = "snapshot-file" then some .snapshotFile
  else if name = "schema" then some .schema
  else if name = "dialect" then some .dialect
  else if name = "migrations-path" then some .migrationsPath
  else if name = "report" ∧ place = .preview then some .report
  else none

/-- Whether an option takes the value. -/
def acceptsValue (option : OptionName) (value : String) : Bool :=
  match option with
  | .schema => true
  | .dialect => (Dialect.parse value).toOption.isSome
  | .snapshotFile | .migrationsPath | .report => value ≠ ""

/-- What is given at one place. -/
structure Given where
  values : List (OptionName × String) := []
  /-- The option whose value was the last argument, with that value. -/
  pending : Option (OptionName × String) := none
  verbose : Bool := false
  operands : List String := []
  deriving DecidableEq

/-- Reading ends early with one of the invocations that do not run a command. -/
abbrev Reading := Except Invocation

/-- Adds the value of an option. -/
def Given.setValue (g : Given) (option : OptionName) (value : String) : Reading Given :=
  if (g.values.lookup option).isSome || !acceptsValue option value then throw .usageError
  else return { g with values := (option, value) :: g.values }

/-- Adds the option whose value was the last argument. -/
def Given.settle (g : Given) : Reading Given :=
  match g.pending with
  | some (option, value) => { g with pending := none }.setValue option value
  | none => return g

/-- Adds the flag for more output. -/
def Given.setVerbose (g : Given) : Reading Given :=
  if g.verbose then throw .usageError else return { g with verbose := true }

/-! ### Single arguments -/

/-- What is to be done about an argument. -/
inductive Step where
  | done (g : Given)
  /-- The value of the option is the next argument. -/
  | awaits (g : Given) (option : OptionName)
  /-- The argument is no option. -/
  | operand

/-- Reads a long option behind its hyphens. -/
def readLong (place : Place) (g : Given) (text : List Char) : Reading Step := do
  let name := text.takeWhile (· != '=')
  let value := text.drop name.length
  match longOption? place name, value with
  | some option, [] => return .awaits g option
  | some option, _ :: value => return .done (← g.setValue option (String.ofList value))
  | none, [] =>
    if name = "verbose".toList then return .done (← g.setVerbose)
    else if name = "help".toList then throw .showHelp
    else if name = "version".toList ∧ place = .program then throw .showVersion
    else throw .usageError
  | none, _ => throw .usageError

/-- Reads short options behind their hyphen. Behind an option with a value, the rest is the
value. -/
def readShort (place : Place) (g : Given) : List Char → Reading Step
  | [] => return .done g
  | c :: cs => do
    if c = 'v' then readShort place (← g.setVerbose) cs
    else if c = 'h' then throw .showHelp
    else if c = 'V' ∧ place = .program then throw .showVersion
    else if c = 'r' ∧ place = .preview then
      match cs with
      | [] => return .awaits g .report
      | '=' :: value => return .done (← g.setValue .report (String.ofList value))
      | value => return .done (← g.setValue .report (String.ofList value))
    else throw .usageError

/-- Whether an argument looks like an option. -/
def isOption (argument : String) : Bool :=
  match argument.toList with
  | '-' :: _ :: _ => true
  | _ => false

/-- Reads one argument. -/
def readArgument (place : Place) (g : Given) (argument : String) : Reading Step := do
  match argument.toList with
  | '-' :: '-' :: text => readLong place (← g.settle) text
  | '-' :: c :: cs => readShort place (← g.settle) (c :: cs)
  | _ => return .operand

/-! ### Lists of arguments -/

/-- Adds an argument that is no option. Each command takes one of them, and a path is not empty. -/
def Given.addOperand (place : Place) (g : Given) (operand : String) : Reading Given := do
  let g ← g.settle
  if !g.operands.isEmpty || (place = .snapshot && operand = "") then throw .usageError
  return { g with operands := [operand] }

/-- Reads the arguments at one place. Before the name of a command, the result ends with that name
and the arguments behind it. -/
def readAll (place : Place) : Given → List String → Reading (Given × List String)
  | g, [] => return (← g.settle, [])
  | g, "--" :: rest => do
    if place = .program then throw .usageError
    else return (← rest.foldlM (Given.addOperand place) (← g.settle), [])
  | g, argument :: rest => do
    match ← readArgument place g argument with
    | .done g => readAll place g rest
    | .operand =>
      if place = .program then return (g, argument :: rest)
      else readAll place (← g.addOperand place argument) rest
    | .awaits g option =>
      match rest with
      | value :: rest =>
        -- an option cannot be the value of another one unless it is joined to it
        if isOption value then throw .usageError
        else readAll place { g with pending := some (option, value) } rest
      | [] => throw .usageError

/-- The value of an option that may be given at two places. -/
def valueOf (outer inner : Given) (option : OptionName) : Option String :=
  inner.values.lookup option <|> outer.values.lookup option

/-- The options that are given at two places. -/
def optionsOf (outer inner : Given) : Options where
  snapshotFile := valueOf outer inner .snapshotFile
  schema := valueOf outer inner .schema
  dialect := (valueOf outer inner .dialect).bind fun text => (Dialect.parse text).toOption
  migrationsPath := valueOf outer inner .migrationsPath
  verbose := outer.verbose || inner.verbose

/-- Reads what stands behind the name of a command. -/
def readCommand (outer : Given) (place : Place) (rest : List String) : Reading Invocation := do
  let (inner, _) ← readAll place {} rest
  let options := optionsOf (← outer.settle) inner
  match inner.operands with
  | [operand] =>
    if place = .snapshot then return .run options (.snapshot operand)
    else return .run options (.preview operand (inner.values.lookup .report))
  | _ => throw .usageError

/-- Reads all arguments. -/
def read (arguments : List String) : Reading Invocation := do
  let (outer, rest) ← readAll .program {} arguments
  match rest with
  | "preview" :: rest => readCommand outer .preview rest
  | "snapshot" :: rest => readCommand outer .snapshot rest
  | ["help"] => throw .showHelp
  | ["help", command] =>
    throw (if command ∈ ["preview", "snapshot", "help"] then .showHelp else .usageError)
  | _ => throw .usageError

end Arguments

/-- What the arguments of a run amount to. -/
def Invocation.parse (arguments : List String) : Invocation :=
  match Arguments.read arguments with
  | .ok invocation => invocation
  | .error invocation => invocation

end MigrationPreview
