import MigrationPreview.Cli.Run
import Std.Time.DateTime

/-!
# The program

Runs over the files, the environment and the clock of the machine. The report goes to the standard
output, messages and errors to the standard error output.
-/

namespace MigrationPreview.Machine

/-! ### Files -/

/-- The fault behind an error of the machine. -/
def faultOf (e : IO.Error) : FileFault :=
  match e with
  | .noFileOrDirectory .. => .notFound
  | .alreadyExists .. => .alreadyExists
  | .inappropriateType _ 20 _ => .notADirectory
  | .inappropriateType _ 21 _ => .isADirectory
  | .invalidArgument _ 36 _ => .nameTooLong
  | _ => .other (toString e)

/-- The result of an action, or the fault that stopped it. -/
def attempt {α : Type} (action : IO α) : IO (Except FileFault α) := do
  try
    return .ok (← action)
  catch e =>
    return .error (faultOf e)

/-- Whether a path names a file. -/
def isFile (path : String) : IO Bool := do
  if path = "" then return false
  try
    return (← (← IO.FS.realPath path).metadata).type == .file
  catch _ =>
    return false

/-- The names in a directory. -/
def list (path : String) : IO (List String) := do
  if path = "" then return []
  try
    return (← (← IO.FS.realPath path).readDir).toList.map (·.fileName)
  catch _ =>
    return []

/-- The files of the machine. -/
def files : FileSystem IO where
  isFile := isFile
  list := list
  read path := attempt (IO.FS.readBinFile path)
  write path text := attempt (IO.FS.writeFile path text)
  createDirectories path := attempt (IO.FS.createDirAll path)
  currentDirectory := attempt do return (← IO.currentDir).toString

/-! ### Environment and clock -/

/-- The environment in the form in which the machine shows it: assignments that end with a null
character each. -/
def environmentOf (text : String) : Environment :=
  let assignments := (text.toList.splitOn '\x00').filter (!·.isEmpty)
  .ofList (assignments.map fun cs =>
    let name := cs.takeWhile (· != '=')
    (String.ofList name, String.ofList (cs.drop (name.length + 1))))

/-- The environment of the run. -/
def environment : IO Environment := do
  match ← files.readText "/proc/self/environ" with
  | .ok text => return environmentOf text
  | .error _ => return ∅

/-- The current time. -/
def now : IO Instant := do
  let time := Std.Time.PlainDateTime.ofWallTime (.ofTimestamp (← Std.Time.Timestamp.now) .zero)
  let clock := time.time
  let second := 3600 * clock.hour.val + 60 * clock.minute.val + clock.second.val
  let instant? := do
    let date ← Date.of? time.date.year time.date.month.val.toNat time.date.day.val.toNat
    Instant.of? date second.toNat clock.nanosecond.val.toNat
  match instant? with
  | some instant => return instant
  | none => throw (IO.userError "the clock is out of range")

/-- How the program is called. -/
def usage : String :=
  "Usage: schema-lens [OPTIONS] preview <MIGRATION> [--report <REPORT>]\n" ++
  "       schema-lens [OPTIONS] snapshot <OUTPUT>\n\n" ++
  "Options:\n" ++
  "  --snapshot-file <FILE>    read the schema from a snapshot file\n" ++
  "  --schema <SCHEMA>         schema to look at\n" ++
  "  --dialect <DIALECT>       postgres or mysql\n" ++
  "  --migrations-path <DIR>   directory in which migrations are looked for\n" ++
  "  -v, --verbose             print more messages\n" ++
  "  -h, --help                print this text\n" ++
  "  -V, --version             print the version"

/-- The exit code of a run that panics. -/
def panicExitCode : Nat := 101

/-- Runs the program and prints what it leaves behind; the result is the exit code. -/
def runAndPrint (arguments : List String) : IO UInt32 := do
  let outcome ← run files (← environment) (← now) arguments
  for entry in outcome.log do
    IO.eprintln s!"{entry.level.name} {entry.channel.name}: {entry.printedText}"
  IO.print outcome.output
  match Invocation.parse arguments with
  | .showHelp => IO.println usage
  | .usageError => IO.eprintln usage
  | _ => pure ()
  if let some message := outcome.error then
    IO.eprintln (if outcome.exitCode.isNone then s!"panicked: {message}" else s!"Error: {message}")
  return UInt32.ofNat (outcome.exitCode.getD panicExitCode)

end MigrationPreview.Machine

/-- Runs the program with the arguments of the command line. -/
def main (arguments : List String) : IO UInt32 := MigrationPreview.Machine.runAndPrint arguments
