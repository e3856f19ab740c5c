import MigrationPreview.Json.Form

/-!
# Log entries

Messages about the progress of a run, with a level and the channel they are sent on.
-/

namespace MigrationPreview

/-- How urgent a message is. -/
inductive LogLevel where
  | error
  | warn
  | info
  | debug
  | trace
  deriving DecidableEq

namespace LogLevel

/-- The name of a level. -/
def name : LogLevel → String
  | error => "ERROR"
  | warn => "WARN"
  | info => "INFO"
  | debug => "DEBUG"
  | trace => "TRACE"

/-- The place of a level, from the most urgent one. -/
def rank : LogLevel → Nat
  | error => 1
  | warn => 2
  | info => 3
  | debug => 4
  | trace => 5

end LogLevel

/-- What a message is about. -/
inductive LogChannel where
  | program
  | preview
  | migration
  | snapshot
  deriving DecidableEq

/-- The name by which filters select a channel. -/
def LogChannel.name : LogChannel → String
  | program => "schema_lens"
  | preview => "schema_lens::pipeline::preview"
  | migration => "schema_lens::migration::parser"
  | snapshot => "schema_lens::snapshot::store"

/-- A message. -/
structure LogEntry where
  level : LogLevel
  channel : LogChannel
  text : String
  deriving DecidableEq

/-- The name of the one field of a message, which holds its text. -/
def LogEntry.fieldName : String := "message"

/-- What is printed for a character: those that could be commands to a terminal are written out. -/
def printedChar (c : Char) : List Char :=
  let digits := Nat.toDigits 16 c.toNat
  if ['\x07', '\x08', '\x0C', '\x1B', '\x7F'].contains c then
    ['\\', 'x'] ++ (if c.toNat < 16 then '0' :: digits else digits)
  else if 0x80 ≤ c.toNat ∧ c.toNat < 0xA0 then ['\\', 'u', '\x7b'] ++ digits ++ ['\x7d']
  else [c]

/-- The text that is printed for a message. -/
def LogEntry.printedText (e : LogEntry) : String :=
  String.ofList (e.text.toList.flatMap printedChar)

/-- The line that is printed for a message. -/
def LogEntry.line (e : LogEntry) : String := s!"{e.level.name} {e.printedText}"

end MigrationPreview
