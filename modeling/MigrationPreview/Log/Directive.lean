import MigrationPreview.Log.Entry
import MigrationPreview.Log.Pattern
import MigrationPreview.Settings.Basic
import MigrationPreview.Text.Blank

/-!
# Directives of log filters

A directive gives a level for some messages: `target[span{field=value}]=level`. Each part may be
missing. The target is the beginning of the names of channels; a field must be among those of a
message. A directive that asks for a span or for the value of a field is about no message, since
messages stand in no span and have only their text.

Blanks around a directive count when its parts are found and come back when they are cut: each part
is what stands in the whole text where it was found in the text without blanks.

## Main definitions

* `LogDirective.parse?`: a directive
* `LogDirective.covers`, `LogDirective.precision`: the messages that it is about, and how exactly
-/

namespace MigrationPreview

open Text

/-- A field that a directive asks for. -/
structure LogField where
  name : List Char
  /-- The pattern that its value has to fit. -/
  value : Option (List Char) := none
  deriving DecidableEq

/-- A directive of a filter. -/
structure LogDirective where
  /-- The beginning of the names of the channels; all channels if it is absent. -/
  target : Option (List Char) := none
  span : Option (List Char) := none
  field : Option LogField := none
  /-- The rank of the least urgent level that passes, and zero if none does. -/
  limit : Nat := LogLevel.trace.rank
  deriving DecidableEq

namespace LogDirective

/-! ### Reading -/

/-- The rank of the level that a word names, in any case, or by its number. -/
def parseLimit? (cs : List Char) : Option Nat :=
  let word := String.ofList (cs.map Char.toLower)
  (boundedNat? LogLevel.trace.rank word).or
    (["off", "error", "warn", "info", "debug", "trace"].findIdx? (· = word))

/-- The field that a text asks for, perhaps with a pattern behind an equals sign. -/
def parseField? (cs : List Char) : Option LogField :=
  match cs.splitOn '=' with
  | name :: value :: _ => if LogPattern.isReadable value then some ⟨name, some value⟩ else none
  | _ => if cs.isEmpty then none else some ⟨cs, none⟩

/-- Reads the end of a directive behind its brackets. Here and below, the first list is the rest of
the text without blanks, which tells where the parts are, and the second one is cut. -/
def readLevel? (d : LogDirective) : List Char → List Char → Option LogDirective
  | [], _ => some d
  | '=' :: _, cs =>
    match cs.drop 1 with
    | [] => some d
    | level => (parseLimit? level).map fun limit => { d with limit }
  | _, _ => none

/-- Reads a field behind its brace. -/
def readField? (d : LogDirective) (found cs : List Char) : Option LogDirective := do
  let n := (found.takeWhile (· != '\x7d')).length
  match found.drop n with
  | _ :: ']' :: rest =>
    if n = 0 then none
    else readLevel? { d with field := some (← parseField? (cs.take n)) } rest (cs.drop (n + 2))
  | _ => none

/-- Reads a span behind its bracket. -/
def readSpan? (d : LogDirective) (found cs : List Char) : Option LogDirective :=
  let n := (found.takeWhile fun c => c != ']' && c != '\x7b').length
  match found.drop n with
  | ']' :: rest => readLevel? { d with span := some (cs.take n) } rest (cs.drop (n + 1))
  | _ :: rest =>
    readField? { d with span := if n = 0 then none else some (cs.take n) } rest (cs.drop (n + 1))
  | [] => none

/-- The directive that a text stands for, if it can be read. -/
def parse? (cs : List Char) : Option LogDirective :=
  let found := skipBlanks (trimEnd cs)
  match found with
  | [] => none
  | '[' :: rest => readSpan? {} rest (cs.drop 1)
  | first :: _ =>
    if !(isAlphanumeric first || ['-', ':', '_'].contains first) then none
    else
      let n := (found.takeWhile fun c => c != '=' && c != '[').length
      match found.drop n with
      | [] =>
        match parseLimit? cs with
        | some limit => some { limit }
        | none => some { target := some cs }
      | '[' :: rest => readSpan? { target := some (cs.take n) } rest (cs.drop (n + 1))
      | rest => readLevel? { target := some (cs.take n) } rest (cs.drop n)

/-! ### Use -/

/-- Whether a directive can be about messages at all. -/
def isGeneral (d : LogDirective) : Bool := d.span.isNone && d.field.all (·.value.isNone)

/-- Whether a directive is about a message. -/
def covers (d : LogDirective) (e : LogEntry) : Bool :=
  d.isGeneral && d.target.all (·.isPrefixOf e.channel.name.toList) &&
    d.field.all (·.name = LogEntry.fieldName.toList)

/-- How exactly a directive names its messages: by the length of its target first, and then by its
field. -/
def precision (d : LogDirective) : Nat :=
  2 * (match d.target with
    | some target => target.length + 1
    | none => 0) + (if d.field.isSome then 1 else 0)

end LogDirective

end MigrationPreview
