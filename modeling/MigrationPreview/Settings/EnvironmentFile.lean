import MigrationPreview.Collections.SortedMap
import MigrationPreview.Text.Alphanumeric
import MigrationPreview.Text.Blank

/-!
# Environment files

A file of variables completes the environment: a variable that the environment has already keeps its
value. Each line gives a name and a value, perhaps behind the word `export`. A value may be quoted,
and a quoted value may span several lines; a dollar sign stands before the name of another variable.
The first line that cannot be read, or that is not text, ends the file. A value with a null character
cannot be set, and no run survives the attempt.

## Main definitions

* `EnvironmentFile.logicalLines`: the lines of a file, with quoted line ends joined
* `EnvironmentFile.readAssignment?`: the variable in a line
* `UnsettableVariable`: a variable with a value that cannot be set
* `EnvironmentFile.complete`: an environment completed by a file
-/

namespace MigrationPreview

/-- The values of variables. -/
abbrev Environment := SortedMap String String

/-- A variable with a value that the operating system does not take: it holds a null character. -/
structure UnsettableVariable where
  name : String
  value : String
  null_mem : '\x00' ∈ value.toList
  deriving DecidableEq

namespace EnvironmentFile

open Text

/-! ### Lines -/

/-- What the end of a line stands in. -/
inductive LineState where
  | complete
  | blank
  | escaped
  /-- A literal in single quotes; the flag is set behind a backslash. -/
  | single (escaped : Bool)
  /-- A literal in double quotes; the flag is set behind a backslash. -/
  | double (escaped : Bool)
  | comment
  deriving DecidableEq

namespace LineState

/-- The state behind a character outside of quotes. -/
def enter (c : Char) : LineState :=
  if c = '\\' then escaped
  else if c = '"' then double false
  else if c = '\x27' then single false
  else complete

/-- The state behind a character. -/
def next : LineState → Char → LineState
  | complete, c => if isBlank c ∧ c ≠ '\n' ∧ c ≠ '\r' then blank else enter c
  | blank, c => if c = '#' then comment else enter c
  | escaped, _ => complete
  | single true, _ => single false
  | single false, c => if c = '\\' then single true else if c = '\x27' then complete else single false
  | double true, _ => double false
  | double false, c => if c = '\\' then double true else if c = '"' then complete else double false
  | comment, _ => comment

end LineState

/-- The part of a line before a comment, and the state at its end. -/
def scanLine : LineState → List Char → List Char × LineState
  | state, [] => ([], state)
  | state, c :: cs =>
    if state.next c = .comment then ([], .comment)
    else
      let (kept, last) := scanLine (state.next c) cs
      (c :: kept, last)

/-- A line without its line end. -/
def dropLineEnd (cs : List Char) : List Char :=
  match cs.reverse with
  | '\n' :: '\r' :: rest => rest.reverse
  | '\n' :: rest => rest.reverse
  | _ => cs

/-- The lines of a file, with those joined over whose end a quote is open. A line that is not text is
`none`, and so is, in the result, what the file cannot be read beyond. The first two arguments are
the line that is being joined and its state. -/
def joinLines : List Char → LineState → List (Option (List Char)) → List (Option (List Char))
  | _, state, [] => if state = .complete then [] else [none]
  | _, _, none :: _ => [none]
  | pending, state, some line :: rest =>
    let joined := pending ++ line
    -- a line that is a comment as a whole may hold quotes that are not closed
    if (skipBlanks joined).head? = some '#' then some [] :: joinLines [] .complete rest
    else
      let (kept, last) := scanLine state line
      match last with
      | .complete => some (dropLineEnd joined) :: joinLines [] .complete rest
      | .comment => some (pending ++ kept) :: joinLines [] .complete rest
      | _ => joinLines joined last rest

/-- The lines of some bytes with their line ends. -/
def physicalLines (bytes : List UInt8) : List (List UInt8) :=
  let pieces := bytes.splitOn 0x0A
  (pieces.dropLast.map (· ++ [0x0A])) ++ (pieces.getLast?.toList.filter (!·.isEmpty))

/-- The characters that some bytes encode. -/
def charactersOf? (bytes : List UInt8) : Option (List Char) :=
  (String.fromUTF8? ⟨bytes.toArray⟩).map String.toList

/-- The lines of a file. A byte order mark at its beginning does not belong to the first one. -/
def logicalLines (bytes : ByteArray) : List (Option (List Char)) :=
  let content := match bytes.toList with
    | 0xEF :: 0xBB :: 0xBF :: rest => rest
    | content => content
  joinLines [] .complete ((physicalLines content).map charactersOf?)

/-! ### Values -/

/-- Where the reader of a value stands. -/
inductive ValueState where
  /-- Outside of single quotes; the flag tells whether within double quotes. -/
  | plain (double : Bool)
  /-- Behind a backslash. -/
  | escaped (double : Bool)
  /-- Within single quotes. -/
  | single
  /-- Behind a dollar sign and some letters and digits of a name, in reverse. -/
  | variable (double : Bool) (name : List Char)
  /-- Behind a dollar sign, a brace and some characters of a name, in reverse. -/
  | braced (double : Bool) (name : List Char)
  /-- Behind the value, where only blanks and a comment may follow. -/
  | ended
  deriving DecidableEq

/-- The value of a variable, which is empty for unknown names. -/
def lookup (environment : Environment) (name : List Char) : List Char :=
  ((environment.get? (String.ofList name)).getD "").toList

/-- Reads a value from left to right. -/
def readValue? (environment : Environment) : ValueState → List Char → Option (List Char)
  | .plain false, [] => some []
  | .escaped false, [] => some []
  | .ended, [] => some []
  | .variable false name, [] => some (lookup environment name.reverse)
  | _, [] => none
  | .ended, c :: cs =>
    if c = ' ' ∨ c = '\t' then readValue? environment .ended cs
    else if c = '#' then some []
    else none
  | .escaped double, c :: cs =>
    if ['\\', '\x27', '"', '$', ' '].contains c then
      (readValue? environment (.plain double) cs).map (c :: ·)
    else if c = 'n' then (readValue? environment (.plain double) cs).map ('\n' :: ·)
    else none
  | .single, c :: cs =>
    if c = '\x27' then readValue? environment (.plain false) cs
    else (readValue? environment .single cs).map (c :: ·)
  | .variable double name, c :: cs =>
    if isAlphanumeric c then readValue? environment (.variable double (c :: name)) cs
    else if c = '\x7b' ∧ name.isEmpty then readValue? environment (.braced double []) cs
    else if c = '$' then
      (readValue? environment (.variable double []) cs).map (lookup environment name.reverse ++ ·)
    else
      (readValue? environment (.plain double) cs).map
        (lookup environment name.reverse ++ c :: ·)
  | .braced double name, c :: cs =>
    if c = '\x7d' then
      (readValue? environment (.plain double) cs).map (lookup environment name.reverse ++ ·)
    else readValue? environment (.braced double (c :: name)) cs
  | .plain double, c :: cs =>
    if c = '$' then readValue? environment (.variable double []) cs
    else if c = '\\' then readValue? environment (.escaped double) cs
    else if c = '"' then readValue? environment (.plain (!double)) cs
    else if double then (readValue? environment (.plain true) cs).map (c :: ·)
    else if c = '\x27' then readValue? environment .single cs
    else if c = ' ' ∨ c = '\t' then readValue? environment .ended cs
    else (readValue? environment (.plain false) cs).map (c :: ·)

/-! ### Assignments -/

/-- Reads a name and the blanks behind it. -/
def readName? (cs : List Char) : Option (List Char × List Char) :=
  let isInner := fun c : Char => c.isAlphanum || c == '_' || c == '.'
  match cs with
  | c :: _ =>
    if c.isAlpha ∨ c = '_' then some (cs.takeWhile isInner, skipBlanks (cs.dropWhile isInner))
    else none
  | [] => none

/-- Reads a name, perhaps behind the word `export`, and the equals sign. -/
def readNameAndSign? (cs : List Char) : Option (List Char × List Char) := do
  let (name, rest) ← readName? cs
  match rest with
  | '=' :: value => return (name, value)
  | _ =>
    if name = "export".toList then
      match ← readName? rest with
      | (name, '=' :: value) => return (name, value)
      | _ => none
    else none

/-- What a line assigns: `some none` for a line without an assignment, and nothing if it cannot be
read. -/
def readAssignment? (environment : Environment) (line : List Char) :
    Option (Option (String × String)) :=
  match skipBlanks (trimEnd line) with
  | [] => some none
  | '#' :: _ => some none
  | cs => do
    let (name, rest) ← readNameAndSign? cs
    let value ← match skipBlanks rest with
      | [] => some []
      | '#' :: _ => some []
      | text => readValue? environment (.plain false) text
    return some (String.ofList name, String.ofList value)

/-! ### Environments -/

/-- The environment in which a variable has a value unless it had one before. -/
def addNew (environment : Environment) (name value : String) :
    Except UnsettableVariable Environment :=
  if (environment.get? name).isSome then .ok environment
  else if h : '\x00' ∈ value.toList then .error ⟨name, value, h⟩
  else .ok (environment.insert name value)

/-- The environment completed by some lines. -/
def completeLines (environment : Environment) :
    List (Option (List Char)) → Except UnsettableVariable Environment
  | some line :: rest =>
    match readAssignment? environment line with
    | some (some (name, value)) => do completeLines (← addNew environment name value) rest
    | some none => completeLines environment rest
    | none => .ok environment
  | _ => .ok environment

/-- The environment completed by the bytes of a file. -/
def complete (environment : Environment) (bytes : ByteArray) :
    Except UnsettableVariable Environment :=
  completeLines environment (logicalLines bytes)

end EnvironmentFile

end MigrationPreview
