import MigrationPreview.Text.Blank
import MigrationPreview.Text.Search
import MigrationPreview.Text.Word

/-!
# Method calls in a line

A line of a migration is not parsed as a whole. It is searched for calls `->method(...)`, whose
arguments are names in quotes or lists of such names in brackets. Either kind of quote may open and
close a name, blanks may stand around the parenthesis and the commas, and whatever follows the
arguments is not looked at.

## Main definitions

* `Call.readQuoted`, `Call.quotedItems`: a name in quotes, and all names in a text
* `Call.readMethod`: a method up to its first argument
* `Call.readArgument`: a name or a list of names
* `Call.find?`: the leftmost call of one of some methods
-/

namespace MigrationPreview.Call

open Text

/-! ### Names in quotes -/

/-- Whether a character is a quote. -/
def isQuote (c : Char) : Bool := c == '\x27' || c == '"'

/-- Reads a name in quotes, which is not empty. -/
def readQuoted : List Char → Option (String × List Char)
  | [] => none
  | c :: cs =>
    if isQuote c then
      match cs.takeWhile (!isQuote ·), cs.dropWhile (!isQuote ·) with
      | name@(_ :: _), _ :: rest => some (String.ofList name, rest)
      | _, _ => none
    else none

/-- The names in quotes that a text still holds, from left to right. The first argument is what was
read behind an opening quote, in reverse, if there is one; a quote right behind an opening quote
opens again. -/
def collectQuoted : Option (List Char) → List Char → List String
  | _, [] => []
  | none, c :: cs => collectQuoted (if isQuote c then some [] else none) cs
  -- a name is not empty, so the second of two quotes in a row opens the name
  | some [], c :: cs => collectQuoted (some (if isQuote c then [] else [c])) cs
  | some (d :: ds), c :: cs =>
    if isQuote c then String.ofList (d :: ds).reverse :: collectQuoted none cs
    else collectQuoted (some (c :: d :: ds)) cs

/-- All names in quotes in a text. -/
def quotedItems (cs : List Char) : List String := collectQuoted none cs

/-! ### Methods -/

/-- Reads a name that ends at a blank or at a parenthesis, and the opening parenthesis with the
blanks around it. -/
def readOpening (cs : List Char) : Option (String × List Char) :=
  let inName := fun c => !isBlank c && c != '('
  match skipBlanks (cs.dropWhile inName) with
  | '(' :: rest => some (String.ofList (cs.takeWhile inName), skipBlanks rest)
  | _ => none

/-- Reads an arrow and a method, up to its first argument. -/
def readMethod (cs : List Char) : Option (String × List Char) := do
  readOpening (← expect "->".toList cs)

/-- Reads an arrow and one of the given methods, and then what `readArguments` reads. -/
def readCall {α : Type} (methods : List String) (readArguments : List Char → Option α)
    (cs : List Char) : Option (String × α) := do
  let (method, arguments) ← readMethod cs
  if method ∈ methods then return (method, ← readArguments arguments) else none

/-- The leftmost call of one of the given methods with arguments that `readArguments` reads. -/
def find? {α : Type} (methods : List String) (readArguments : List Char → Option α)
    (line : List Char) : Option (String × α) :=
  firstMatch (readCall methods readArguments) line

/-! ### Arguments -/

/-- The argument of a call: a name, or a list of names. -/
inductive Argument where
  | name (s : String)
  | list (items : List String)

/-- The names of an argument. -/
def Argument.names : Argument → List String
  | name s => [s]
  | list items => items

/-- Reads a list in brackets. -/
def readList : List Char → Option (List String × List Char)
  | '[' :: cs =>
    match cs.dropWhile (· != ']') with
    | _ :: rest => some (quotedItems (cs.takeWhile (· != ']')), rest)
    | [] => none
  | _ => none

/-- Reads a list in brackets or a name in quotes. -/
def readArgument (cs : List Char) : Option (Argument × List Char) :=
  match readList cs with
  | some (items, rest) => some (.list items, rest)
  | none => (readQuoted cs).map fun (s, rest) => (.name s, rest)

/-- Reads a comma and a name in quotes. -/
def readNext (cs : List Char) : Option (String × List Char) := do
  readQuoted (skipBlanks (← expect [','] (skipBlanks cs)))

/-- Reads a name in quotes and drops the text behind it. -/
def quoted? (cs : List Char) : Option String := (readQuoted cs).map Prod.fst

/-- Reads an argument and drops the text behind it. -/
def argument? (cs : List Char) : Option Argument := (readArgument cs).map Prod.fst

/-- Reads two names and drops the text behind them. -/
def twoQuoted? (cs : List Char) : Option (String × String) := do
  let (first, rest) ← readQuoted cs
  let (second, _) ← readNext rest
  return (first, second)

/-- Reads a name and, if there is one, a second name. -/
def oneOrTwoQuoted? (cs : List Char) : Option (String × Option String) := do
  let (first, rest) ← readQuoted cs
  return (first, (readNext rest).map Prod.fst)

/-- Reads an argument and a name behind a comma; both may be missing. -/
def argumentAndName (cs : List Char) : Option Argument × Option String :=
  match readArgument cs with
  | some (argument, rest) => (some argument, (readNext rest).map Prod.fst)
  | none => (none, (readNext cs).map Prod.fst)

/-! ### The first argument of a line -/

/-- Reads a call of any method whose first argument is a name in quotes, which is the result. -/
def readNamingCall (cs : List Char) : Option String := do
  let (method, arguments) ← readMethod cs
  if method ≠ "" ∧ method.toList.all isWord then quoted? arguments else none

/-- The name that the leftmost call with a name as its first argument gives. -/
def firstName? (line : List Char) : Option String := firstMatch readNamingCall line

end MigrationPreview.Call
