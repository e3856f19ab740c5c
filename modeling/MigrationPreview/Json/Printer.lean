import MigrationPreview.Json.Basic

/-!
# JSON text

Two layouts of a value. The compact one holds no space between tokens. The indented one, in which
reports and snapshot files are written, puts each item and each member on a line of its own, two
spaces further in than the bracket around it.

## Main definitions

* `Json.quoted`: the literal of a string
* `Json.compact`: the compact layout
* `Json.indented`: the indented layout
-/

namespace MigrationPreview.Json

/-- The hexadecimal digit of a number below sixteen. -/
def hexDigit (n : Nat) : Char :=
  if n < 10 then Char.ofNat ('0'.toNat + n) else Char.ofNat ('a'.toNat + (n - 10))

/-- How a character is written inside a string literal: quotes, backslashes and control characters
are escaped, all else stands for itself. -/
def escape (c : Char) : List Char :=
  if c = '"' then ['\\', '"']
  else if c = '\\' then ['\\', '\\']
  else if c = '\x08' then ['\\', 'b']
  else if c = '\x0c' then ['\\', 'f']
  else if c = '\n' then ['\\', 'n']
  else if c = '\r' then ['\\', 'r']
  else if c = '\t' then ['\\', 't']
  else if c.toNat < 0x20 then
    ['\\', 'u', '0', '0', hexDigit (c.toNat / 16), hexDigit (c.toNat % 16)]
  else [c]

/-- The literal of a string. -/
def quoted (s : String) : List Char := '"' :: s.toList.flatMap escape ++ ['"']

/-- The text of a value that has no parts. -/
def scalar : Json → List Char
  | null => "null".toList
  | bool true => "true".toList
  | bool false => "false".toList
  | integer n => (toString n).toList
  | decimal literal => literal.toList
  | string s => quoted s
  | _ => "null".toList

mutual

/-- The compact layout of a value. -/
def compact : Json → List Char
  | array items => '[' :: compactItems items
  | object members => '{' :: compactMembers members
  | value => scalar value

/-- The items of an array and its closing bracket. -/
def compactItems : List Json → List Char
  | [] => [']']
  | [item] => compact item ++ [']']
  | item :: items => compact item ++ ',' :: compactItems items

/-- The members of an object and its closing brace. -/
def compactMembers : List (String × Json) → List Char
  | [] => ['}']
  | [(key, value)] => quoted key ++ ':' :: compact value ++ ['}']
  | (key, value) :: members => quoted key ++ ':' :: compact value ++ ',' :: compactMembers members

end

/-- A new line, indented by `depth` levels. -/
def newline (depth : Nat) : List Char := '\n' :: List.replicate (2 * depth) ' '

mutual

/-- The indented layout of a value that stands `depth` levels in. -/
def indented (depth : Nat) : Json → List Char
  | array [] => ['[', ']']
  | array items => '[' :: indentedItems depth items
  | object [] => ['{', '}']
  | object members => '{' :: indentedMembers depth members
  | value => scalar value

/-- The items of an array, each on a line of its own, and its closing bracket. -/
def indentedItems (depth : Nat) : List Json → List Char
  | [] => newline depth ++ [']']
  | [item] => newline (depth + 1) ++ indented (depth + 1) item ++ newline depth ++ [']']
  | item :: items =>
    newline (depth + 1) ++ indented (depth + 1) item ++ ',' :: indentedItems depth items

/-- The members of an object, each on a line of its own, and its closing brace. -/
def indentedMembers (depth : Nat) : List (String × Json) → List Char
  | [] => newline depth ++ ['}']
  | [(key, value)] =>
    newline (depth + 1) ++ quoted key ++ ':' :: ' ' :: indented (depth + 1) value ++
      newline depth ++ ['}']
  | (key, value) :: members =>
    newline (depth + 1) ++ quoted key ++ ':' :: ' ' :: indented (depth + 1) value ++
      ',' :: indentedMembers depth members

end

/-- The compact text of a value. -/
def render (value : Json) : String := String.ofList (compact value)

/-- The indented text of a value. -/
def renderIndented (value : Json) : String := String.ofList (indented 0 value)

end MigrationPreview.Json
