import MigrationPreview.Json.Basic

/-!
# Reading JSON text

A recursive-descent reader over the characters of a text. Every function returns what it read and
the characters behind it, or `none` where the text is not JSON.

## Main definitions

* `Json.readNumber`, `Json.readString`: the two kinds of tokens with structure
* `Json.readValue`: one value; the number of nested steps is bounded by its first argument
* `Json.parse`: the value of a whole text
-/

namespace MigrationPreview.Json

/-- Whether a character may stand between tokens. -/
def isSpace (c : Char) : Bool := c == ' ' || c == '\n' || c == '\t' || c == '\r'

/-- The text behind its leading spaces. -/
def skipSpaces (cs : List Char) : List Char := cs.dropWhile isSpace

/-! ### Numbers -/

/-- Reads a run of digits, at least one. -/
def readDigits (cs : List Char) : Option (List Char × List Char) :=
  match cs.takeWhile Char.isDigit with
  | [] => none
  | ds => some (ds, cs.dropWhile Char.isDigit)

/-- The number that a list of decimal digits denotes. -/
def natOfDigits (ds : List Char) : Nat := ds.foldl (fun n d => 10 * n + (d.toNat - '0'.toNat)) 0

/-- Reads the digits before the point: a zero stands alone. -/
def readWhole (cs : List Char) : Option (List Char × List Char) :=
  match readDigits cs with
  | some ('0' :: _ :: _, _) => none
  | other => other

/-- Reads a fraction, if there is one. The result is its literal. -/
def readFraction : List Char → Option (List Char × List Char)
  | '.' :: cs => (readDigits cs).map fun (ds, rest) => ('.' :: ds, rest)
  | cs => some ([], cs)

/-- Reads an exponent, if there is one. The result is its literal. -/
def readExponent : List Char → Option (List Char × List Char)
  | c :: cs =>
    if c = 'e' ∨ c = 'E' then
      let (sign, digits) := match cs with
        | '+' :: r => (['+'], r)
        | '-' :: r => (['-'], r)
        | r => ([], r)
      (readDigits digits).map fun (ds, rest) => (c :: sign ++ ds, rest)
    else some ([], c :: cs)
  | [] => some ([], [])

/-- The value of a number without fraction and exponent: an integer within the 64-bit ranges. The
negative zero and numbers beyond the ranges stay literals. -/
def integerOfDigits (negative : Bool) (ds : List Char) : Json :=
  let n := natOfDigits ds
  if negative then
    if 0 < n ∧ n ≤ UInt64.size / 2 then integer (-(n : Int))
    else decimal (String.ofList ('-' :: ds))
  else if n < UInt64.size then integer n
  else decimal (String.ofList ds)

/-- Reads a number behind its sign. -/
def readUnsigned (negative : Bool) (cs : List Char) : Option (Json × List Char) := do
  let (whole, afterWhole) ← readWhole cs
  let (fraction, afterFraction) ← readFraction afterWhole
  let (exponent, rest) ← readExponent afterFraction
  if fraction.isEmpty && exponent.isEmpty then
    return (integerOfDigits negative whole, rest)
  else
    let sign := if negative then ['-'] else []
    return (decimal (String.ofList (sign ++ whole ++ fraction ++ exponent)), rest)

/-- Reads a number. -/
def readNumber : List Char → Option (Json × List Char)
  | '-' :: cs => readUnsigned true cs
  | cs => readUnsigned false cs

/-! ### Strings -/

/-- What one position of a string literal stands for: a character, or a code unit of UTF-16. -/
inductive Piece where
  | char (c : Char)
  | unit (n : Nat)

/-- The value of a hexadecimal digit. -/
def hexValue (c : Char) : Option Nat :=
  if '0' ≤ c ∧ c ≤ '9' then some (c.toNat - '0'.toNat)
  else if 'a' ≤ c ∧ c ≤ 'f' then some (c.toNat - 'a'.toNat + 10)
  else if 'A' ≤ c ∧ c ≤ 'F' then some (c.toNat - 'A'.toNat + 10)
  else none

/-- The code unit of four hexadecimal digits. -/
def hexUnit (a b c d : Char) : Option Nat := do
  return 4096 * (← hexValue a) + 256 * (← hexValue b) + 16 * (← hexValue c) + (← hexValue d)

/-- The character behind a one-letter escape. -/
def escapedChar : Char → Option Char
  | '"' => some '"'
  | '\\' => some '\\'
  | '/' => some '/'
  | 'b' => some '\x08'
  | 'f' => some '\x0c'
  | 'n' => some '\n'
  | 'r' => some '\r'
  | 't' => some '\t'
  | _ => none

/-- Reads a string literal behind its opening quote, up to and including the closing one. -/
def readPieces : List Char → Option (List Piece × List Char)
  | [] => none
  | '"' :: cs => some ([], cs)
  -- the digits are checked before it is known whether the unit denotes a character
  | '\\' :: 'u' :: a :: b :: c :: d :: cs => do
    let n ← hexUnit a b c d
    let (pieces, rest) ← readPieces cs
    return (.unit n :: pieces, rest)
  | '\\' :: e :: cs => do
    let c ← escapedChar e
    let (pieces, rest) ← readPieces cs
    return (.char c :: pieces, rest)
  | c :: cs =>
    if c.toNat < 0x20 ∨ c = '\\' then none
    else do
      let (pieces, rest) ← readPieces cs
      return (.char c :: pieces, rest)

/-- Whether a code unit is the first half of a surrogate pair. -/
def isHighSurrogate (n : Nat) : Bool := 0xD800 ≤ n && n ≤ 0xDBFF

/-- Whether a code unit is the second half of a surrogate pair. -/
def isLowSurrogate (n : Nat) : Bool := 0xDC00 ≤ n && n ≤ 0xDFFF

/-- The text of the pieces: surrogates are joined in pairs, and there is no text if one of them
stands alone. -/
def assemble : List Piece → Option (List Char)
  | [] => some []
  | .char c :: ps => (assemble ps).map (c :: ·)
  | .unit high :: .unit low :: ps =>
    if isHighSurrogate high then
      if isLowSurrogate low then
        (assemble ps).map
          (Char.ofNat (0x10000 + 0x400 * (high - 0xD800) + (low - 0xDC00)) :: ·)
      else none
    else if isLowSurrogate high then none
    else (assemble (.unit low :: ps)).map (Char.ofNat high :: ·)
  | .unit n :: ps =>
    if isHighSurrogate n || isLowSurrogate n then none
    else (assemble ps).map (Char.ofNat n :: ·)

/-- Reads a string literal behind its opening quote. The inner option is empty if the literal
denotes no text. -/
def readString (cs : List Char) : Option (Option String × List Char) := do
  let (pieces, rest) ← readPieces cs
  return ((assemble pieces).map String.ofList, rest)

/-! ### Values -/

/-- An object, unless one of its keys denotes no text. -/
def objectOfMembers (members : List (Option String × Json)) : Json :=
  match members.mapM fun (key, value) => key.map fun k => (k, value) with
  | some ms => object ms
  | none => unreadable

/-- Reads a fixed word and stands for `value`. -/
def readWord (word : List Char) (value : Json) (cs : List Char) : Option (Json × List Char) :=
  if word.isPrefixOf cs then some (value, cs.drop word.length) else none

mutual

/-- Reads one value. The first argument bounds the nesting of calls. -/
def readValue : Nat → List Char → Option (Json × List Char)
  | 0, _ => none
  | fuel + 1, text =>
    match skipSpaces text with
    | [] => none
    | '"' :: cs => (readString cs).map fun (s, rest) =>
        (match s with
          | some s => string s
          | none => unreadable, rest)
    | '[' :: cs =>
      match skipSpaces cs with
      | ']' :: rest => some (array [], rest)
      | _ => (readItems fuel cs).map fun (items, rest) => (array items, rest)
    | '{' :: cs =>
      match skipSpaces cs with
      | '}' :: rest => some (object [], rest)
      | _ => (readMembers fuel cs).map fun (members, rest) => (objectOfMembers members, rest)
    | 'n' :: cs => readWord "ull".toList null cs
    | 't' :: cs => readWord "rue".toList (bool true) cs
    | 'f' :: cs => readWord "alse".toList (bool false) cs
    | c :: cs => readNumber (c :: cs)

/-- Reads the items of an array, at least one, up to and including the closing bracket. -/
def readItems : Nat → List Char → Option (List Json × List Char)
  | 0, _ => none
  | fuel + 1, text => do
    let (item, behind) ← readValue fuel text
    match skipSpaces behind with
    | ',' :: cs =>
      let (items, rest) ← readItems fuel cs
      return (item :: items, rest)
    | ']' :: rest => return ([item], rest)
    | _ => none

/-- Reads the members of an object, at least one, up to and including the closing brace. -/
def readMembers : Nat → List Char → Option (List (Option String × Json) × List Char)
  | 0, _ => none
  | fuel + 1, text =>
    match skipSpaces text with
    | '"' :: cs => do
      let (key, behindKey) ← readString cs
      match skipSpaces behindKey with
      | ':' :: cs =>
        let (value, behind) ← readValue fuel cs
        match skipSpaces behind with
        | ',' :: cs =>
          let (members, rest) ← readMembers fuel cs
          return ((key, value) :: members, rest)
        | '}' :: rest => return ([(key, value)], rest)
        | _ => none
      | _ => none
    | _ => none

end

/-- The value of a whole text, in which only spaces may surround the value. -/
def parse (text : String) : Option Json :=
  let cs := text.toList
  match readValue (2 * cs.length + 2) cs with
  | some (value, rest) => if (skipSpaces rest).isEmpty then some value else none
  | none => none

end MigrationPreview.Json
