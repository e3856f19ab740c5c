import MigrationPreview.Text.Alphanumeric

/-!
# Patterns of field values

A directive of a log filter may ask for the value of a field: a number, a truth value or a regular
expression. No message carries a value that could fit, so all that matters is whether the pattern can
be read. Repetitions with counts and word boundaries are not supported.

## Main definitions

* `LogPattern.readEscape?`, `LogPattern.readClass?`: parts of a regular expression
* `LogPattern.isReadable`: whether a text is a pattern
-/

namespace MigrationPreview.LogPattern

open Text

/-! ### Escapes -/

/-- What a backslash and the characters behind it stand for. -/
inductive Escape where
  | letter (code : Nat)
  /-- One of several characters. -/
  | oneOf
  /-- A place between characters. -/
  | anchor
  deriving DecidableEq

/-- The value of a hexadecimal digit. -/
def hexValue? (c : Char) : Option Nat :=
  "0123456789abcdef".toList.findIdx? (· = c.toLower)

/-- Reads a character that is given by the number `digits` of hexadecimal digits. -/
def readCode? (digits : Nat) (cs : List Char) : Option (Escape × List Char) := do
  let values ← (cs.take digits).mapM hexValue?
  let code := values.foldl (fun n d => 16 * n + d) 0
  if values.length = digits ∧ code.isValidChar then some (.letter code, cs.drop digits) else none

/-- Reads an escape behind its backslash. -/
def readEscape? : List Char → Option (Escape × List Char)
  | [] => none
  | 'x' :: cs => readCode? 2 cs
  | 'u' :: cs => readCode? 4 cs
  | 'U' :: cs => readCode? 8 cs
  | c :: cs =>
    if ['p', 'P'].contains c then
      match cs with
      | category :: cs =>
        if "clmnpsz".toList.contains category.toLower then some (.oneOf, cs) else none
      | [] => none
    else if ['d', 's', 'w', 'D', 'S', 'W'].contains c then some (.oneOf, cs)
    else if ['A', 'z'].contains c then some (.anchor, cs)
    else
      match "abtnvfr".toList.findIdx? (· = c) with
      -- the backspace among these control characters has no letter
      | some i => if c = 'b' then none else some (.letter (7 + i), cs)
      | none =>
        if c.toNat < 128 ∧ !c.isAlphanum ∧ c ≠ '<' ∧ c ≠ '>' then some (.letter c.toNat, cs)
        else none

/-! ### Classes -/

/-- Reads one member of a class. -/
def readMember? : List Char → Option (Escape × List Char)
  | '\\' :: cs => (readEscape? cs).filter (·.1 ≠ .anchor)
  | c :: cs => some (.letter c.toNat, cs)
  | [] => none

/-- Reads a member or a range of characters. -/
def readRange? (cs : List Char) : Option (List Char) := do
  let (first, rest) ← readMember? cs
  match rest with
  | '-' :: c :: _ =>
    if c = ']' ∨ c = '-' then some rest
    else
      match first, ← readMember? (rest.drop 1) with
      | .letter a, (.letter b, rest) => if a ≤ b then some rest else none
      | _, _ => none
  | _ => some rest

/-- What follows the first bracket of a class and the characters that are special only there. -/
def dropClassHead (cs : List Char) : List Char :=
  let cs := match cs with
    | '^' :: cs => cs
    | cs => cs
  match cs with
  | ']' :: cs => cs
  | cs => cs.dropWhile (· = '-')

/-- Reads what is left of a class; `depth` brackets around it are open. The number of steps is at
most `fuel`. -/
def readClass? : Nat → Nat → List Char → Option (List Char)
  | 0, _, _ => none
  | _, _, [] => none
  | fuel + 1, depth, c :: cs =>
    if c = ']' then
      match depth with
      | 0 => some cs
      | depth + 1 => readClass? fuel depth cs
    else if c = '[' then readClass? fuel (depth + 1) (dropClassHead cs)
    else if ['&', '-', '~'].contains c ∧ cs.head? = some c then readClass? fuel depth (cs.drop 1)
    else (readRange? (c :: cs)).bind (readClass? fuel depth)

/-! ### Groups -/

/-- What a group begins with behind its parenthesis and question mark. -/
inductive GroupHead where
  | named (name : List Char)
  | unnamed
  /-- Settings for the rest of the group around it. -/
  | settings
  deriving DecidableEq

/-- Reads the name of a group and the bracket behind it. -/
def readName? (cs : List Char) : Option (List Char × List Char) :=
  let name := cs.takeWhile (· != '>')
  match name, cs.drop name.length with
  | c :: inner, _ :: rest =>
    if (c = '_' ∨ (isAlphanumeric c ∧ !c.isDigit)) ∧
        inner.all fun d => ['_', '.', '[', ']'].contains d || isAlphanumeric d then
      some (name, rest)
    else none
  | _, _ => none

/-- Reads the beginning of a group. -/
def readGroupHead? (cs : List Char) : Option (GroupHead × List Char) :=
  match cs with
  | '<' :: rest => (readName? rest).map fun (name, rest) => (.named name, rest)
  | 'P' :: '<' :: rest => (readName? rest).map fun (name, rest) => (.named name, rest)
  | _ =>
    let flags := cs.takeWhile fun c => c != ':' && c != ')'
    if !flags.all "imsUuRx-".toList.contains ∨ !flags.Nodup ∨ flags.getLast? = some '-' then none
    else
      match cs.drop flags.length with
      | ':' :: rest => some (.unnamed, rest)
      | ')' :: rest => if flags.isEmpty then none else some (.settings, rest)
      | _ => none

/-! ### Patterns -/

/-- Whether the rest of a regular expression can be read, where `depth` groups are open, the groups
so far have the given names, and `repeatable` tells whether a repetition may follow. The number of
steps is at most `fuel`. -/
def isExpressionFrom : Nat → Nat → Bool → List (List Char) → List Char → Bool
  | 0, _, _, _, _ => false
  | _, depth, _, _, [] => depth == 0
  | fuel + 1, depth, repeatable, names, c :: cs =>
    if c = '(' then
      match cs with
      | '?' :: rest =>
        match readGroupHead? rest with
        | some (.named name, rest) =>
          !names.contains name && isExpressionFrom fuel (depth + 1) false (name :: names) rest
        | some (.unnamed, rest) => isExpressionFrom fuel (depth + 1) false names rest
        | some (.settings, rest) => isExpressionFrom fuel depth false names rest
        | none => false
      | _ => isExpressionFrom fuel (depth + 1) false names cs
    else if c = ')' then 0 < depth && isExpressionFrom fuel (depth - 1) true names cs
    else if c = '|' then isExpressionFrom fuel depth false names cs
    else if ['*', '+', '?'].contains c then
      repeatable && isExpressionFrom fuel depth true names cs
    else if c = '\x7b' then false
    else if c = '[' then
      match readClass? (cs.length + 1) 0 (dropClassHead cs) with
      | some rest => isExpressionFrom fuel depth true names rest
      | none => false
    else if c = '\\' then
      match readEscape? cs with
      | some (_, rest) => isExpressionFrom fuel depth true names rest
      | none => false
    else isExpressionFrom fuel depth true names cs

/-- Whether a text is a decimal number, perhaps with a point and an exponent, or one of the words
for infinity and for no number. -/
def isDecimal (cs : List Char) : Bool :=
  let whole := cs.takeWhile Char.isDigit
  let rest := cs.drop whole.length
  let fraction := match rest with
    | '.' :: rest => rest.takeWhile Char.isDigit
    | _ => []
  let exponent := match rest with
    | '.' :: rest => rest.drop fraction.length
    | _ => rest
  let isExponent := match exponent with
    | [] => true
    | e :: rest =>
      let digits := match rest with
        | '+' :: digits => digits
        | '-' :: digits => digits
        | digits => digits
      e.toLower = 'e' && !digits.isEmpty && digits.all Char.isDigit
  ["inf", "infinity", "nan"].contains (String.ofList (cs.map Char.toLower)) ||
    (!(whole.isEmpty && fraction.isEmpty) && isExponent)

/-- Whether a text is a pattern. Only a number may begin with a plus sign. -/
def isReadable (cs : List Char) : Bool :=
  match cs with
  | '+' :: rest => isDecimal rest
  | _ => isExpressionFrom (cs.length + 1) 0 false [] cs

end MigrationPreview.LogPattern
