import MigrationPreview.Migration.Operation
import MigrationPreview.Text.Blank
import MigrationPreview.Text.Search
import MigrationPreview.Text.Word

/-!
# Method bodies

A migration has a public method for each direction. Its body is what stands between the opening
brace behind the signature and the closing brace that matches it, where braces in string literals
and in comments do not count. If no brace matches, the body ends before the next method declaration
or at the end of the source.

## Main definitions

* `readSignature`: a signature up to its opening brace
* `beforeClosing`: the text before the closing brace that matches
* `beforeDeclaration`: the text before the next method declaration
* `MethodBody`: bodies, and `MethodBody.find?`, which finds one in a source
-/

namespace MigrationPreview

open Text

/-! ### Signatures -/

/-- Reads a word and the blanks behind it, at least one. -/
def readSpaced (word cs : List Char) : Option (List Char) :=
  match expect word cs with
  | some (c :: rest) => if isBlank c then some (skipBlanks rest) else none
  | _ => none

/-- The text behind the last opening brace, if there is one that is not the first character. -/
def behindLastBrace? (cs : List Char) : Option (List Char) :=
  let behind := cs.reverse.takeWhile (· != '{')
  if behind.length + 1 < cs.length then some behind.reverse else none

/-- Reads a return type behind its colon, and the opening brace. The type is a run of characters
that are not blank. The brace stands behind the type; failing that, it is the last brace within the
run. -/
def readReturnType (cs : List Char) : Option (List Char) :=
  let run := cs.takeWhile (!isBlank ·)
  let behind := cs.dropWhile (!isBlank ·)
  match run, skipBlanks behind with
  -- the type is taken as long as possible, so a brace behind the run comes first
  | _ :: _, '{' :: rest => some rest
  | _, _ => (behindLastBrace? run).map (· ++ behind)

/-- Reads an optional return type and the opening brace. -/
def readBrace (cs : List Char) : Option (List Char) :=
  match skipBlanks cs with
  | '{' :: rest => some rest
  | ':' :: rest => readReturnType (skipBlanks rest)
  | _ => none

/-- Reads a parameter list. -/
def readParameters (cs : List Char) : Option (List Char) :=
  match cs with
  | '(' :: cs =>
    match cs.dropWhile (· != ')') with
    | _ :: rest => some rest
    | [] => none
  | _ => none

/-- Reads the signature of a public method up to its opening brace; the result is the text behind
the brace. -/
def readSignature (method : List Char) (cs : List Char) : Option (List Char) := do
  let cs ← readSpaced "public".toList cs
  let cs ← readSpaced "function".toList cs
  let cs ← readParameters (skipBlanks (← expect method cs))
  readBrace cs

/-! ### Matching braces -/

/-- What the scanner stands in. -/
inductive Lexical where
  | code
  /-- A string literal with the given quote; the flag is set behind a backslash. -/
  | literal (quote : Char) (escaped : Bool)
  | lineComment
  /-- A comment between `/*` and `*/`; the flag is set behind a star. -/
  | blockComment (star : Bool)
  deriving DecidableEq

/-- Where the scanner stands behind one character; only the beginning of a comment takes two. -/
def Lexical.next : Lexical → Char → Lexical
  | .code, c => if c = '"' ∨ c = '\x27' then .literal c false else .code
  | .literal q true, _ => .literal q false
  | .literal q false, c =>
    if c = '\\' then .literal q true else if c = q then .code else .literal q false
  | .lineComment, c => if c = '\n' then .code else .lineComment
  | .blockComment star, c => if star ∧ c = '/' then .code else .blockComment (c = '*')

/-- The text before the closing brace that matches, if there is one. The second argument counts the
braces that are open around the brace to be matched. -/
def beforeClosing : Lexical → Nat → List Char → Option (List Char)
  | _, _, [] => none
  | .code, depth, '#' :: cs => (beforeClosing .lineComment depth cs).map ('#' :: ·)
  | .code, depth, '/' :: '/' :: cs =>
    (beforeClosing .lineComment depth cs).map ('/' :: '/' :: ·)
  | .code, depth, '/' :: '*' :: cs =>
    (beforeClosing (.blockComment false) depth cs).map ('/' :: '*' :: ·)
  | .code, depth, '{' :: cs => (beforeClosing .code (depth + 1) cs).map ('{' :: ·)
  | .code, 0, '}' :: _ => some []
  | .code, depth + 1, '}' :: cs => (beforeClosing .code depth cs).map ('}' :: ·)
  -- braces in literals and comments are characters like all others
  | state, depth, c :: cs => (beforeClosing (state.next c) depth cs).map (c :: ·)

/-! ### Bodies without a closing brace -/

/-- Reads the modifiers of a declaration; `count` bounds their number. -/
def skipModifiers : Nat → List Char → List Char
  | 0, cs => cs
  | count + 1, cs =>
    match ["public", "protected", "private", "static"].findSome? fun m => readSpaced m.toList cs with
    | some rest => skipModifiers count rest
    | none => cs

/-- Reads the declaration of a method up to its parameter list. -/
def readDeclaration (cs : List Char) : Option (List Char) := do
  let cs := skipBlanks cs
  let cs ← readSpaced "function".toList (skipModifiers cs.length cs)
  match cs.takeWhile isWord with
  | [] => none
  | _ => expect ['('] (skipBlanks (cs.dropWhile isWord))

/-- The text before the first line that begins a declaration, blank lines in front of it counted
with it. The flag tells whether the text begins a line. -/
def beforeDeclaration : Bool → List Char → List Char
  | _, [] => []
  | lineStart, c :: cs =>
    if lineStart && (readDeclaration (c :: cs)).isSome then []
    else c :: beforeDeclaration (c == '\n') cs

/-! ### Bodies -/

/-- The body of a method. -/
structure MethodBody where
  /-- The text between the braces. -/
  text : List Char
  /-- The number of characters of the source before the body. -/
  offset : Nat
  /-- The line of the opening brace, counted from one. -/
  startLine : Nat
  /-- Whether the closing brace is missing. -/
  truncated : Bool
  deriving DecidableEq

namespace MethodBody

/-- The body of the method of a direction, if the source has one. -/
def find? (direction : Direction) (source : List Char) : Option MethodBody := do
  let behind ← firstMatch (readSignature direction.name.toList) source
  let offset := source.length - behind.length
  let startLine := 1 + (source.take offset).count '\n'
  match beforeClosing .code 0 behind with
  | some text => return ⟨text, offset, startLine, false⟩
  | none => return ⟨beforeDeclaration true behind, offset, startLine, true⟩

end MethodBody

end MigrationPreview
