import MigrationPreview.Url.Domain
import MigrationPreview.Url.Percent

/-!
# Hosts of URLs

A host is an address of one of the two versions of the Internet protocol or a name. A name is taken
as it is under most schemes; under the special schemes of the web it is a domain, which is written in
ASCII, and a domain that ends in a number is an address of version 4.

## Main definitions

* `Url.parseIpv6?`, `Url.ipv6Text`: addresses of version 6
* `Url.parseIpv4?`, `Url.ipv4Text`: addresses of version 4
* `Url.opaqueHost?`, `Url.domainHost?`: the text of a host under the two kinds of schemes
-/

namespace MigrationPreview.Url

/-! ### Version 6 -/

/-- The number of one to four hexadecimal digits. -/
def parsePiece? (cs : List Char) : Option Nat :=
  if cs.isEmpty ∨ 4 < cs.length then none
  else (cs.mapM digitValue?).map fun ds => ds.foldl (fun n d => 16 * n + d) 0

/-- The number of a decimal text, at most 255 and without leading zeros. -/
def parseByte? (cs : List Char) : Option Nat :=
  if cs.isEmpty ∨ !cs.all Char.isDigit ∨ (cs.head? = some '0' ∧ 1 < cs.length) then none
  else
    let n := cs.foldl (fun n c => 10 * n + (c.toNat - '0'.toNat)) 0
    if n ≤ 255 then some n else none

/-- The two pieces of an embedded address of version 4. -/
def parseEmbedded? (cs : List Char) : Option (List Nat) :=
  match (cs.splitOn '.').mapM parseByte? with
  | some [a, b, c, d] => some [256 * a + b, 256 * c + d]
  | _ => none

/-- The pieces between colons. The last one may be an embedded address of version 4 where
`embedding` says so. -/
def parsePieces? (embedding : Bool) : List (List Char) → Option (List Nat)
  | [] => some []
  | [cs] => if embedding && cs.contains '.' then parseEmbedded? cs else (parsePiece? cs).map ([·])
  | cs :: rest => do return (← parsePiece? cs) :: (← parsePieces? embedding rest)

/-- The pieces of a possibly empty text. -/
def piecesOf? (embedding : Bool) (cs : List Char) : Option (List Nat) :=
  if cs.isEmpty then some [] else parsePieces? embedding (cs.splitOn ':')

/-- The texts before and behind the first double colon. -/
def splitAtDoubleColon : List Char → Option (List Char × List Char)
  | [] => none
  | ':' :: ':' :: rest => some ([], rest)
  | c :: cs => (splitAtDoubleColon cs).map fun (before, behind) => (c :: before, behind)

/-- The eight pieces of an address. A double colon stands for one or more pieces that are zero. -/
def parseIpv6? (cs : List Char) : Option (List Nat) :=
  match splitAtDoubleColon cs with
  | none => (piecesOf? true cs).bind fun ps => if ps.length = 8 then some ps else none
  | some (before, behind) => do
    let left ← piecesOf? false before
    let right ← piecesOf? true behind
    let known := left.length + right.length
    if known ≤ 7 then return left ++ List.replicate (8 - known) 0 ++ right else none

/-- The length of the run of zeros at the beginning. -/
def zeroRun (ps : List Nat) : Nat := (ps.takeWhile (· == 0)).length

/-- The place and the length of the first longest run of at least two zeros. -/
def longestZeroRun (ps : List Nat) : Option (Nat × Nat) :=
  (List.range ps.length).foldl (fun best i =>
    let run := zeroRun (ps.drop i)
    if 2 ≤ run ∧ (match best with | some (_, n) => n | none => 1) < run then some (i, run)
    else best) none

/-- Pieces in hexadecimal digits, joined by colons. -/
def piecesText (ps : List Nat) : List Char :=
  [':'].intercalate (ps.map fun p => Nat.toDigits 16 p)

/-- An address in brackets. A double colon stands for the first longest run of at least two
zeros. -/
def ipv6Text (ps : List Nat) : List Char :=
  let inner := match longestZeroRun ps with
    | some (i, run) => piecesText (ps.take i) ++ [':', ':'] ++ piecesText (ps.drop (i + run))
    | none => piecesText ps
  '[' :: inner ++ [']']

/-- The text of an address that is given with its brackets. -/
def bracketedHost? (cs : List Char) : Option (List Char) :=
  match cs with
  | '[' :: rest =>
    if rest.getLast? = some ']' then (parseIpv6? rest.dropLast).map ipv6Text else none
  | _ => none

/-! ### Version 4 -/

/-- The value of a run of digits of the given base. -/
def parseRadix? (base : Nat) (cs : List Char) : Option Nat :=
  (cs.mapM fun c => (digitValue? c).filter (· < base)).map fun ds =>
    ds.foldl (fun n d => base * n + d) 0

/-- The number that a part of an address stands for: hexadecimal behind `0x`, octal behind another
zero, and decimal otherwise. -/
def parseIpv4Number? : List Char → Option Nat
  | [] => none
  | '0' :: 'x' :: cs => parseRadix? 16 cs
  | '0' :: 'X' :: cs => parseRadix? 16 cs
  | '0' :: c :: cs => parseRadix? 8 (c :: cs)
  | cs => parseRadix? 10 cs

/-- The parts of a domain, without an empty one at its end. -/
def domainParts (cs : List Char) : List (List Char) :=
  let parts := cs.splitOn '.'
  if 1 < parts.length ∧ parts.getLast? = some [] then parts.dropLast else parts

/-- Whether the last part of a domain is a number. -/
def endsInNumber (cs : List Char) : Bool :=
  match (domainParts cs).getLast? with
  | some part => (!part.isEmpty && part.all Char.isDigit) || (parseIpv4Number? part).isSome
  | none => false

/-- The address of up to four numbers, of which the last one fills all remaining bytes. -/
def parseIpv4? (cs : List Char) : Option Nat := do
  let parts := domainParts cs
  if 4 < parts.length then none
  else
    let numbers ← parts.mapM parseIpv4Number?
    let last ← numbers.getLast?
    let first := numbers.dropLast
    if first.any (255 < ·) ∨ Nat.pow 256 (4 - first.length) ≤ last then none
    else return first.foldl (fun n b => 256 * n + b) 0 * Nat.pow 256 (4 - first.length) + last

/-- An address as four decimal numbers. -/
def ipv4Text (n : Nat) : List Char :=
  ['.'].intercalate
    ([n / 16777216, n / 65536 % 256, n / 256 % 256, n % 256].map fun b => Nat.toDigits 10 b)

/-! ### Names -/

/-- Whether a character cannot stand in a host. -/
def isForbiddenInHost (c : Char) : Bool :=
  ['\x00', '\t', '\n', '\r', ' ', '#', '/', ':', '<', '>', '?', '@', '[', '\\', ']', '^',
    '|'].contains c

/-- The text of a host under a scheme that is not special. -/
def opaqueHost? (cs : List Char) : Option (List Char) :=
  if cs.head? = some '[' then bracketedHost? cs
  else if cs.any isForbiddenInHost then none
  else some (percentEncode isControlEncoded cs)

/-- Whether a character cannot stand in a domain. -/
def isForbiddenInDomain (c : Char) : Bool :=
  isForbiddenInHost c || c == '%' || c.toNat < 0x20 || c.toNat == 0x7F

/-- The text of a host under a special scheme. -/
def domainHost? (cs : List Char) : Option (List Char) := do
  if cs.head? = some '[' then bracketedHost? cs
  else
    let decoded ← String.fromUTF8? (ByteArray.mk (percentDecode cs).toArray)
    let domain ← asciiDomain? decoded.toList
    if domain.isEmpty ∨ domain.any isForbiddenInDomain then none
    else if endsInNumber domain then (parseIpv4? domain).map ipv4Text
    else return domain

end MigrationPreview.Url
