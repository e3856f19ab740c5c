/-!
# Percent encoding

In a URL, a character that has no place where it stands is written as its UTF-8 bytes, each as a
percent sign and two hexadecimal digits. Which characters that are depends on the part of the URL.

## Main definitions

* `Url.percentEncode`: a text with some characters encoded
* `Url.percentDecode`: the bytes that a text stands for
* `Url.isControlEncoded`, `Url.isPathEncoded`, `Url.isUserinfoEncoded`: the sets of characters that
  are encoded in hosts, paths and credentials
-/

namespace MigrationPreview.Url

/-- The hexadecimal digit of a number below sixteen, in upper case. -/
def upperDigit (n : Nat) : Char :=
  if n < 10 then Char.ofNat ('0'.toNat + n) else Char.ofNat ('A'.toNat + (n - 10))

/-- A byte as a percent sign and two digits. -/
def percentByte (b : UInt8) : List Char :=
  ['%', upperDigit (b.toNat / 16), upperDigit (b.toNat % 16)]

/-- A text in which the characters of a set are encoded. -/
def percentEncode (encoded : Char → Bool) (cs : List Char) : List Char :=
  cs.flatMap fun c => if encoded c then (String.utf8EncodeChar c).flatMap percentByte else [c]

/-- The value of a hexadecimal digit in either case. -/
def digitValue? (c : Char) : Option Nat :=
  if '0' ≤ c ∧ c ≤ '9' then some (c.toNat - '0'.toNat)
  else if 'a' ≤ c ∧ c ≤ 'f' then some (c.toNat - 'a'.toNat + 10)
  else if 'A' ≤ c ∧ c ≤ 'F' then some (c.toNat - 'A'.toNat + 10)
  else none

/-- The bytes that a text stands for. A percent sign without two digits behind it stands for
itself. -/
def percentDecode : List Char → List UInt8
  | [] => []
  | '%' :: a :: b :: cs =>
    match digitValue? a, digitValue? b with
    | some high, some low => UInt8.ofNat (16 * high + low) :: percentDecode cs
    | _, _ => '%'.toUInt8 :: percentDecode (a :: b :: cs)
  | c :: cs => String.utf8EncodeChar c ++ percentDecode cs

/-- Control characters and everything outside ASCII. -/
def isControlEncoded (c : Char) : Bool := c.toNat < 0x20 || 0x7F ≤ c.toNat

/-- What is encoded in a path. -/
def isPathEncoded (c : Char) : Bool :=
  isControlEncoded c || [' ', '"', '#', '<', '>', '?', '\x60', '\x7b', '\x7d'].contains c

/-- What is encoded in a user name or a password. -/
def isUserinfoEncoded (c : Char) : Bool :=
  isPathEncoded c || ['/', ':', ';', '=', '@', '[', '\\', ']', '^', '|'].contains c

end MigrationPreview.Url
