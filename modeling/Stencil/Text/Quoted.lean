import Stencil.Text.Printable

/-!
# Quoted text

The source form of texts and byte strings: between quotes, with backslash escapes. Single quotes are
used unless the content holds a single quote and no double one.
-/

namespace Stencil.Text

/-- The single quote. -/
def singleQuote : Char := '\x27'

/-- The double quote. -/
def doubleQuote : Char := '\x22'

/-- The quote to put around some content. -/
def quoteFor (content : List Char) : Char :=
  if content.contains singleQuote && !content.contains doubleQuote then doubleQuote
  else singleQuote

/-- The last `width` lower-case hexadecimal digits of a number. -/
def hexDigits : Nat → Nat → List Char
  | 0, _ => []
  | width + 1, n => hexDigits width (n / 16) ++ [Nat.digitChar (n % 16)]

/-- The escape for a code without a letter of its own, in as few as two, four or eight digits. -/
def hexEscape (n : Nat) : List Char :=
  if n < 0x100 then '\\' :: 'x' :: hexDigits 2 n
  else if n < 0x10000 then '\\' :: 'u' :: hexDigits 4 n
  else '\\' :: 'U' :: hexDigits 8 n

/-- One character between quotes: a backslash and the quote in use are escaped, line feed, carriage
return and tab have letters, other characters without a printed form are written in
hexadecimal. -/
def escape (quote c : Char) : List Char :=
  if c == '\\' || c == quote then ['\\', c]
  else if c == '\n' then ['\\', 'n']
  else if c == '\r' then ['\\', 'r']
  else if c == '\t' then ['\\', 't']
  else if isPrintable c then [c]
  else hexEscape c.toNat

/-- One byte between quotes: as a character where it is one of the first 127, else in
hexadecimal. -/
def escapeByte (quote : Char) (b : UInt8) : List Char :=
  if b.toNat < 0x7f then escape quote (Char.ofNat b.toNat) else hexEscape b.toNat

/-- A text in quotes. -/
def quoted (s : String) : String :=
  let content := s.toList
  let quote := quoteFor content
  String.ofList (quote :: content.flatMap (escape quote) ++ [quote])

/-- A byte string in quotes, marked by a leading letter. -/
def quotedBytes (bytes : List UInt8) : String :=
  let quote := quoteFor (bytes.map fun b => Char.ofNat b.toNat)
  String.ofList ('b' :: quote :: bytes.flatMap (escapeByte quote) ++ [quote])

/-- The digits of a byte string, two for each byte. -/
def hex (bytes : List UInt8) : String :=
  String.ofList (bytes.flatMap fun b => hexDigits 2 b.toNat)

/-- The value of a hexadecimal digit in either case. -/
def hexDigit? (c : Char) : Option Nat :=
  if '0' ≤ c ∧ c ≤ '9' then some (c.toNat - 48)
  else if 'a' ≤ c ∧ c ≤ 'f' then some (c.toNat - 87)
  else if 'A' ≤ c ∧ c ≤ 'F' then some (c.toNat - 55)
  else none

/-- The blanks that may stand between pairs of digits. -/
def isBlank (c : Char) : Bool :=
  c == ' ' || ('\x09' ≤ c && c ≤ '\x0d')

/-- The bytes that pairs of digits from the given place on stand for, with blanks between pairs left
out, or else the place of the first character that is no digit. A pair that is cut short lacks one
at the end. -/
def unhexFrom (place : Nat) : List Char → Except Nat (List UInt8)
  | [] => .ok []
  | [a] => if isBlank a then .ok [] else .error (if (hexDigit? a).isSome then place + 1 else place)
  | a :: b :: rest =>
    if isBlank a then unhexFrom (place + 1) (b :: rest)
    else
      match hexDigit? a, hexDigit? b with
      | none, _ => .error place
      | some _, none => .error (place + 1)
      | some high, some low =>
        (unhexFrom (place + 2) rest).map (UInt8.ofNat (16 * high + low) :: ·)

/-- The bytes that a run of digit pairs stands for, or else the place of a character in the way: the
first one beyond ASCII if there is any, and the first that is no digit otherwise. -/
def unhex (content : List Char) : Except Nat (List UInt8) :=
  match content.findIdx? fun c => decide (0x7f < c.toNat) with
  | some place => .error place
  | none => unhexFrom 0 content

end Stencil.Text
