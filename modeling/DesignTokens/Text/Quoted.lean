import DesignTokens.Text.Printable

/-!
# Quoted text

Messages quote text and bytes so that every character can be told. The quotes are single ones,
unless the text holds a single quote and no double quote. The backslash, the enclosing quote and
whatever is not printable are escaped.

## Main Definitions

* `quoted` — a string in quotes
* `quotedBytes` — a byte string in quotes, marked with a leading `b`
-/

namespace DesignTokens.Text

/-- The digits of a number in base sixteen, filled up with zeros at the left. -/
def hexDigits (width n : Nat) : List Char :=
  let digits := Nat.toDigits 16 n
  List.replicate (width - digits.length) '0' ++ digits

/-- The escape of a character by its code point: two, four or eight hexadecimal digits. -/
def codeEscape (code : Nat) : List Char :=
  if code ≤ 0xff then '\\' :: 'x' :: hexDigits 2 code
  else if code ≤ 0xffff then '\\' :: 'u' :: hexDigits 4 code
  else '\\' :: 'U' :: hexDigits 8 code

/-- The quotes that enclose a text. -/
def quoteFor (cs : List Char) : Char :=
  if cs.contains '\'' && !cs.contains '"' then '"' else '\''

/-- A character between quotes. -/
def escapeChar (quote c : Char) : List Char :=
  if c == quote || c == '\\' then ['\\', c]
  else if c == '\n' then ['\\', 'n']
  else if c == '\r' then ['\\', 'r']
  else if c == '\t' then ['\\', 't']
  else if isPrintable c then [c]
  else codeEscape c.toNat

/-- A string in quotes. -/
def quoted (s : String) : String :=
  let cs := s.toList
  let quote := quoteFor cs
  String.ofList (quote :: cs.flatMap (escapeChar quote) ++ [quote])

/-- A byte between quotes: bytes outside ASCII are escaped like control characters. -/
def escapeByte (quote : Char) (b : UInt8) : List Char :=
  if b.toNat < 0x7f then escapeChar quote (Char.ofNat b.toNat) else codeEscape b.toNat

/-- A byte string in quotes. -/
def quotedBytes (bs : List UInt8) : String :=
  let cs := bs.map fun b => Char.ofNat b.toNat
  let quote := quoteFor cs
  String.ofList ('b' :: quote :: bs.flatMap (escapeByte quote) ++ [quote])

end DesignTokens.Text
