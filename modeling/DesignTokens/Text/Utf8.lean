/-!
# UTF-8

Files hold bytes and the library works on text. Writing encodes every character; reading refuses
bytes that are not the shortest encoding of a character.

## Main Definitions

* `encodeUtf8` — the bytes of a text
* `decodeUtf8?` — the text that bytes encode, if they are an encoding
* `decodePrefix`, `wrongByte` — how far bytes are an encoding, and what ends it
* `unifyLineEnds` — text with every line end written as a line feed
-/

namespace DesignTokens.Text

/-- The bytes of a list of characters. -/
def encodeChars (cs : List Char) : List UInt8 := cs.flatMap String.utf8EncodeChar

/-- The bytes of a text. -/
def encodeUtf8 (s : String) : List UInt8 := encodeChars s.toList

/-- A byte that continues the encoding of a character. -/
def isContinuation (b : UInt8) : Bool := decide (0x80 ≤ b) && decide (b < 0xc0)

/-- The low six bits of a continuation byte. -/
def continuationBits (b : UInt8) : Nat := b.toNat % 0x40

/-- The character of a code point, unless it is a surrogate or beyond the last code point. -/
def charOfCode? (code : Nat) : Option Char :=
  if h : code.isValidChar then some (Char.ofNatAux code h) else none

/-- The characters that bytes encode. A sequence of two, three or four bytes stands for a code
point that needs as many. -/
def decodeChars? : List UInt8 → Option (List Char)
  | [] => some []
  | a :: rest =>
    if a < 0x80 then (decodeChars? rest).map (Char.ofNat a.toNat :: ·)
    else if a < 0xe0 then
      match rest with
      | b :: rest =>
        let code := a.toNat % 0x20 * 0x40 + continuationBits b
        if 0xc2 ≤ a && isContinuation b then
          (charOfCode? code).bind fun c => (decodeChars? rest).map (c :: ·)
        else none
      | _ => none
    else if a < 0xf0 then
      match rest with
      | b :: c :: rest =>
        let code := a.toNat % 0x10 * 0x1000 + continuationBits b * 0x40 + continuationBits c
        if isContinuation b && isContinuation c && decide (0x800 ≤ code) then
          (charOfCode? code).bind fun c => (decodeChars? rest).map (c :: ·)
        else none
      | _ => none
    else if a < 0xf8 then
      match rest with
      | b :: c :: d :: rest =>
        let code := a.toNat % 0x08 * 0x40000 + continuationBits b * 0x1000 +
          continuationBits c * 0x40 + continuationBits d
        if isContinuation b && isContinuation c && isContinuation d && decide (0x10000 ≤ code) then
          (charOfCode? code).bind fun c => (decodeChars? rest).map (c :: ·)
        else none
      | _ => none
    else none

/-- The text that bytes encode. -/
def decodeUtf8? (bs : List UInt8) : Option String := (decodeChars? bs).map String.ofList

/-- The first character that bytes encode, and how many bytes it takes. -/
def decodeHead? (bs : List UInt8) : Option (Char × Nat) :=
  [1, 2, 3, 4].findSome? fun n =>
    match decodeChars? (bs.take n) with
    | some [c] => some (c, n)
    | _ => none

/-- The characters that are encoded at the start of bytes, as many as there are up to a number, and
the bytes behind them. -/
def decodePrefix : Nat → List UInt8 → List Char × List UInt8
  | 0, bs => ([], bs)
  | most + 1, bs =>
    match decodeHead? bs with
    | none => ([], bs)
    | some (c, n) =>
      let (more, rest) := decodePrefix most (bs.drop n)
      (c :: more, rest)

/-- How many bytes belong to the encoding of a character that starts with a byte, if there is such
an encoding. -/
def encodingLength? (a : UInt8) : Option Nat :=
  if a < 0x80 then some 1
  else if a < 0xc2 then none
  else if a < 0xe0 then some 2
  else if a < 0xf0 then some 3
  else if a < 0xf5 then some 4
  else none

/-- Whether a byte can be the second one of an encoding that starts with another byte. -/
def canFollow (a b : UInt8) : Bool :=
  isContinuation b && !(a == 0xe0 && b < 0xa0) && !(a == 0xed && 0xa0 ≤ b) &&
    !(a == 0xf0 && b < 0x90) && !(a == 0xf4 && 0x90 ≤ b)

/-- The place of the byte that shows that bytes do not start with the encoding of a character; it is
behind the last byte if only more bytes could show it. -/
def wrongByte : List UInt8 → Nat
  | [] => 0
  | a :: rest =>
    match encodingLength? a, rest with
    | none, _ => 0
    | some _, [] => 1
    | some n, b :: rest =>
      if canFollow a b then 2 + ((rest.take (n - 2)).takeWhile isContinuation).length else 1

/-- Characters with every carriage return, alone or before a line feed, read as a line feed. -/
def unifyReturns : List Char → List Char
  | [] => []
  | '\r' :: '\n' :: rest => '\n' :: unifyReturns rest
  | c :: rest => (if c == '\r' then '\n' else c) :: unifyReturns rest

/-- Text with every line end written as a line feed. -/
def unifyLineEnds (s : String) : String := String.ofList (unifyReturns s.toList)

end DesignTokens.Text
