import DesignTokens.Text.Utf8
import DesignTokens.Yaml.Source

/-!
# Texts that are read in portions

The file of a YAML text is read in portions while the text is looked at: bytes are decoded in
portions of some size, and characters are passed on and examined in portions of another size. What
is wrong with a portion is met by whoever looks so far, and not before.

## Main Definitions

* `Source.ofBytes` — the source that the bytes of a file give
* `Source.ofText` — the same for bytes that encode a text

## Design Notes

The first two portions of characters are read before anything else is done. The bytes of a portion
are decoded before its characters are examined.
-/

namespace DesignTokens.Yaml

/-- How many characters are passed on at once. -/
def charPortion : Nat := 4096

/-- How many bytes are decoded at once when some characters are asked for: as many as the characters
would take if they were like those of the portion before, and not less than a fixed number. -/
def bytePortion (asked bytesBefore charsBefore : Nat) : Nat :=
  max 8192 (asked * bytesBefore / charsBefore)

/-- The place in front of the portion that holds a place. Nothing stands in front of the first two
portions. -/
def portionStart (place : Nat) : Nat :=
  if place < 2 * charPortion then 0 else place / charPortion * charPortion

/-- The source of a text that can be looked at up to a place, where a fault is met. -/
def Source.upTo (text : List Char) (place : Nat) (fault : Fault) : Source :=
  ⟨text.take (portionStart place), some fault⟩

/-- Where the first character stands that no YAML text may hold. -/
def forbiddenPlace? (text : List Char) : Option Nat :=
  let place := (text.takeWhile isAllowed).length
  if place < text.length then some place else none

/-- The source of a text. -/
def Source.ofText (text : List Char) : Source :=
  match forbiddenPlace? text with
  | none => ⟨text, none⟩
  | some place => .upTo text place .malformed

/-- The characters that are known when some bytes have been decoded and more may come. A line end
that may go on in what comes is not among them. -/
def decodedSoFar (bytes : List UInt8) : List Char :=
  let chars := (Text.decodePrefix bytes.length bytes).1
  Text.unifyReturns (if chars.getLast? == some '\r' then chars.dropLast else chars)

/-- How many bytes stand in front of the portion that holds a place, if the portions up to some
number of bytes have given some characters. The numbers of bytes and characters of the last portion
are given too; the first argument bounds the number of portions. -/
def bytesBefore (bytes : List UInt8) (place : Nat) : Nat → Nat → Nat → Nat → Nat → Nat
  | 0, start, _, _, _ => start
  | portions + 1, start, decoded, lastBytes, lastChars =>
    let stop := start + bytePortion (charPortion - decoded % charPortion) lastBytes lastChars
    if place < stop then start
    else
      let decodedNow := (decodedSoFar (bytes.take stop)).length
      bytesBefore bytes place portions stop decodedNow (stop - start) (decodedNow - decoded)

/-- The characters that are decoded before a portion of bytes is met that encodes no text. -/
def decodedBefore (bytes : List UInt8) : List Char :=
  let rest := (Text.decodePrefix bytes.length bytes).2
  let wrong := bytes.length - rest.length + Text.wrongByte rest
  decodedSoFar
    (if wrong < bytes.length then bytes.take (bytesBefore bytes wrong bytes.length 0 0 0 0) else bytes)

/-- The source that the bytes of a file give. -/
def Source.ofBytes (bytes : List UInt8) : Source :=
  match Text.decodeChars? bytes with
  | some chars => .ofText (Text.unifyReturns chars)
  | none =>
    let chars := decodedBefore bytes
    match forbiddenPlace? chars with
    | none => .upTo chars chars.length .undecodable
    | some place =>
      if portionStart place < portionStart chars.length then .upTo chars place .malformed
      else .upTo chars chars.length .undecodable

end DesignTokens.Yaml
