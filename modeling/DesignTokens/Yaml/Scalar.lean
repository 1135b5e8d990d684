import DesignTokens.Datum.Text
import DesignTokens.Number.Reading
import DesignTokens.Text.Base64
import DesignTokens.Text.Lowercase
import DesignTokens.Yaml.Tag

/-!
# Scalars as data

What a tagged scalar stands for. The tag decides alone, so a scalar that is told to be a number may
fail to be one.

## Main Definitions

* `scalarDatum` — the datum of a tagged scalar
* `Fault.message` — why there is none

## Design Notes

Integers and floating point numbers may be written in base sixty, with colons between the digits;
underscores inside of numbers mean nothing. Capital letters count as small ones in truth values and
floating point numbers, whatever their script.
-/

namespace DesignTokens.Yaml

open Number

/-- An integer in a base. -/
def readBase (base : Nat) (cs : List Char) : Except Fault Int :=
  (Number.readInteger base cs).mapError fun
    | .form => .notInteger base cs
    | .tooLong digits => .integerTooLong digits

/-- A number in base sixty from its digits, the greatest first. -/
def ofSixties (digits : List Int) : Int := digits.foldl (fun n d => 60 * n + d) 0

/-- The integer of an unsigned text. -/
def readUnsigned (cs : List Char) : Except Fault Int :=
  match cs with
  | [] => .error .emptyNumber
  | ['0'] => .ok 0
  | '0' :: 'b' :: rest => readBase 2 rest
  | '0' :: 'x' :: rest => readBase 16 rest
  | '0' :: _ => readBase 8 cs
  | _ =>
    if cs.contains ':' then ((Text.splitAtChar ':' cs).mapM (readBase 10)).map ofSixties
    else readBase 10 cs

/-- The text of a number without underscores, parted into its sign and the rest. -/
def splitNumber (cs : List Char) : Except Fault (Bool × List Char) :=
  match cs.filter (· != '_') with
  | [] => .error .emptyNumber
  | clean => .ok (splitSign clean)

/-- The integer that a scalar spells. -/
def readInt (cs : List Char) : Except Fault Int := do
  let (negative, unsigned) ← splitNumber cs
  let n ← readUnsigned unsigned
  .ok (if negative then -n else n)

/-- A floating point number without a sign in front. -/
def readFloatText (cs : List Char) : Except Fault Double :=
  match Double.ofText? (String.ofList cs) with
  | some x => .ok x
  | none => .error (.notFloat cs)

/-- A number in base sixty from its digits, the least first, and the value of a one at the first
place. It is rounded at every step. -/
def sumSixties (total : Double) (one : Nat) : List Double → Except Fault Double
  | [] => .ok total
  | digit :: rest =>
    match Double.ofInt? one with
    | none => .error .placeTooHigh
    | some place => sumSixties (Double.add total (Double.mul digit place)) (60 * one) rest

/-- The floating point number that a scalar spells. -/
def readFloat (cs : List Char) : Except Fault Double := do
  let (negative, unsigned) ← splitNumber cs
  let unsigned := Text.lower unsigned
  let sign := fun x => if negative then Double.neg x else x
  if unsigned = ".inf".toList then .ok (Double.infinity negative)
  else if unsigned = ".nan".toList then .ok Double.nan
  else if unsigned.contains ':' then
    let digits ← (Text.splitAtChar ':' unsigned).mapM readFloatText
    let x ← sumSixties Double.zero 1 digits.reverse
    .ok (sign x)
  else do
    let x ← readFloatText unsigned
    .ok (sign x)

/-- The truth value that a scalar spells. -/
def readBool (cs : List Char) : Except Fault Bool :=
  let word := Text.lower cs
  if ["yes", "true", "on"].any (·.toList == word) then .ok true
  else if ["no", "false", "off"].any (·.toList == word) then .ok false
  else .error (.notBool word)

/-- Millionths of a second from the digits of a fraction, of which six count. -/
def microseconds (digits : List Char) : Nat :=
  digitsValue (digits.take 6 ++ List.replicate (6 - digits.length) '0')

/-- The date or the point of time that a scalar spells. -/
def readTimestamp (cs : List Char) : Except Fault Datum :=
  match readTimestamp? (dropLastBreak cs) with
  | none => .error .notTimestamp
  | some t =>
    let day := (Date.make t.year t.month t.day).mapError Fault.calendar
    match t.time with
    | none => day.map Datum.date
    | some (hour, minute, second, fraction, offset) =>
      match offset.filter fun span => decide (1440 ≤ span.natAbs) with
      | some span => .error (.calendar (.offset span))
      | none => do
        let date ← day
        let moment ← (Moment.make date hour minute second (microseconds fraction)
          offset).mapError Fault.calendar
        .ok (.moment moment)

/-- The bytes that a scalar spells. -/
def readBinary (cs : List Char) : Except Fault (List UInt8) :=
  if cs.all fun c => decide (c.toNat < 0x80) then
    match Text.decodeBase64? cs with
    | some bytes => .ok bytes
    | none => .error .malformed
  else .error .malformed

/-- The datum of a tagged scalar. A tag of a collection or without a meaning has none. -/
def scalarDatum (tag : Tag) (text : String) : Except Fault Datum :=
  let cs := text.toList
  match tag with
  | .null => .ok .null
  | .bool => (readBool cs).map Datum.bool
  | .int => (readInt cs).map Datum.int
  | .float => (readFloat cs).map Datum.float
  | .timestamp => readTimestamp cs
  | .binary => (readBinary cs).map Datum.bytes
  | .str => .ok (.text text)
  | _ => .error .malformed

/-- What a reader is told. Faults of form are not told apart. -/
def Fault.message : Fault → String
  | malformed | unfinished => "<yaml error>"
  | undecodable => "<decode error>"
  | codePoint code =>
    if code < Fault.hugeCode then "chr() arg not in range(0x110000)"
    else "Python int too large to convert to C int"
  | emptyNumber => "string index out of range"
  | notInteger base text =>
    "invalid literal for int() with base " ++ natText base ++ ": " ++
      String.ofList ((Text.quoted (String.ofList text)).toList.take 200)
  | integerTooLong digits => tooManyDigits (some digits)
  | notFloat text => "could not convert string to float: " ++ Text.quoted (String.ofList text)
  | placeTooHigh => "int too large to convert to float"
  | notBool text => Text.quoted (String.ofList text)
  | notTimestamp => "'NoneType' object has no attribute 'groupdict'"
  | timestampOfMapping => "expected string or bytes-like object, got 'list'"
  | calendar fault => fault.message

end DesignTokens.Yaml
