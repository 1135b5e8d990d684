import DesignTokens.Number.Reading
import DesignTokens.Text.Digit
import DesignTokens.Text.Utf8
import DesignTokens.Yaml.Token.Basic

/-!
# Names in YAML texts

Anchors, tags and directives: the tokens that are made of names.

## Main Definitions

* `readAnchor` — the name of an anchor or of a reference to one
* `readTag` — a tag
* `readDirective` — a directive with the rest of its line
-/

namespace DesignTokens.Yaml

/-- A character of a name. -/
def isNameChar (c : Char) : Bool := c.isAlphanum || c == '-' || c == '_'

/-- A character that may stand in a tag, the escape mark apart. -/
def isTagChar (c : Char) : Bool := c.isAlphanum || "-;/?:@&=+$,_.!~*'()[]".toList.contains c

/-- The name of an anchor, after its indicator. -/
def readAnchor (c : Cursor) : Except Fault (String × Cursor) :=
  let (name, after) := c.advance.takeWhile isNameChar
  if name.isEmpty then after.refuse
  else if endsWord after.peek || after.peek.any ("?:,]\x7d%@\x60".toList.contains ·) then
    .ok (String.ofList name, after)
  else after.refuse

/-- The bytes of a run of escapes, each a percent sign and two hexadecimal digits. -/
def readEscapes : Nat → Cursor → Except Fault (List UInt8 × Cursor)
  | 0, c => .ok ([], c)
  | fuel + 1, c =>
    if c.sees '%' then
      match (c.peekAt 1).bind Text.hexDigitValue?, (c.peekAt 2).bind Text.hexDigitValue? with
      | some high, some low => do
        let (more, after) ← readEscapes fuel (c.advanceBy 3)
        .ok (UInt8.ofNat (16 * high + low) :: more, after)
      | some _, none => (c.advanceBy 2).refuse
      | none, _ => c.advance.refuse
    else .ok ([], c)

/-- The characters of a tag, escapes being read as the text they encode. -/
def readTagChars : Nat → Cursor → Except Fault (List Char × Cursor)
  | 0, c => .ok ([], c)
  | fuel + 1, c =>
    match c.peek with
    | none => .ok ([], c)
    | some char =>
      if isTagChar char then do
        let (more, after) ← readTagChars fuel c.advance
        .ok (char :: more, after)
      else if char == '%' then do
        let (bytes, after) ← readEscapes c.budget c
        match Text.decodeChars? bytes with
        | none => .error .malformed
        | some decoded =>
          let (more, after) ← readTagChars fuel after
          .ok (decoded ++ more, after)
      else .ok ([], c)

/-- The characters of a tag, at least one escape or character of them. -/
def readTagText (c : Cursor) : Except Fault (String × Cursor) :=
  if c.peek.any fun char => isTagChar char || char == '%' then do
    let (text, after) ← readTagChars c.budget c
    .ok (String.ofList text, after)
  else c.refuse

/-- A tag handle: an exclamation mark, or a name between two of them. -/
def readHandle (c : Cursor) : Except Fault (String × Cursor) :=
  if !c.sees '!' then c.refuse
  else if c.peekAt 1 == some ' ' then .ok ("!", c.advance)
  else
    let (name, after) := c.advance.takeWhile isNameChar
    if after.sees '!' then .ok (String.ofList ('!' :: name ++ ['!']), after.advance)
    else after.refuse

/-- Whether a word of a tag holds a second exclamation mark. -/
def hasHandle (c : Cursor) : Bool :=
  ((c.rest.drop 1).takeWhile fun char => !endsField (some char)).contains '!'

/-- A tag: written out between angle brackets, a lone exclamation mark, or a handle and a
suffix. -/
def readTag (c : Cursor) : Except Fault (Token × Cursor) := do
  let (token, after) ←
    if c.peekAt 1 == some '<' then do
      let (text, after) ← readTagText (c.advanceBy 2)
      if after.sees '>' then .ok (Token.tag none text, after.advance)
      else after.refuse
    else if endsWord (c.peekAt 1) then .ok (Token.tag none "!", c.advance)
    else do
      let (handle, after) ← if hasHandle c then readHandle c else .ok ("!", c.advance)
      let (suffix, after) ← readTagText after
      .ok (Token.tag (some handle) suffix, after)
  if endsField after.peek then .ok (token, after) else after.refuse

/-- The digits of a number, which are limited in number. -/
def readVersionNumber (c : Cursor) : Except Fault (Nat × Cursor) :=
  let (digits, after) := c.takeWhile Char.isDigit
  if digits.isEmpty then after.refuse
  else
    match Number.readInteger 10 digits with
    | .ok n => .ok (n.toNat, after)
    | .error (.tooLong found) => .error (.integerTooLong found)
    | .error .form => after.refuse

/-- A cursor that may be followed by nothing but spaces and a comment, at the end of its line. -/
def finishLine (c : Cursor) : Except Fault Cursor :=
  let c := c.skipWhile (· == ' ')
  let c := if c.sees '#' then c.skipWhile fun char => !isBreak char else c
  if endsLine c.peek then .ok c else c.refuse

/-- The place after a line break, if there is one here. -/
def skipBreak (c : Cursor) : Cursor := if c.peek.any isBreak then c.advance else c

/-- A directive with the rest of its line. -/
def readDirective (c : Cursor) : Except Fault (Token × Cursor) := do
  let (name, after) := c.advance.takeWhile isNameChar
  if name.isEmpty || !endsField after.peek then after.refuse
  let after' := after.skipWhile (· == ' ')
  let (directive, after) ←
    if name == "YAML".toList then do
      let (major, point) ← readVersionNumber after'
      if !point.sees '.' then point.refuse
      let (_, after) ← readVersionNumber point.advance
      if endsField after.peek then .ok (Directive.version major, after) else after.refuse
    else if name == "TAG".toList then do
      let (handle, gap) ← readHandle after'
      if !gap.sees ' ' then gap.refuse
      let (expansion, after) ← readTagText (gap.skipWhile (· == ' '))
      if endsField after.peek then .ok (Directive.handle handle expansion, after)
      else after.refuse
    else .ok (Directive.other, after.skipWhile fun char => !isBreak char)
  let finished ← finishLine after
  .ok (.directive directive, skipBreak finished)

end DesignTokens.Yaml
