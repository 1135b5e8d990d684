import DesignTokens.Yaml.Token.Scalar

/-!
# The tokens of a YAML text

Blocks are told by indentation, so the stream of tokens holds tokens that no character stands for:
the start of a block where a line is indented further than the block around it, and the end of
every block that a line leaves. What is a key shows only at the colon behind it. Places where a key
may have started are therefore remembered, and the token for the key is put there afterwards.

## Main Definitions

* `Lexer` — how far the text has been read, and what has been found
* `Lexer.step` — the next token, with the block tokens in front of it
* `TokenStream`, `tokens` — all tokens of a source, up to a fault if there is one

## Design Notes

A fault ends the stream but does not undo it: whoever reads the tokens comes upon a fault of
structure first if there is one in front. A token is certain as soon as no key can start at it any
more. When a fault is met, the tokens that are not certain yet are lost.
-/

namespace DesignTokens.Yaml

/-- A place where a key may have started. -/
structure KeyPlace where
  /-- How many tokens stand before the key. -/
  position : Nat
  /-- Whether nothing but a key can stand there. -/
  required : Bool
  /-- How many characters stand before the key. -/
  index : Nat
  /-- The line of the key. -/
  line : Nat
  /-- The column of the key. -/
  column : Nat

/-- How far a text has been read, and what has been found. -/
structure Lexer where
  /-- The place that has been reached. -/
  cursor : Cursor
  /-- How many brackets are open. -/
  depth : Nat
  /-- The column of the innermost block; less than zero outside of all blocks. -/
  indent : Int
  /-- The columns of the blocks around it, innermost first. -/
  outer : List Int
  /-- Whether a key may start at the next token. -/
  keyAllowed : Bool
  /-- Where a key may have started, for each number of open brackets. -/
  places : List (Nat × KeyPlace)
  /-- The tokens that were found. -/
  found : Array Token

namespace Lexer

/-- The start of a text. -/
def start (text : List Char) : Lexer := ⟨.start text, 0, -1, [], true, [], #[]⟩

/-- How long a key may be. -/
def keyLimit : Nat := 1024

/-- Adds a token. -/
def push (s : Lexer) (t : Token) : Lexer := { s with found := s.found.push t }

/-- Adds a token in front of those from a position on. -/
def pushAt (s : Lexer) (position : Nat) (t : Token) : Lexer :=
  { s with found := (s.found.take position).push t ++ s.found.drop position }

/-- Moves on. -/
def moveTo (s : Lexer) (c : Cursor) : Lexer := { s with cursor := c }

/-- How many characters stand between two tokens: spaces, line breaks and comments. -/
def gapLength : Bool → List Char → Nat
  | _, [] => 0
  | inComment, c :: rest =>
    if isBreak c then gapLength false rest + 1
    else if inComment then gapLength true rest + 1
    else if c == ' ' then gapLength false rest + 1
    else if c == '#' then gapLength true rest + 1
    else 0

/-- The place of the next token. A key may start on a new line outside of brackets. -/
def skipGap (s : Lexer) : Lexer :=
  let c := if s.cursor.index = 0 && s.cursor.peek.any isByteOrderMark then s.cursor.advance
    else s.cursor
  let length := gapLength false c.rest
  let broken := (c.rest.take length).any isBreak
  { s with
    cursor := c.advanceBy length
    keyAllowed := s.keyAllowed || (broken && s.depth == 0) }

/-- Whether a key that may have started somewhere would be too far back by now. -/
def isStale (s : Lexer) (place : KeyPlace) : Bool :=
  place.line != s.cursor.line || decide (keyLimit < s.cursor.index - place.index)

/-- Forgets the places that are too far back. One where a key is required is a fault. -/
def dropStale (s : Lexer) : Except Fault Lexer :=
  let (stale, fresh) := s.places.partition fun p => s.isStale p.2
  if stale.any fun p => p.2.required then s.cursor.refuse
  else .ok { s with places := fresh }

/-- Forgets the place for the brackets that are open now. -/
def dropPlace (s : Lexer) : Except Fault Lexer :=
  if s.places.any fun p => p.1 == s.depth && p.2.required then s.cursor.refuse
  else .ok { s with places := s.places.filter fun p => p.1 != s.depth }

/-- Remembers that a key may start here. -/
def savePlace (s : Lexer) : Except Fault Lexer :=
  if s.keyAllowed then do
    let s ← s.dropPlace
    let place : KeyPlace :=
      { position := s.found.size
        required := s.depth == 0 && s.indent == s.cursor.column
        index := s.cursor.index
        line := s.cursor.line
        column := s.cursor.column }
    .ok { s with places := (s.depth, place) :: s.places }
  else .ok s

/-- Ends the blocks that start to the right of a column. -/
def unwind (column : Int) (s : Lexer) : Lexer :=
  if s.depth ≠ 0 then s
  else
    let rec leave : List Int → Lexer → Lexer
      | [], s => s
      | next :: rest, s =>
        if column < s.indent then leave rest { s.push .blockEnd with indent := next, outer := rest }
        else s
    leave s.outer s

/-- Starts a block at a column to the right of the innermost block. -/
def openBlock (s : Lexer) (column : Int) (position : Nat) (t : Token) : Lexer :=
  if s.indent < column then
    { s.pushAt position t with indent := column, outer := s.indent :: s.outer }
  else s

/-- The same with the flag for keys set. -/
def allowKey (s : Lexer) (allowed : Bool) : Lexer := { s with keyAllowed := allowed }

/-- A token that stands on its own at the start of a line: all blocks end in front of it. -/
def stepMarker (s : Lexer) (t : Token) : Except Fault Lexer := do
  let s ← (s.unwind (-1)).dropPlace
  .ok (((s.allowKey false).push t).moveTo (s.cursor.advanceBy 3))

/-- A directive. -/
def stepDirective (s : Lexer) : Except Fault Lexer := do
  let s ← (s.unwind (-1)).dropPlace
  let (t, after) ← readDirective s.cursor
  .ok (((s.allowKey false).push t).moveTo after)

/-- An opening bracket. -/
def stepOpen (s : Lexer) (t : Token) : Except Fault Lexer := do
  let s ← s.savePlace
  .ok ((({ s with depth := s.depth + 1 }.allowKey true).push t).moveTo s.cursor.advance)

/-- A closing bracket. -/
def stepClose (s : Lexer) (t : Token) : Except Fault Lexer := do
  let s ← s.dropPlace
  if s.depth = 0 then s.cursor.refuse
  .ok ((({ s with depth := s.depth - 1 }.allowKey false).push t).moveTo s.cursor.advance)

/-- A comma between brackets. -/
def stepComma (s : Lexer) : Except Fault Lexer := do
  let s ← s.dropPlace
  .ok (((s.allowKey true).push .flowEntry).moveTo s.cursor.advance)

/-- The hyphen in front of an entry. -/
def stepEntry (s : Lexer) : Except Fault Lexer := do
  if s.depth = 0 && !s.keyAllowed then s.cursor.refuse
  let s := if s.depth = 0 then s.openBlock s.cursor.column s.found.size .blockSequenceStart else s
  let s ← s.dropPlace
  .ok (((s.allowKey true).push .blockEntry).moveTo s.cursor.advance)

/-- The question mark in front of a key. -/
def stepKey (s : Lexer) : Except Fault Lexer := do
  if s.depth = 0 && !s.keyAllowed then s.cursor.refuse
  let s := if s.depth = 0 then s.openBlock s.cursor.column s.found.size .blockMappingStart else s
  let s ← s.dropPlace
  .ok (((s.allowKey (s.depth == 0)).push .key).moveTo s.cursor.advance)

/-- The colon in front of a value: what stands at the remembered place turns out to be a key. -/
def stepValue (s : Lexer) : Except Fault Lexer :=
  match s.places.lookup s.depth with
  | some place =>
    let s := { s with places := s.places.filter fun p => p.1 != s.depth }
    let s := s.pushAt place.position .key
    let s := if s.depth = 0 then s.openBlock place.column place.position .blockMappingStart else s
    .ok (((s.allowKey false).push .value).moveTo s.cursor.advance)
  | none => do
    if s.depth = 0 && !s.keyAllowed then s.cursor.refuse
    let s := if s.depth = 0 then s.openBlock s.cursor.column s.found.size .blockMappingStart else s
    let s ← s.dropPlace
    .ok (((s.allowKey (s.depth == 0)).push .value).moveTo s.cursor.advance)

/-- An anchor, a reference to one, or a tag. -/
def stepName (s : Lexer) (read : Cursor → Except Fault (Token × Cursor)) : Except Fault Lexer := do
  let s ← s.savePlace
  let (t, after) ← read s.cursor
  .ok (((s.allowKey false).push t).moveTo after)

/-- A block scalar. -/
def stepBlockScalar (s : Lexer) (folded : Bool) : Except Fault Lexer := do
  let s ← s.dropPlace
  let (text, after) ← readBlock folded s.indent s.cursor
  .ok (((s.allowKey true).push (.scalar false text)).moveTo after)

/-- A quoted scalar. -/
def stepQuoted (s : Lexer) : Except Fault Lexer := do
  let s ← s.savePlace
  let (text, after) ← readQuoted s.cursor
  .ok (((s.allowKey false).push (.scalar false text)).moveTo after)

/-- A plain scalar. -/
def stepPlain (s : Lexer) : Except Fault Lexer := do
  let s ← s.savePlace
  let (text, broken, after) := readPlain (s.depth != 0) (s.indent + 1) s.cursor
  .ok (((s.allowKey broken).push (.scalar true text)).moveTo after)

/-- Whether a plain scalar may start with a character, given the next one. -/
def startsPlain (flow : Bool) (c : Char) (next : Option Char) : Bool :=
  (!endsWord (some c) && !("-?:,[]{}#&*!|>'\"%@\x60".toList.contains c)) ||
    (!endsWord next && (c == '-' || (!flow && (c == '?' || c == ':'))))

/-- The token at the place that has been reached, which starts with a character. -/
def stepToken (s : Lexer) (c : Char) : Except Fault Lexer :=
  let lineStart := s.cursor.column = 0
  let next := s.cursor.peekAt 1
  let spaced := s.depth != 0 || endsWord next
  if c == '%' && lineStart then s.stepDirective
  else if c == '-' && lineStart && s.cursor.seesMarker then s.stepMarker .documentStart
  else if c == '.' && lineStart && s.cursor.seesMarker then s.stepMarker .documentEnd
  else if c == '[' then s.stepOpen .flowSequenceStart
  else if c == '{' then s.stepOpen .flowMappingStart
  else if c == ']' then s.stepClose .flowSequenceEnd
  else if c == '}' then s.stepClose .flowMappingEnd
  else if c == ',' then s.stepComma
  else if c == '-' && endsWord next then s.stepEntry
  else if c == '?' && spaced then s.stepKey
  else if c == ':' && spaced then s.stepValue
  else if c == '*' then s.stepName fun at_ => (readAnchor at_).map fun (n, p) => (.reference n, p)
  else if c == '&' then s.stepName fun at_ => (readAnchor at_).map fun (n, p) => (.anchor n, p)
  else if c == '!' then s.stepName readTag
  else if c == '|' && s.depth = 0 then s.stepBlockScalar false
  else if c == '>' && s.depth = 0 then s.stepBlockScalar true
  else if c == '\'' || c == '"' then s.stepQuoted
  else if startsPlain (s.depth != 0) c next then s.stepPlain
  else s.cursor.refuse

/-- How many of the tokens are certain: those in front of the first place where a key may have
started. -/
def certain (s : Lexer) : Nat :=
  s.places.foldl (fun n place => min n place.2.position) s.found.size

/-- The next token with the block tokens in front of it; nothing is left at the end of the text,
where all blocks end. -/
def step (s : Lexer) : Except Fault (Lexer × Bool) := do
  let s ← s.skipGap.dropStale
  let s := s.unwind s.cursor.column
  match s.cursor.peek with
  | none => do
    let s ← (s.unwind (-1)).dropPlace
    .ok (s, true)
  | some c => do
    let s ← s.stepToken c
    .ok (s, false)

end Lexer

/-- All tokens of a source, and the fault that ends them if there is one. -/
structure TokenStream where
  /-- The tokens. -/
  tokens : List Token
  /-- Why there are no more of them, unless the text is at its end. -/
  fault : Option Fault

/-- The tokens that are certain when a fault is met. -/
def TokenStream.upTo (certain : Nat) (s : Lexer) (fault : Fault) : TokenStream :=
  ⟨(s.found.take certain).toList, some fault⟩

/-- The tokens that are found in a number of steps, some of them being certain before. -/
def tokensFrom (source : Source) : Nat → Nat → Lexer → TokenStream
  | 0, certain, s => .upTo certain s .malformed
  | fuel + 1, certain, s =>
    match s.dropStale with
    | .error fault => .upTo certain s (source.settle fault)
    | .ok s =>
      match s.step with
      | .error fault => .upTo s.certain s (source.settle fault)
      | .ok (next, ended) =>
        if next.cursor.rest.isEmpty && source.barrier.isSome then
          .upTo s.certain s (source.settle .unfinished)
        else if ended then ⟨next.found.toList, none⟩
        else tokensFrom source fuel s.certain next

/-- The tokens of a source. -/
def tokens (source : Source) : TokenStream :=
  tokensFrom source (source.text.length + 1) 0 (.start source.text)

end DesignTokens.Yaml
