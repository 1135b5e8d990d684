import DesignTokens.Yaml.Source

/-!
# YAML tokens

## Main Definitions

* `Directive` — a line that tells how a document is to be read
* `Token` — what a YAML text is made of
-/

namespace DesignTokens.Yaml

/-- A line that tells how a document is to be read. -/
inductive Directive
  /-- The major version of YAML that is used. -/
  | version (major : Nat)
  /-- A handle for tags and what it stands for. -/
  | handle (name expansion : String)
  /-- A directive that means nothing here. -/
  | other
  deriving DecidableEq

/-- What a YAML text is made of. -/
inductive Token
  | directive (d : Directive)
  | documentStart
  | documentEnd
  | blockSequenceStart
  | blockMappingStart
  | blockEnd
  | flowSequenceStart
  | flowSequenceEnd
  | flowMappingStart
  | flowMappingEnd
  | blockEntry
  | flowEntry
  | key
  | value
  /-- A name given to the next node. -/
  | anchor (name : String)
  /-- The node with a name, once more. -/
  | reference (name : String)
  /-- The tag of the next node: a handle, unless the tag is written out, and the rest. -/
  | tag (handle : Option String) (suffix : String)
  /-- A scalar, and whether it is written without quotes and indicators. -/
  | scalar (plain : Bool) (text : String)
  deriving DecidableEq

end DesignTokens.Yaml
