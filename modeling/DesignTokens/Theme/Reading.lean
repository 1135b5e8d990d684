import DesignTokens.Text.Utf8
import DesignTokens.Theme.Basic
import DesignTokens.Theme.Violation

/-!
# Reading themes

How data are read as a theme. Numbers may stand for token names and values, a category may be left
empty, and a few entries go by two names. All violations of the structure are reported together.

## Main Definitions

* `readTokens` — a category of tokens
* `Theme.ofDatum` — a theme, or all violations of its structure
* `Theme.parse` — a theme of the supported schema
* `ThemeFault` — why data are refused as a theme

## Design Notes

An entry that goes by two names is looked up by the first one and, if that is absent, by the
second one. Among the base tokens every string key that was not used in this way names an extra,
so the second name of an entry that was found by the first is an extra as well.

Data come with what stands at several places in them. Reading looks at what stands at a place, and
not at whether it stands elsewhere too.
-/

namespace DesignTokens

open Number

/-- A number as the text it stands for, if it can be written out; other data as they are. -/
def stringifyNumber? : Datum → Option Datum
  | .int n => (intText? n).map Datum.text
  | .float x => some (.text x.documentText)
  | other => some other

/-- An entry with its numbers written out. -/
def stringifyEntry? (entry : Datum × Datum) : Option (Datum × Datum) := do
  let key ← stringifyNumber? entry.1
  let value ← stringifyNumber? entry.2
  some (key, value)

/-- Entries with their numbers written out. Keys that become equal become one. -/
def stringifyEntries? (entries : Entries) : Option Entries :=
  (entries.mapM stringifyEntry?).map Datum.ofEntries

/-- Text, or bytes that encode text. -/
def readText (path : List String) : Datum → Checked String
  | .text s => .ok s
  | .bytes bs =>
    match Text.decodeUtf8? bs with
    | some s => .ok s
    | none => .fail path .notUnicode
  | _ => .fail path .notText

/-- An entry of a mapping from text to text. -/
def readTextEntry (path : List String) (entry : Datum × Datum) : Checked (String × String) :=
  let label := pathLabel entry.1
  (readText (path ++ [label, "[key]"]) entry.1).both (readText (path ++ [label]) entry.2)

/-- A mapping from text to text. -/
def readTextMap (path : List String) : Datum → Checked TokenMap
  | .mapping entries => (Checked.all (entries.map (readTextEntry path))).map OrderedMap.ofList
  | _ => .fail path .notMapping

/-- A category of tokens: nothing stands for no tokens, and numbers stand for their text. -/
def readTokens (path : List String) : Datum → Checked TokenMap
  | .null => .ok .empty
  | .mapping entries =>
    match stringifyEntries? entries with
    | some written => readTextMap path (.mapping written)
    | none => .fail path .numberTooLong
  | _ => .fail path .notMapping

/-- The entry that goes by one of several names: the first name that is present. -/
def findEntry (entries : Entries) (names : List String) : Option (String × Datum) :=
  names.findSome? fun name => (Datum.lookup entries name).map (name, ·)

/-- An entry that may be absent. -/
def readOptional {α : Type} (sharing : SharedData) (path : List String)
    (read : List String → Datum → Checked α) (default : α) (entries : Entries)
    (names : List String) : Checked α :=
  match findEntry entries names with
  | some (name, value) => read (path ++ [name]) (value.opened sharing)
  | none => .ok default

/-- The names of the five categories, each with the other name that it goes by. -/
def categoryNames : Category → List String
  | .zIndex => ["zIndex", "z_index"]
  | c => [c.name]

/-- The keys under which the five categories were found. -/
def usedNames (entries : Entries) : List String :=
  Category.all.filterMap fun c => (findEntry entries (categoryNames c)).map (·.1)

/-- An entry of the base tokens as an extra, unless its name is used. -/
def readExtra (sharing : SharedData) (path used : List String) (entry : Datum × Datum) :
    Option (Checked (String × Datum)) :=
  match entry.1 with
  | .text name => if used.contains name then none else some (.ok (name, entry.2.opened sharing))
  | key => some (.fail (path ++ [pathLabel key]) .keyNotText)

/-- The extras among the entries of the base tokens. -/
def readExtras (sharing : SharedData) (path : List String) (entries : Entries) :
    Checked (OrderedMap String Datum) :=
  (Checked.all (entries.filterMap (readExtra sharing path (usedNames entries)))).map
    OrderedMap.ofList

/-- The base tokens of a theme. -/
def readBase (sharing : SharedData) (path : List String) : Datum → Checked BaseTokens
  | .mapping entries =>
    let category := fun c => readOptional sharing path readTokens .empty entries (categoryNames c)
    ((category .palette).both ((category .spacing).both ((category .size).both
      ((category .zIndex).both ((category .container).both
        (readExtras sharing path entries)))))).map
      fun (palette, spacing, size, zIndex, container, extras) =>
        ⟨palette, spacing, size, zIndex, container, extras, sharing⟩
  | _ => .fail path (.notModel .baseTokens)

/-- The tokens of a mode. -/
def readMode (sharing : SharedData) (path : List String) : Datum → Checked ModeTokens
  | .mapping entries =>
    (readOptional sharing path readTokens .empty entries ["bg"]).map fun bg => ⟨bg⟩
  | _ => .fail path (.notModel .modeTokens)

namespace Theme

/-- The theme that data describe, or all violations of its structure. -/
def ofDatum (sharing : SharedData) : Datum → Checked Theme
  | .mapping entries =>
    let name : Checked String :=
      match findEntry entries ["name"] with
      | some (key, value) => readText [key] (value.opened sharing)
      | none => .fail ["name"] .missing
    let schema :=
      readOptional sharing [] readText supportedSchema entries ["schema", "schema_version"]
    (schema.both
      (name.both ((readOptional sharing [] readText "" entries ["description"]).both
        ((readOptional sharing [] (readBase sharing) .empty entries ["base"]).both
          ((readOptional sharing [] (readMode sharing) .empty entries ["light"]).both
            (readOptional sharing [] (readMode sharing) .empty entries ["dark"])))))).map
      fun (schema, name, description, base, light, dark) =>
        ⟨schema, name, description, base, light, dark⟩
  | _ => .fail [] (.notModel .theme)

end Theme

/-- Why data are refused as a theme. -/
inductive ThemeFault
  /-- The data declare another schema, which is shown in some form. -/
  | unsupportedSchema (given : String)
  /-- The data, which go by a name, violate the structure of a theme. -/
  | invalid (name : String) (violations : List Violation)
  /-- The data would be refused, but hold a number with too many digits to be shown. -/
  | unprintable

namespace ThemeFault

/-- What a reader is told. -/
def message : ThemeFault → String
  | unsupportedSchema given =>
    "Unsupported theme schema: " ++ given ++ " (expected " ++ supportedSchema ++ ")"
  | invalid name violations =>
    "Invalid theme '" ++ name ++ "': " ++ violationCount .theme violations
  | unprintable => tooManyDigits none

/-- The violations behind a refusal. -/
def violations : ThemeFault → List Violation
  | invalid _ found => found
  | _ => []

/-- The refusal of another schema. -/
def ofSchema (sharing : SharedData) (schema : Datum) : ThemeFault :=
  match schema.plain? sharing with
  | some given => unsupportedSchema given
  | none => unprintable

/-- The refusal of entries that violate the structure of a theme. -/
def ofViolations (sharing : SharedData) (entries : Entries) (found : List Violation) :
    ThemeFault :=
  match Datum.lookup entries "name" with
  | none => invalid "unknown" found
  | some name =>
    match name.plain? sharing with
    | some name => invalid name found
    | none => unprintable

end ThemeFault

/-- Reads a mapping as a theme of the supported schema, which is also the one that is meant when
none is declared. -/
def Theme.parse (sharing : SharedData) (entries : Entries) : Except ThemeFault Theme :=
  let schema := (Datum.lookup entries "schema").getD (.text supportedSchema)
  if schema.same true (.text supportedSchema) then
    (Theme.ofDatum sharing (.mapping entries)).mapError (.ofViolations sharing entries)
  else .error (.ofSchema sharing schema)

end DesignTokens
