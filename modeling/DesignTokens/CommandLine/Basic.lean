import DesignTokens.Text.Digit
import DesignTokens.Text.Quoted
import DesignTokens.Text.Search

/-!
# Command lines

A command line is a list of words. Words that begin with a hyphen name options, by their full name
or by the beginning of it; an option may want a value, which is the next word or follows an equals
sign. Programs take nothing but options, and every program can be asked for help.

## Main Definitions

* `OptionSpec` — an option and what it does to the settings of a program
* `Word`, `classify` — what a word of a command line is, for the options of a program
* `parse` — the settings that a command line asks for
* `Refusal`, `Refusal.message` — why a command line is not obeyed

## Design Notes

All words are classified before any option takes effect, so an ambiguous name is reported before
anything else. After that the first option that is used wrongly is reported, or help is given, and
words that belong to no option are reported at the very end. A word that begins with a hyphen is no
option if it is a negative number, or if it holds a space and no option goes by it.
-/

namespace DesignTokens.CommandLine

/-- What an option does to the settings of a program. -/
inductive Effect (σ : Type)
  /-- Changes the settings. -/
  | switch (change : σ → σ)
  /-- Wants a value; a value that does not fit is refused with a reason. -/
  | value (change : String → σ → Except String σ)

/-- An option of a program. -/
structure OptionSpec (σ : Type) where
  /-- The name of the option, with two hyphens. -/
  name : String
  /-- What the option does. -/
  effect : Effect σ

/-- What a word of a command line is. -/
inductive Word (σ : Type)
  /-- A word that names no option. -/
  | plain (text : String)
  /-- A word that cannot be a value: it looks like an option, or tells that no more options
  follow. -/
  | stray (text : String)
  /-- The request for help, by its short or its long name, perhaps with a text in the same word. -/
  | help (given : Option String) (short : Bool)
  /-- An option, perhaps with a value in the same word. -/
  | option (spec : OptionSpec σ) (given : Option String)

/-- Why a command line is not obeyed. -/
inductive Refusal
  /-- Help is given instead. -/
  | help
  /-- A name is the beginning of several options' names. -/
  | ambiguous (word : String) (candidates : List String)
  /-- An option wants a value and there is none. -/
  | valueMissing (name : String)
  /-- An option wants no value and there is one. -/
  | valueIgnored (name value : String)
  /-- A value does not fit. -/
  | valueRefused (name reason : String)
  /-- Some words belong to no option. -/
  | unrecognized (words : List String)
  deriving DecidableEq

namespace Refusal

/-- What a reader is told; help is not told here. -/
def message : Refusal → String
  | help => ""
  | ambiguous word candidates =>
    "ambiguous option: " ++ word ++ " could match " ++ ", ".intercalate candidates
  | valueMissing name => "argument " ++ name ++ ": expected one argument"
  | valueIgnored name value =>
    "argument " ++ name ++ ": ignored explicit argument " ++ Text.quoted value
  | valueRefused name reason => "argument " ++ name ++ ": " ++ reason
  | unrecognized words => "unrecognized arguments: " ++ " ".intercalate words

/-- The exit status of a program that does not obey its command line. -/
def status : Refusal → Nat
  | help => 0
  | _ => 2

end Refusal

variable {σ : Type}

/-! ## Classification -/

/-- All names that options go by, with what a word is that consists of a name and perhaps of a
text behind an equals sign. -/
def namedWords (specs : List (OptionSpec σ)) : List (String × (Option String → Word σ)) :=
  ("-h", (.help · true)) :: ("--help", (.help · false)) ::
    specs.map fun spec => (spec.name, .option spec)

/-- A text up to its first equals sign and what follows it, if there is one. -/
def splitEquals (cs : List Char) : List Char × Option String :=
  let rest := cs.dropWhile (· != '=')
  (cs.takeWhile (· != '='), if rest.isEmpty then none else some (String.ofList rest.tail))

/-- Whether a word is a negative number: digits, perhaps with a point that digits follow. A line
break at its end does not count. -/
def isNegativeNumber : List Char → Bool
  | '-' :: unsigned =>
    let figures := if unsigned.getLast? = some '\n' then unsigned.dropLast else unsigned
    let isDigit := fun c => (Text.digitValue? c).isSome
    match figures.dropWhile isDigit with
    | [] => !figures.isEmpty
    | '.' :: fraction => !fraction.isEmpty && fraction.all isDigit
    | _ => false
  | _ => false

/-- What a word could mean that begins with a hyphen and does not spell out a name, with the names
of the options: those whose names begin like a word with two hyphens, and help for a word that
begins with its short name. -/
def candidates (specs : List (OptionSpec σ)) : List Char → List (String × Word σ)
  | '-' :: '-' :: rest =>
    let (stem, given) := splitEquals ('-' :: '-' :: rest)
    ((namedWords specs).filter fun named => Text.startsWith stem named.1.toList).map
      fun named => (named.1, named.2 given)
  | '-' :: 'h' :: rest => [("-h", .help (some (String.ofList rest)) true)]
  | _ => []

/-- What a word is that begins with a hyphen and does not spell out a name. -/
def classifyUnnamed (specs : List (OptionSpec σ)) (word : String) : Except Refusal (Word σ) :=
  let cs := word.toList
  match candidates specs cs with
  | [(_, found)] => .ok found
  | first :: second :: more =>
    .error (.ambiguous word ((first :: second :: more).map (·.1)))
  | [] => .ok (if isNegativeNumber cs || cs.contains ' ' then .plain word else .stray word)

/-- What a word is. -/
def classify (specs : List (OptionSpec σ)) (word : String) : Except Refusal (Word σ) :=
  let cs := word.toList
  let (stem, given) := splitEquals cs
  if cs.head? != some '-' || cs == ['-'] then .ok (.plain word)
  else
    match (namedWords specs).lookup (String.ofList stem) with
    | some ofText => .ok (ofText given)
    | none => classifyUnnamed specs word

/-- What the words are. Those behind two lone hyphens are no options. -/
def classifyAll (specs : List (OptionSpec σ)) : List String → Except Refusal (List (Word σ))
  | [] => .ok []
  | "--" :: rest => .ok (.stray "--" :: rest.map .plain)
  | word :: rest =>
    match classify specs word with
    | .error refusal => .error refusal
    | .ok first => (classifyAll specs rest).map (first :: ·)

/-! ## Obedience -/

/-- The names of the request for help, in messages. -/
def helpName : String := "-h/--help"

/-- What becomes of letters that follow the short name of help: they may name help once more, but
nothing else. -/
def afterShortHelp : List Char → Refusal
  | ['h'] => .help
  | 'h' :: rest => afterShortHelp rest
  | rest => .valueIgnored helpName (String.ofList rest)

/-- What becomes of a request for help. -/
def refuseWithHelp (given : Option String) (short : Bool) : Refusal :=
  match given with
  | none => .help
  | some text => if short then afterShortHelp text.toList else .valueIgnored helpName text

/-- Carries out the options among some words, and collects the words that belong to none. -/
def obey (settings : σ) : List (Word σ) → Except Refusal (σ × List String)
  | [] => .ok (settings, [])
  | .plain text :: rest | .stray text :: rest =>
    (obey settings rest).map fun done => (done.1, text :: done.2)
  | .help given short :: _ => .error (refuseWithHelp given short)
  | .option ⟨_, .switch change⟩ none :: rest => obey (change settings) rest
  | .option ⟨name, .switch _⟩ (some value) :: _ => .error (.valueIgnored name value)
  | .option ⟨name, .value change⟩ (some value) :: rest
  | .option ⟨name, .value change⟩ none :: .plain value :: rest =>
    match change value settings with
    | .ok settings => obey settings rest
    | .error reason => .error (.valueRefused name reason)
  | .option ⟨name, .value _⟩ none :: _ => .error (.valueMissing name)

/-- The settings that a command line asks for. -/
def parse (specs : List (OptionSpec σ)) (defaults : σ) (words : List String) :
    Except Refusal σ :=
  match classifyAll specs words with
  | .error refusal => .error refusal
  | .ok found =>
    match obey defaults found with
    | .error refusal => .error refusal
    | .ok (settings, []) => .ok settings
    | .ok (_, left) => .error (.unrecognized left)

end DesignTokens.CommandLine
