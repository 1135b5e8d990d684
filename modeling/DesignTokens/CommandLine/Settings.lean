import DesignTokens.CommandLine.Basic
import DesignTokens.Disk.Path
import DesignTokens.Number.Reading

/-!
# Settings

The settings of the two programs, and the options that change them: the generator, which compiles
one theme, and the server, which answers requests.

## Main Definitions

* `GeneratorSettings`, `GeneratorSettings.parse` — the settings of the generator
* `ServerSettings`, `ServerSettings.parse` — the settings of the server
-/

namespace DesignTokens

open CommandLine

/-- An option that takes any text. -/
def textOption {σ : Type} (name : String) (change : String → σ → σ) : OptionSpec σ :=
  ⟨name, .value fun text settings => .ok (change text settings)⟩

/-- An option that takes a path. -/
def pathOption {σ : Type} (name : String) (change : Path → σ → σ) : OptionSpec σ :=
  textOption name fun text => change (.ofText text)

/-- An option that takes nothing. -/
def switchOption {σ : Type} (name : String) (change : σ → σ) : OptionSpec σ :=
  ⟨name, .switch change⟩

/-- The settings of the generator. -/
structure GeneratorSettings where
  /-- The name of a theme or the path of its file. -/
  theme : String
  /-- The project folder. -/
  themesFolder : Path
  /-- The path of the stylesheet. -/
  css : String
  /-- The path of the TypeScript module. -/
  ts : String
  /-- Whether the theme is only examined. -/
  check : Bool
  /-- Whether remarks are logged as well. -/
  debug : Bool
  deriving DecidableEq

namespace GeneratorSettings

/-- The settings without any options. -/
def default : GeneratorSettings where
  theme := "demo"
  themesFolder := .ofText "themes"
  css := "./styles/theme.css"
  ts := "./lib/generated/tailwind-theme.ts"
  check := false
  debug := false

/-- The options of the generator. -/
def options : List (OptionSpec GeneratorSettings) :=
  [textOption "--theme" fun text s => { s with theme := text },
   pathOption "--themes-dir" fun path s => { s with themesFolder := path },
   textOption "--css" fun text s => { s with css := text },
   textOption "--ts" fun text s => { s with ts := text },
   switchOption "--check" fun s => { s with check := true },
   switchOption "--debug" fun s => { s with debug := true }]

/-- The settings that a command line asks for. -/
def parse (words : List String) : Except Refusal GeneratorSettings :=
  CommandLine.parse options default words

end GeneratorSettings

/-- How a server is spoken to. -/
inductive Transport
  | stdio
  | http
  deriving DecidableEq

namespace Transport

/-- The name of a transport. -/
def name : Transport → String
  | stdio => "stdio"
  | http => "http"

/-- All transports. -/
def all : List Transport := [stdio, http]

end Transport

/-- The settings of the server. -/
structure ServerSettings where
  /-- How the server is spoken to. -/
  transport : Transport
  /-- The network port, for the transport that needs one. -/
  port : Int
  /-- The project folder, if it is not the default one. -/
  themesFolder : Option Path
  /-- The folder for generated files, if it is not the default one. -/
  outputFolder : Option Path
  /-- Whether remarks are logged as well. -/
  debug : Bool
  deriving DecidableEq

namespace ServerSettings

/-- The settings without any options. -/
def default : ServerSettings where
  transport := .stdio
  port := 8000
  themesFolder := none
  outputFolder := none
  debug := false

/-- Chooses a transport by its name. -/
def chooseTransport (text : String) (s : ServerSettings) : Except String ServerSettings :=
  match Transport.all.find? fun t => t.name == text with
  | some transport => .ok { s with transport := transport }
  | none =>
    .error ("invalid choice: " ++ Text.quoted text ++ " (choose from " ++
      ", ".intercalate (Transport.all.map fun t => Text.quoted t.name) ++ ")")

/-- Chooses a network port. -/
def choosePort (text : String) (s : ServerSettings) : Except String ServerSettings :=
  match Number.readInteger 10 text.toList with
  | .ok port => .ok { s with port := port }
  | .error _ => .error ("invalid int value: " ++ Text.quoted text)

/-- The options of the server. -/
def options : List (OptionSpec ServerSettings) :=
  [⟨"--transport", .value chooseTransport⟩,
   ⟨"--port", .value choosePort⟩,
   pathOption "--themes-dir" fun path s => { s with themesFolder := some path },
   pathOption "--output-dir" fun path s => { s with outputFolder := some path },
   switchOption "--debug" fun s => { s with debug := true }]

/-- The settings that a command line asks for. -/
def parse (words : List String) : Except Refusal ServerSettings :=
  CommandLine.parse options default words

end ServerSettings

end DesignTokens
