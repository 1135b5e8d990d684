/-!
# Searching text

## Main Definitions

* `contains` — whether a string occurs inside another one
* `splitAtChar` — the parts of a text between the occurrences of a character
-/

namespace DesignTokens.Text

/-- Whether a list of characters starts with another one. -/
def startsWith (pattern : List Char) (cs : List Char) : Bool := pattern.isPrefixOf cs

/-- Whether a list of characters occurs inside another one. -/
def occursIn (pattern : List Char) : List Char → Bool
  | [] => pattern.isEmpty
  | c :: rest => startsWith pattern (c :: rest) || occursIn pattern rest

/-- Whether a string occurs inside another one. -/
def contains (pattern s : String) : Bool := occursIn pattern.toList s.toList

/-- The parts of a text between the occurrences of a character. -/
def splitAtChar (mark : Char) : List Char → List (List Char)
  | [] => [[]]
  | c :: rest =>
    if c == mark then [] :: splitAtChar mark rest
    else
      match splitAtChar mark rest with
      | [] => [[c]]
      | part :: parts => (c :: part) :: parts

end DesignTokens.Text
