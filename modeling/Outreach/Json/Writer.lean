import Outreach.Json.Basic
import Outreach.Number.Writer

/-!
The text of a JSON value, compact or on several lines with two spaces for every level. Quotes and
control characters are escaped, numbers are in the style of documents, and a float that is not
finite is written as null. Empty arrays and objects stay on their line.
-/

namespace Outreach.Json

def escapedChar (c : Char) : List Char :=
  if c = '"' || c = '\\' then ['\\', c]
  else if c = '\n' then ['\\', 'n']
  else if c = '\r' then ['\\', 'r']
  else if c = '\t' then ['\\', 't']
  else if c.toNat = 8 then ['\\', 'b']
  else if c.toNat = 12 then ['\\', 'f']
  else if c.toNat < 0x20 then
    ['\\', 'u', '0', '0', Nat.digitChar (c.toNat / 16), Nat.digitChar (c.toNat % 16)]
  else [c]

def writeString (s : String) : String :=
  String.ofList ('"' :: s.toList.flatMap escapedChar ++ ['"'])

def writeFloat (x : Float) : String :=
  if x.isFinite then NumberStyle.document.write x else "null"

def Number.write : Number → String
  | .integer n => toString n
  | .real x => writeFloat x

mutual

def write : Json → String
  | .null => "null"
  | .bool b => if b then "true" else "false"
  | .number n => n.write
  | .string s => writeString s
  | .array items => "[" ++ String.intercalate "," (writeItems items) ++ "]"
  | .object entries => "\x7b" ++ String.intercalate "," (writeEntries entries) ++ "\x7d"

def writeItems : List Json → List String
  | [] => []
  | j :: rest => write j :: writeItems rest

def writeEntries : List (String × Json) → List String
  | [] => []
  | (key, j) :: rest => (writeString key ++ ":" ++ write j) :: writeEntries rest

end

def indented (level : Nat) (s : String) : String :=
  "\n" ++ String.ofList (List.replicate (2 * level) ' ') ++ s

def bracketed (opening closing : String) (level : Nat) (items : List String) : String :=
  if items.isEmpty then opening ++ closing
  else
    opening ++ String.intercalate "," (items.map (indented (level + 1))) ++
      indented level closing

mutual

def prettyAt (level : Nat) : Json → String
  | .array items => bracketed "[" "]" level (prettyItems (level + 1) items)
  | .object entries => bracketed "\x7b" "\x7d" level (prettyEntries (level + 1) entries)
  | .null => "null"
  | .bool b => if b then "true" else "false"
  | .number n => n.write
  | .string s => writeString s

def prettyItems (level : Nat) : List Json → List String
  | [] => []
  | j :: rest => prettyAt level j :: prettyItems level rest

def prettyEntries (level : Nat) : List (String × Json) → List String
  | [] => []
  | (key, j) :: rest =>
    (writeString key ++ ": " ++ prettyAt level j) :: prettyEntries level rest

end

def pretty (j : Json) : String := prettyAt 0 j

end Outreach.Json
