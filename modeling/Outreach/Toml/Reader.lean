import Outreach.Toml.Scalar
import Outreach.Toml.Tree

/-!
Reading a TOML document: lines that each hold a header, an entry or nothing, and perhaps
a comment. A document with any fault is not read at all.
-/

namespace Outreach.Toml

def isBareKey (c : Char) : Bool := c.isAlphanum || c = '_' || c = '-'

def keyPart? (cs : List Char) : Option (String × List Char) :=
  match cs with
  | '"' :: '"' :: '"' :: _ => none
  | '\'' :: '\'' :: '\'' :: _ => none
  | '"' :: _ => string? '"' cs
  | '\'' :: _ => string? '\'' cs
  | _ =>
    let bare := cs.takeWhile isBareKey
    if bare.isEmpty then none else some (String.ofList bare, cs.drop bare.length)

/-- A key of parts joined by points: the parts before the last, the last, and the rest. -/
def key? : Nat → List Char → Option (List String × String × List Char)
  | 0, _ => none
  | fuel + 1, cs => do
    let (part, rest) ← keyPart? (cs.dropWhile isBlank)
    match rest.dropWhile isBlank with
    | '.' :: rest =>
      let (path, last, rest) ← key? fuel rest
      some (part :: path, last, rest)
    | rest => some ([], part, rest)

def afterComment : List Char → List Char
  | '#' :: rest => rest.dropWhile isPrintable
  | cs => cs

def afterGaps : Nat → List Char → List Char
  | 0, cs => cs
  | fuel + 1, cs =>
    let rest := afterComment (cs.dropWhile isBlank)
    match newline? rest with
    | some rest => afterGaps fuel rest
    | none => rest

mutual

def value? : Nat → List Char → Option (Json × List Char)
  | 0, _ => none
  | fuel + 1, cs =>
    match cs with
    | '"' :: _ => (string? '"' cs).map fun (s, rest) => (.string s, rest)
    | '\'' :: _ => (string? '\'' cs).map fun (s, rest) => (.string s, rest)
    | '[' :: rest => (items? fuel rest).map fun (js, rest) => (.array js, rest)
    | '\x7b' :: rest =>
      match rest.dropWhile isBlank with
      | '\x7d' :: rest => some (.object [], rest)
      | rest => (entries? fuel [] rest).map fun (es, rest) => (.object (jsonEntries es), rest)
    | _ =>
      let t := token cs
      (ofToken? t).map fun j => (j, cs.drop t.length)

def items? : Nat → List Char → Option (List Json × List Char)
  | 0, _ => none
  | fuel + 1, cs =>
    match afterGaps cs.length cs with
    | ']' :: rest => some ([], rest)
    | rest => do
      let (j, rest) ← value? fuel rest
      match afterGaps rest.length rest with
      | ',' :: rest => do
        let (js, rest) ← items? fuel rest
        some (j :: js, rest)
      | ']' :: rest => some ([j], rest)
      | _ => none

def entries? : Nat → Entries → List Char → Option (Entries × List Char)
  | 0, _, _ => none
  | fuel + 1, es, cs => do
    let (path, key, rest) ← key? (cs.length + 1) cs
    match rest with
    | '=' :: rest => do
      let (j, rest) ← value? fuel (rest.dropWhile isBlank)
      let es ← define key j path es
      match rest.dropWhile isBlank with
      | ',' :: rest => entries? fuel es rest
      | '\x7d' :: rest => some (es, rest)
      | _ => none
    | _ => none

end

def lineEnd? (cs : List Char) : Option (List Char) :=
  match afterComment (cs.dropWhile isBlank) with
  | [] => some []
  | rest => newline? rest

/-- The lines of a document; `path` leads to the table of the last header. -/
def lines? : Nat → List String → Entries → List Char → Option Entries
  | 0, _, _, _ => none
  | fuel + 1, path, es, cs =>
    match cs.dropWhile isBlank with
    | [] => some es
    | '[' :: '[' :: rest => do
      let (above, key, rest) ← key? (rest.length + 1) rest
      match rest with
      | ']' :: ']' :: rest => do
        let es ← openTable true key above es
        lines? fuel (above ++ [key]) es (← lineEnd? rest)
      | _ => none
    | '[' :: rest => do
      let (above, key, rest) ← key? (rest.length + 1) rest
      match rest with
      | ']' :: rest => do
        let es ← openTable false key above es
        lines? fuel (above ++ [key]) es (← lineEnd? rest)
      | _ => none
    | c :: rest =>
      if c = '#' ∨ c = '\n' ∨ c = '\r' then do
        lines? fuel path es (← lineEnd? (c :: rest))
      else do
        let (above, key, rest) ← key? (rest.length + 2) (c :: rest)
        match rest with
        | '=' :: rest => do
          let (j, rest) ← value? (2 * rest.length + 2) (rest.dropWhile isBlank)
          let es ← within (define key j above) path es
          lines? fuel path es (← lineEnd? rest)
        | _ => none

def read (text : String) : Option Json :=
  let cs :=
    match text.toList with
    | '\uFEFF' :: rest => rest
    | cs => cs
  (lines? (cs.length + 1) [] [] cs).map fun es => .object (jsonEntries es)

end Outreach.Toml
