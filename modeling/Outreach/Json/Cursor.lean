import Outreach.Json.Basic

/-!
A position in a JSON text. Lines count from one and columns from zero, a column being
the number of bytes since the last line end. A fault in the text names its position:
either the place reached or the place one byte further on.
-/

namespace Outreach.Json

inductive SyntaxCause
  | endOfList
  | endOfObject
  | endOfString
  | endOfValue
  | expectedColon
  | expectedListSeparator
  | expectedObjectSeparator
  | expectedIdentifier
  | expectedValue
  | invalidEscape
  | invalidNumber
  | numberOutOfRange
  | controlCharacter
  | keyNotString
  | loneSurrogate
  | trailingComma
  | trailingCharacters
  | endOfEscape
  | tooDeep
  deriving DecidableEq, Repr

def SyntaxCause.message : SyntaxCause → String
  | endOfList => "EOF while parsing a list"
  | endOfObject => "EOF while parsing an object"
  | endOfString => "EOF while parsing a string"
  | endOfValue => "EOF while parsing a value"
  | expectedColon => "expected `:`"
  | expectedListSeparator => "expected `,` or `]`"
  | expectedObjectSeparator => "expected `,` or `\x7d`"
  | expectedIdentifier => "expected ident"
  | expectedValue => "expected value"
  | invalidEscape => "invalid escape"
  | invalidNumber => "invalid number"
  | numberOutOfRange => "number out of range"
  | controlCharacter => "control character (\\u0000-\\u001F) found while parsing a string"
  | keyNotString => "key must be a string"
  | loneSurrogate => "lone leading surrogate in hex escape"
  | trailingComma => "trailing comma"
  | trailingCharacters => "trailing characters"
  | endOfEscape => "unexpected end of hex escape"
  | tooDeep => "recursion limit exceeded"

structure SyntaxFault where
  cause : SyntaxCause
  line : Nat
  column : Nat
  deriving DecidableEq, Repr

def atPosition (line column : Nat) : String :=
  s!" at line {line} column {column}"

def SyntaxFault.message (f : SyntaxFault) : String :=
  f.cause.message ++ atPosition f.line f.column

structure Cursor where
  rest : List Char
  line : Nat
  column : Nat

namespace Cursor

def start (text : String) : Cursor := ⟨text.toList, 1, 0⟩

def next (c : Cursor) : Cursor :=
  match c.rest with
  | [] => c
  | '\n' :: rest => ⟨rest, c.line + 1, 0⟩
  | x :: rest => ⟨rest, c.line, c.column + x.utf8Size⟩

def fault {α : Type} (c : Cursor) (cause : SyntaxCause) : Except SyntaxFault α :=
  .error ⟨cause, c.line, c.column⟩

/-- A fault one byte further on, or at the end of the text. -/
def faultAhead {α : Type} (c : Cursor) (cause : SyntaxCause) : Except SyntaxFault α :=
  match c.rest with
  | [] => c.fault cause
  | '\n' :: _ => .error ⟨cause, c.line + 1, 0⟩
  | _ :: _ => .error ⟨cause, c.line, c.column + 1⟩

def skipBlankFrom : List Char → Nat → Nat → Cursor
  | ' ' :: rest, line, column => skipBlankFrom rest line (column + 1)
  | '\t' :: rest, line, column => skipBlankFrom rest line (column + 1)
  | '\r' :: rest, line, column => skipBlankFrom rest line (column + 1)
  | '\n' :: rest, line, _ => skipBlankFrom rest (line + 1) 0
  | rest, line, column => ⟨rest, line, column⟩

def skipBlank (c : Cursor) : Cursor :=
  skipBlankFrom c.rest c.line c.column

def takeDigitsFrom : List Char → Nat → Nat → List Nat × Cursor
  | x :: rest, line, column =>
    if x.isDigit then
      let (digits, c) := takeDigitsFrom rest line (column + 1)
      ((x.toNat - '0'.toNat) :: digits, c)
    else ([], ⟨x :: rest, line, column⟩)
  | [], line, column => ([], ⟨[], line, column⟩)

def takeDigits (c : Cursor) : List Nat × Cursor :=
  takeDigitsFrom c.rest c.line c.column

/-- The cursor a number of bytes further on; `none` when the text ends before. The place
may be inside a character. -/
def skipBytes : Nat → List Char → Nat → Nat → Option Cursor
  | 0, rest, line, column => some ⟨rest, line, column⟩
  | _ + 1, [], _, _ => none
  | n + 1, x :: rest, line, column =>
    if x = '\n' then skipBytes n rest (line + 1) 0
    else if x.utf8Size ≤ n + 1 then skipBytes (n + 1 - x.utf8Size) rest line (column + x.utf8Size)
    else some ⟨rest, line, column + (n + 1)⟩
  termination_by n => n
  decreasing_by
    · omega
    · have := Char.utf8Size_pos x; omega

def toEnd : List Char → Nat → Nat → Cursor
  | [], line, column => ⟨[], line, column⟩
  | x :: rest, line, column =>
    if x = '\n' then toEnd rest (line + 1) 0 else toEnd rest line (column + x.utf8Size)

end Cursor

end Outreach.Json
