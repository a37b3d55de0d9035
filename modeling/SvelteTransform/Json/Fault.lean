import SvelteTransform.Json.Printer
import SvelteTransform.Text.Utf8

/-! Why a JSON text was refused, and where. A fault keeps the number of bytes that were still
unread, so readers need not count what they have passed; the place is worked out from the whole
text afterwards. Columns count bytes. -/
namespace SvelteTransform.Json

inductive Cause where
  | endInValue
  | endInList
  | endInObject
  | endInString
  | noValue
  | noWord
  | noColon
  | noListEnd
  | noObjectEnd
  | keyNotString
  | trailingComma
  | trailingText
  | badNumber
  | numberRange
  | badEscape
  | controlCharacter
  | loneSurrogate
  | halfSurrogate
  | tooDeep
  | mismatch (found : Json) (wanted : String)
  | missing (field : String)
  | repeated (field : String)
  | wrongLength (found : Nat) (wanted : String)
  deriving DecidableEq

def Cause.message : Cause → String
  | .endInValue => "EOF while parsing a value"
  | .endInList => "EOF while parsing a list"
  | .endInObject => "EOF while parsing an object"
  | .endInString => "EOF while parsing a string"
  | .noValue => "expected value"
  | .noWord => "expected ident"
  | .noColon => "expected `:`"
  | .noListEnd => "expected `,` or `]`"
  | .noObjectEnd => "expected `,` or `\x7d`"
  | .keyNotString => "key must be a string"
  | .trailingComma => "trailing comma"
  | .trailingText => "trailing characters"
  | .badNumber => "invalid number"
  | .numberRange => "number out of range"
  | .badEscape => "invalid escape"
  | .controlCharacter => "control character (\\u0000-\\u001F) found while parsing a string"
  | .loneSurrogate => "lone leading surrogate in hex escape"
  | .halfSurrogate => "unexpected end of hex escape"
  | .tooDeep => "recursion limit exceeded"
  | .mismatch found wanted => s!"invalid type: {found.described}, expected {wanted}"
  | .missing field => s!"missing field `{field}`"
  | .repeated field => s!"duplicate field `{field}`"
  | .wrongLength found wanted => s!"invalid length {found}, expected {wanted}"

structure Fault where
  cause : Cause
  unread : Nat
  deriving DecidableEq

structure Place where
  line : Nat
  column : Nat
  deriving DecidableEq, Repr

/-- Moves over the characters that end within the next `bytes` bytes; what remains of a character
that is cut counts as columns. -/
def Place.advance (place : Place) : List Char → Nat → Place
  | [], _ => place
  | c :: rest, bytes =>
    if bytes < c.utf8Size then { place with column := place.column + bytes }
    else if c = '\n' then Place.advance ⟨place.line + 1, 0⟩ rest (bytes - 1)
    else Place.advance ⟨place.line, place.column + c.utf8Size⟩ rest (bytes - c.utf8Size)

def Fault.place (fault : Fault) (text : List Char) : Place :=
  Place.advance ⟨1, 0⟩ text (Text.byteCount text - fault.unread)

def Fault.message (fault : Fault) (text : List Char) : String :=
  let place := fault.place text
  s!"{fault.cause.message} at line {place.line} column {place.column}"

def refuse {α : Type} (cause : Cause) (rest : List Char) : Except Fault α :=
  .error ⟨cause, Text.byteCount rest⟩

def refuseNext {α : Type} (cause : Cause) (rest : List Char) : Except Fault α :=
  .error ⟨cause, Text.byteCount rest - 1⟩

end SvelteTransform.Json
