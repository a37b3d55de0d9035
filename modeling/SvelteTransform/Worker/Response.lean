import SvelteTransform.Json.Record
import SvelteTransform.Text.Blank
import SvelteTransform.Worker.Failure

/-! A worker's response: preprocessed code and perhaps a source map. It is written as one line of
JSON. It is read from everything the worker printed, so anything beside one document, blanks
around it apart, is a failure; a map that is `null` is no map. -/
namespace SvelteTransform.Worker

structure Response where
  code : String
  map : Option Json
  deriving DecidableEq

namespace Response

def writtenMap (r : Response) : Json := r.map.getD .null

def document (r : Response) : Json :=
  .object [("code", .string r.code), ("map", r.writtenMap)]

def line (r : Response) : List Char := r.document.text

def toLine (r : Response) : String := String.ofList r.line

/-- The response is itself the first level of nesting. -/
def mapRoom : Nat := Json.Reader.depthLimit - 1

def codeField : Json.Field := Json.Reader.stringField "code"
def mapField : Json.Field := Json.Reader.anyField "map" mapRoom

def mapOf : Json → Option Json
  | .null => none
  | v => some v

open Json Json.Reader

def ofObject (fuel : Nat) (s : List Char) : Except Fault (Response × List Char) := do
  let (found, s) ← fields [codeField, mapField] fuel s
  match found.lookup "code" with
  | some (.string code) => return (⟨code, (found.lookup "map").bind mapOf⟩, s)
  | _ => refuse (.missing "code") s

def ofArray (fuel : Nat) (s : List Char) : Except Fault (Response × List Char) :=
  match skipSpace s with
  | [] => refuse .endInList []
  | ']' :: s => refuse (.wrongLength 0 "struct Preprocessed with 2 elements") s
  | s => do
    let (code, s) ← stringValue s
    match skipSpace s with
    | [] => refuse .endInList []
    | ']' :: s => return (⟨code, none⟩, s)
    | ',' :: s =>
      match skipSpace s with
      | [] => refuse .endInValue []
      | ']' :: s => refuseNext .trailingComma (']' :: s)
      | s => do
        let (map, s) ← mapField.value fuel s
        return (⟨code, mapOf map⟩, ← closeList s)
    | s => refuseNext .noListEnd s

def read (text : List Char) : Except Fault Response :=
  match skipSpace text with
  | [] => refuse .endInValue []
  | '[' :: s => do
    let (r, s) ← ofArray text.length s
    finished s
    return r
  | '\x7b' :: s => do
    let (r, s) ← ofObject text.length s
    finished s
    return r
  | c :: s => do
    let (v, s) ← scalar c s
    refuse (.mismatch v "struct Preprocessed") s

def ofOutput (output : String) : Except Failure Response :=
  let text := Text.trim output.toList
  match read text with
  | .ok r => .ok r
  | .error fault => .error (.protocol (fault.message text) output)

end Response

structure OrderedResponse extends Response where
  ordered : toResponse.writtenMap.Ordered

end SvelteTransform.Worker
