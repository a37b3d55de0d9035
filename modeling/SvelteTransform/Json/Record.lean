import SvelteTransform.Json.Reader

/-! Reading an object whose fields are known beforehand. A known field is read by its own reader
and may come once; a member of any other name is only checked. Names are compared after their
escapes are resolved. -/
namespace SvelteTransform.Json

structure Field where
  name : String
  value : Nat → List Char → Except Fault (Json × List Char)

namespace Reader

def stringValue (s : List Char) : Except Fault (String × List Char) :=
  match skipSpace s with
  | [] => refuse .endInValue []
  | '[' :: s => refuse (.mismatch (.array []) "a string") ('[' :: s)
  | '\x7b' :: s => refuse (.mismatch (.object []) "a string") ('\x7b' :: s)
  | c :: s => do
    match ← scalar c s with
    | (.string text, s) => return (text, s)
    | (other, s) => refuse (.mismatch other "a string") s

def stringField (name : String) : Field where
  name
  value _ s := do
    let (text, s) ← stringValue s
    return (.string text, s)

def anyField (name : String) (room : Nat) : Field where
  name
  value fuel s := value fuel room s

/-- A second field of one name is noticed at its name; a brace that closes there is passed. -/
def refuseRepeated {α : Type} (name : String) (s : List Char) : Except Fault α :=
  match skipSpace s with
  | '\x7d' :: s => refuse (.repeated name) s
  | s => refuse (.repeated name) s

def memberValue (known : List Field) (seen : List (String × Json)) (fuel : Nat) (name : String)
    (s : List Char) : Except Fault (List (String × Json) × List Char) :=
  match known.find? (·.name = name) with
  | some field =>
    if (seen.lookup name).isSome then refuseRepeated name s
    else do
      let (v, s) ← field.value fuel (← colon s)
      return (seen ++ [(name, v)], s)
  | none => do
    let s ← check fuel (← colon s)
    return (seen, s)

def moreFields (known : List Field) :
    (fuel : Nat) → (seen : List (String × Json)) → List Char →
      Except Fault (List (String × Json) × List Char)
  | 0, _, _ => refuse .endInObject []
  | fuel + 1, seen, s =>
    match skipSpace s with
    | [] => refuse .endInObject []
    | '\x7d' :: s => .ok (seen, s)
    | ',' :: s => do
      let (name, s) ← string .used (← keyOpening .endInValue .trailingComma s)
      let (seen, s) ← memberValue known seen fuel name s
      moreFields known fuel seen s
    | s => refuseNext .noObjectEnd s

def fields (known : List Field) (fuel : Nat) (s : List Char) :
    Except Fault (List (String × Json) × List Char) :=
  match skipSpace s with
  | [] => refuse .endInObject []
  | '\x7d' :: s => .ok ([], s)
  | s => do
    let (name, s) ← string .used (← keyOpening .endInObject .keyNotString s)
    let (seen, s) ← memberValue known [] fuel name s
    moreFields known fuel seen s

def closeList (s : List Char) : Except Fault (List Char) :=
  match skipSpace s with
  | [] => refuse .endInList []
  | ']' :: s => .ok s
  | ',' :: s =>
    match skipSpace s with
    | ']' :: s => refuseNext .trailingComma (']' :: s)
    | s => refuseNext .trailingText s
  | s => refuseNext .trailingText s

end Reader
end SvelteTransform.Json
