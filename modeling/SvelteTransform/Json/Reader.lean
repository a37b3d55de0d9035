import SvelteTransform.Json.Lexical

/-! Reading JSON values. `room` is how many more levels of nesting are allowed. `fuel` is at least
the length of the text that is left, and every call that spends it has taken a character, so it
runs out only at the end of the text and the answer given there is the right one. -/
namespace SvelteTransform.Json.Reader

def colon (s : List Char) : Except Fault (List Char) :=
  match skipSpace s with
  | [] => refuse .endInObject []
  | c :: rest => if c = ':' then .ok rest else refuseNext .noColon (c :: rest)

def keyOpening (atEnd : Cause) (atBrace : Cause) (s : List Char) : Except Fault (List Char) :=
  match skipSpace s with
  | [] => refuse atEnd []
  | c :: rest =>
    if c = '"' then .ok rest
    else refuseNext (if c = '\x7d' then atBrace else .keyNotString) (c :: rest)

def scalar (c : Char) (s : List Char) : Except Fault (Json × List Char) :=
  match c with
  | 'n' => return (.null, ← word ['u', 'l', 'l'] s)
  | 't' => return (.boolean true, ← word ['r', 'u', 'e'] s)
  | 'f' => return (.boolean false, ← word ['a', 'l', 's', 'e'] s)
  | '"' => do
    let (text, s) ← string .used s
    return (.string text, s)
  | c =>
    if c = '-' || isDigit c then do
      let (n, s) ← number c s
      return (.number n, s)
    else refuseNext .noValue (c :: s)

mutual
def value : (fuel room : Nat) → List Char → Except Fault (Json × List Char)
  | 0, _, _ => refuse .endInValue []
  | fuel + 1, room, s =>
    match skipSpace s with
    | [] => refuse .endInValue []
    | '[' :: s =>
      match room with
      | 0 => refuseNext .tooDeep ('[' :: s)
      | room + 1 =>
        match skipSpace s with
        | [] => refuse .endInList []
        | ']' :: s => .ok (.array [], s)
        | s => do
          let (v, s) ← value fuel room s
          let (rest, s) ← moreItems fuel room s
          return (.array (v :: rest), s)
    | '\x7b' :: s =>
      match room with
      | 0 => refuseNext .tooDeep ('\x7b' :: s)
      | room + 1 =>
        match skipSpace s with
        | [] => refuse .endInObject []
        | '\x7d' :: s => .ok (.object [], s)
        | s => do
          let (key, s) ← string .used (← keyOpening .endInObject .keyNotString s)
          let (v, s) ← value fuel room (← colon s)
          let (rest, s) ← moreMembers fuel room s
          return (.object (Fields.ofList ((key, v) :: rest)), s)
    | c :: s => scalar c s
def moreItems : (fuel room : Nat) → List Char → Except Fault (List Json × List Char)
  | 0, _, _ => refuse .endInList []
  | fuel + 1, room, s =>
    match skipSpace s with
    | [] => refuse .endInList []
    | ']' :: s => .ok ([], s)
    | ',' :: s =>
      match skipSpace s with
      | [] => refuse .endInValue []
      | ']' :: s => refuseNext .trailingComma (']' :: s)
      | s => do
        let (v, s) ← value fuel room s
        let (rest, s) ← moreItems fuel room s
        return (v :: rest, s)
    | s => refuseNext .noListEnd s
def moreMembers : (fuel room : Nat) → List Char → Except Fault (List (String × Json) × List Char)
  | 0, _, _ => refuse .endInObject []
  | fuel + 1, room, s =>
    match skipSpace s with
    | [] => refuse .endInObject []
    | '\x7d' :: s => .ok ([], s)
    | ',' :: s => do
      let (key, s) ← string .used (← keyOpening .endInValue .trailingComma s)
      let (v, s) ← value fuel room (← colon s)
      let (rest, s) ← moreMembers fuel room s
      return ((key, v) :: rest, s)
    | s => refuseNext .noObjectEnd s
end

def checkScalar (c : Char) (s : List Char) : Except Fault (List Char) :=
  match c with
  | 'n' => word ['u', 'l', 'l'] s
  | 't' => word ['r', 'u', 'e'] s
  | 'f' => word ['a', 'l', 's', 'e'] s
  | '"' => return (← string .discarded s).2
  | '-' => return (← unsigned .discarded true s).2
  | c =>
    if isDigit c then return (← unsigned .discarded false (c :: s)).2
    else refuseNext .noValue (c :: s)

/-
A value that will not be used has no limit on its depth, and its errors are coarser:
a comma must be followed by a value or a key, whatever closes after it.
-/
mutual
def check : (fuel : Nat) → List Char → Except Fault (List Char)
  | 0, _ => refuse .endInValue []
  | fuel + 1, s =>
    match skipSpace s with
    | [] => refuse .endInValue []
    | '[' :: s =>
      match skipSpace s with
      | [] => refuse .endInList []
      | ']' :: s => .ok s
      | s => do checkItems fuel (← check fuel s)
    | '\x7b' :: s =>
      match skipSpace s with
      | [] => refuse .endInObject []
      | '\x7d' :: s => .ok s
      | s => do
        let (_, s) ← string .discarded (← keyOpening .endInObject .keyNotString s)
        checkMembers fuel (← check fuel (← colon s))
    | c :: s => checkScalar c s
def checkItems : (fuel : Nat) → List Char → Except Fault (List Char)
  | 0, _ => refuse .endInList []
  | fuel + 1, s =>
    match skipSpace s with
    | [] => refuse .endInList []
    | ']' :: s => .ok s
    | ',' :: s => do checkItems fuel (← check fuel s)
    | s => refuseNext .noListEnd s
def checkMembers : (fuel : Nat) → List Char → Except Fault (List Char)
  | 0, _ => refuse .endInObject []
  | fuel + 1, s =>
    match skipSpace s with
    | [] => refuse .endInObject []
    | '\x7d' :: s => .ok s
    | ',' :: s => do
      let (_, s) ← string .discarded (← keyOpening .endInObject .keyNotString s)
      checkMembers fuel (← check fuel (← colon s))
    | s => refuseNext .noObjectEnd s
end

def finished (s : List Char) : Except Fault Unit :=
  match skipSpace s with
  | [] => .ok ()
  | s => refuseNext .trailingText s

def depthLimit : Nat := 127

end Reader

def read (room : Nat) (text : List Char) : Except Fault Json := do
  let (v, rest) ← Reader.value text.length room text
  Reader.finished rest
  return v

end SvelteTransform.Json
