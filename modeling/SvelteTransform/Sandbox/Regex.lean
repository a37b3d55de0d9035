import SvelteTransform.Sandbox.Pattern

/-! Regular expressions, basic and extended. Of all matches at the leftmost place the longest
counts. -/
namespace SvelteTransform.Sandbox

inductive Regex where
  | empty
  | one (set : CharacterSet)
  | atStart
  | atEnd
  | edge (before after : Bool)
  | notEdge
  | group (number : Nat) (inside : Regex)
  | again (number : Nat)
  | both (first second : Regex)
  | either (first second : Regex)
  | many (inside : Regex) (least : Nat) (most : Option Nat)
  deriving DecidableEq, Repr, Inhabited

namespace Regex

def exactly (c : Char) : Regex := .one ⟨false, [(c, c)]⟩
def anyCharacter : Regex := .one ⟨true, []⟩

def wordRanges : List (Char × Char) := [('a', 'z'), ('A', 'Z'), ('0', '9'), ('_', '_')]
def spaceRanges : List (Char × Char) := [(' ', ' '), ('\t', '\r')]

structure Place where
  passed : Nat
  previous : Option Char
  rest : Octets
  groups : List (Nat × Octets) := []

def Place.step (p : Place) (c : Char) (rest : Octets) : Place :=
  { p with passed := p.passed + 1, previous := some c, rest }

def Place.follow (p : Place) : Octets → Option Place
  | [] => some p
  | c :: more =>
    match p.rest with
    | d :: rest => if c = d then (p.step d rest).follow more else none
    | [] => none

def isWordCharacter (c : Char) : Bool := Octets.isNamePart c

def otherCase (c : Char) : Char :=
  if Octets.isLower c then Char.ofNat (c.toNat - 32)
  else if Octets.isUpper c then Char.ofNat (c.toNat + 32) else c

def distinct : List Place → List Place → List Place
  | seen, [] => seen.reverse
  | seen, p :: rest =>
    if seen.any (·.passed = p.passed) then distinct seen rest else distinct (p :: seen) rest

def repeated (step : Place → List Place) :
    (fuel least : Nat) → (most : Option Nat) → Place → List Place
  | 0, _, _, p => [p]
  | fuel + 1, least, most, p =>
    let more := if most = some 0 then [] else
      ((step p).filter fun q => least != 0 || p.passed < q.passed).flatMap
        (repeated step fuel (least - 1) (most.map (· - 1)))
    distinct [] (more ++ if least = 0 then [p] else [])

def runs (accepts : Char → Bool) : (least : Nat) → (most : Option Nat) → Octets → Place →
    List Place → List Place
  | least, _, [], p, found => if least = 0 then p :: found else found
  | least, most, c :: rest, p, found =>
    let found := if least = 0 then p :: found else found
    if most = some 0 || !accepts c then found
    else runs accepts (least - 1) (most.map (· - 1)) rest (p.step c rest) found

def reach (folds : Bool) (multiline : Bool) : Regex → Place → List Place
  | .empty, p => [p]
  | .one set, p =>
    match p.rest with
    | c :: rest =>
      if set.holds c || (folds && set.holds (otherCase c)) then [p.step c rest] else []
    | [] => []
  | .atStart, p =>
    if p.previous.isNone || (multiline && p.previous = some '\n') then [p] else []
  | .atEnd, p => if p.rest = [] || (multiline && p.rest.head? = some '\n') then [p] else []
  | .edge before after, p =>
    if p.previous.any isWordCharacter = before && p.rest.head?.any isWordCharacter = after then [p]
    else []
  | .notEdge, p =>
    if p.previous.any isWordCharacter = p.rest.head?.any isWordCharacter then [p] else []
  | .group number inside, p =>
    (reach folds multiline inside p).map fun q =>
      { q with groups := (number, p.rest.take (q.passed - p.passed)) :: q.groups }
  | .again number, p => (p.follow ((p.groups.lookup number).getD [])).toList
  | .both first second, p =>
    distinct [] ((reach folds multiline first p).flatMap (reach folds multiline second))
  | .either first second, p =>
    distinct [] (reach folds multiline first p ++ reach folds multiline second p)
  | .many (.one set) least most, p =>
    runs (fun c => set.holds c || (folds && set.holds (otherCase c))) least most p.rest p []
  | .many inside least most, p =>
    repeated (reach folds multiline inside) (p.rest.length + least + 1) least most p

structure Match where
  start : Nat
  text : Octets
  groups : List (Nat × Octets)

def matchAt (r : Regex) (folds multiline : Bool) (p : Place) : Option Match :=
  let best := (reach folds multiline r p).foldl (fun best q => match best with
    | none => some q
    | some b => if b.passed < q.passed then some q else best) none
  best.map fun q => ⟨p.passed, p.rest.take (q.passed - p.passed), q.groups⟩

def search (r : Regex) (folds multiline : Bool) : (fuel : Nat) → Place → Option Match
  | 0, _ => none
  | fuel + 1, p =>
    match r.matchAt folds multiline p with
    | some m => some m
    | none =>
      match p.rest with
      | [] => none
      | c :: rest => search r folds multiline fuel (p.step c rest)

def find (r : Regex) (folds : Bool) (text : Octets) : Option Match :=
  r.search folds false (text.length + 1) ⟨0, none, text, []⟩

structure Source where
  rest : Octets
  groups : Nat

def isTail (extended : Bool) (rest : Octets) : Bool :=
  match rest with
  | [] => true
  | '\\' :: c :: _ => !extended && (c = ')' || c = '|')
  | c :: _ => extended && (c = ')' || c = '|')

def bracket (rest : Octets) : Option (CharacterSet × Octets) :=
  let (negated, rest) := match rest with
    | '^' :: rest => (true, rest)
    | rest => (false, rest)
  let (closing, rest) := match rest with
    | ']' :: rest => ([(']', ']')], rest)
    | rest => ([], rest)
  let rec members : (fuel : Nat) → List (Char × Char) → Octets →
      Option (List (Char × Char) × Octets)
    | 0, _, _ | _, _, [] => none
    | _, ranges, ']' :: rest => some (ranges, rest)
    | fuel + 1, ranges, '[' :: ':' :: rest =>
      let name := rest.takeWhile Octets.isLower
      match rest.drop name.length with
      | ':' :: ']' :: rest => do members fuel ((← CharacterSet.named? name) ++ ranges) rest
      | _ => members fuel (('[', '[') :: ranges) (':' :: rest)
    | fuel + 1, ranges, low :: '-' :: high :: rest =>
      if high = ']' then members fuel ((low, low) :: ranges) ('-' :: high :: rest)
      else members fuel ((low, high) :: ranges) rest
    | fuel + 1, ranges, c :: rest => members fuel ((c, c) :: ranges) rest
  (members (rest.length + 1) closing rest).map fun (ranges, rest) => (⟨negated, ranges⟩, rest)

def escaped (c : Char) : Regex :=
  match c with
  | 'n' => exactly '\n'
  | 't' => exactly '\t'
  | 'r' => exactly '\r'
  | 'f' => exactly '\x0c'
  | 'v' => exactly '\x0b'
  | 'a' => exactly '\x07'
  | 'w' => .one ⟨false, wordRanges⟩
  | 'W' => .one ⟨true, wordRanges⟩
  | 's' => .one ⟨false, spaceRanges⟩
  | 'S' => .one ⟨true, spaceRanges⟩
  | '<' => .edge false true
  | '>' => .edge true false
  | 'b' => .either (.edge false true) (.edge true false)
  | 'B' => .notEdge
  | '\x60' => .atStart
  | '\'' => .atEnd
  | c =>
    if '1' ≤ c && c ≤ '9' then .again (c.toNat - '0'.toNat) else exactly c

def bounds (extended : Bool) (rest : Octets) : Option (Nat × Option Nat × Octets) := do
  let low := rest.takeWhile Octets.isDigit
  let rest := rest.drop low.length
  let (high, rest) ← match rest with
    | ',' :: rest =>
      let high := rest.takeWhile Octets.isDigit
      some (if high = [] then none else some (Octets.natural high), rest.drop high.length)
    | rest => if low = [] then none else some (some (Octets.natural low), rest)
  let rest ← match extended, rest with
    | true, '\x7d' :: rest => some rest
    | false, '\\' :: '\x7d' :: rest => some rest
    | _, _ => none
  if high.any (· < Octets.natural low) then none
  return (Octets.natural low, high, rest)

def repetitions (extended : Bool) : (fuel : Nat) → Regex → Octets → Option (Regex × Octets)
  | 0, r, rest => some (r, rest)
  | fuel + 1, r, rest =>
    match extended, rest with
    | _, '*' :: rest => repetitions extended fuel (.many r 0 none) rest
    | true, '+' :: rest | false, '\\' :: '+' :: rest =>
      repetitions extended fuel (.many r 1 none) rest
    | true, '?' :: rest | false, '\\' :: '?' :: rest =>
      repetitions extended fuel (.many r 0 (some 1)) rest
    | true, '\x7b' :: rest =>
      match bounds extended rest with
      | some (least, most, rest) => repetitions extended fuel (.many r least most) rest
      | none => some (r, '\x7b' :: rest)
    | false, '\\' :: '\x7b' :: rest => do
      let (least, most, rest) ← bounds extended rest
      repetitions extended fuel (.many r least most) rest
    | _, rest => some (r, rest)

mutual
def alternatives (extended : Bool) : (fuel : Nat) → Source → Option (Regex × Source)
  | 0, _ => none
  | fuel + 1, s => do
    let (first, s) ← sequence extended fuel true .empty s
    match extended, s.rest with
    | true, '|' :: rest | false, '\\' :: '|' :: rest =>
      let (second, s) ← alternatives extended fuel { s with rest }
      return (.either first second, s)
    | _, _ => return (first, s)

def sequence (extended : Bool) :
    (fuel : Nat) → (first : Bool) → Regex → Source → Option (Regex × Source)
  | 0, _, _, _ => none
  | fuel + 1, first, before, s => do
    if isTail extended s.rest then return (before, s)
    let goOn (r : Regex) (repeats : Bool) (s : Source) : Option (Regex × Source) := do
      let (r, rest) ← if repeats then repetitions extended (s.rest.length + 1) r s.rest
        else some (r, s.rest)
      let joined := match before with
        | .empty => r
        | before => .both before r
      sequence extended fuel false joined { s with rest }
    match s.rest with
    | '^' :: rest =>
      if extended || first then
        let (r, s) ← sequence extended fuel true
          (match before with | .empty => .atStart | before => .both before .atStart)
          { s with rest }
        return (r, s)
      else goOn (exactly '^') true { s with rest }
    | '$' :: rest =>
      if extended || isTail false rest then goOn .atEnd false { s with rest }
      else goOn (exactly '$') true { s with rest }
    | '.' :: rest => goOn anyCharacter true { s with rest }
    | '[' :: rest =>
      let (set, rest) ← bracket rest
      goOn (.one set) true { s with rest }
    | '*' :: rest =>
      if first then goOn (exactly '*') true { s with rest } else none
    | '\\' :: '(' :: rest =>
      if extended then goOn (exactly '(') true { s with rest }
      else
        let number := s.groups + 1
        let (inside, s) ← alternatives extended fuel ⟨rest, number⟩
        match s.rest with
        | '\\' :: ')' :: rest => goOn (.group number inside) true { s with rest }
        | _ => none
    | '(' :: rest =>
      if !extended then goOn (exactly '(') true { s with rest }
      else
        let number := s.groups + 1
        let (inside, s) ← alternatives extended fuel ⟨rest, number⟩
        match s.rest with
        | ')' :: rest => goOn (.group number inside) true { s with rest }
        | _ => none
    | '\\' :: c :: rest =>
      -- A text can be repeated only after its group.
      if Octets.isDigit c && s.groups < c.toNat - '0'.toNat then none
      else goOn (escaped c) true { s with rest }
    | ['\\'] => none
    | c :: rest => goOn (exactly c) true { s with rest }
    | [] => return (before, s)
end

def fault (extended : Bool) (text : Octets) : String :=
  let rec go : (fuel : Nat) → (opened closed : Nat) → Octets → String
    | 0, _, _, _ => "Invalid preceding regular expression"
    | fuel + 1, opened, closed, rest =>
      let close (rest : Octets) : String :=
        if opened = closed then "Unmatched ) or \\)" else go fuel opened (closed + 1) rest
      match rest with
      | [] => if closed < opened then "Unmatched ( or \\(" else "Invalid preceding regular expression"
      | ['\\'] => "Trailing backslash"
      | '[' :: rest =>
        match bracket rest with
        | some (_, rest) => go fuel opened closed rest
        | none =>
          if hasUnknownClass rest then "Invalid character class name"
          else "Unmatched [, [^, [:, [., or [="
      | '\\' :: c :: rest =>
        if extended then
          if Octets.isDigit c && opened < c.toNat - '0'.toNat then "Invalid back reference"
          else go fuel opened closed rest
        else if c = '(' then go fuel (opened + 1) closed rest
        else if c = ')' then close rest
        else if c = '\x7b' then
          match bounds false rest with
          | some (_, _, rest) => go fuel opened closed rest
          | none => if (rest.zip rest.tail).contains ('\\', '\x7d') then "Invalid content of \\\x7b\\\x7d"
            else "Unmatched \\\x7b"
        else if Octets.isDigit c && c != '0' && opened < c.toNat - '0'.toNat then
          "Invalid back reference"
        else go fuel opened closed rest
      | c :: rest =>
        if extended && c = '(' then go fuel (opened + 1) closed rest
        else if extended && c = ')' then close rest
        else go fuel opened closed rest
  go (text.length + 1) 0 0 text
where
  hasUnknownClass (rest : Octets) : Bool :=
    (rest.zip rest.tail).contains ('[', ':') && (rest.zip rest.tail).contains (':', ']')

def ofText? (extended : Bool) (text : Octets) : Option Regex := do
  let (r, s) ← alternatives extended (2 * text.length + 4) ⟨text, 0⟩
  if s.rest = [] then some r else none

end Regex
end SvelteTransform.Sandbox
