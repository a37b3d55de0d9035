import SvelteTransform.Search.Budget
import SvelteTransform.Text.Blank

/-! Reading an expression. Letters stand for themselves in one case only, and the classes with a
letter for a name are known for ASCII text alone, so both have to be asked for with `(?-u)`. There
a set must not reach beyond ASCII. Neither the nesting nor the size is without bounds. -/
namespace SvelteTransform.Search

structure Flags where
  folds : Bool := false
  lines : Bool := false
  dotAll : Bool := false
  returns : Bool := false
  unicode : Bool := true
  spaced : Bool := false
  swaps : Bool := false

namespace Flags

def set (f : Flags) (letter : Char) (value : Bool) : Option Flags :=
  match letter with
  | 'i' => some { f with folds := value }
  | 'm' => some { f with lines := value }
  | 's' => some { f with dotAll := value }
  | 'R' => some { f with returns := value }
  | 'u' => some { f with unicode := value }
  | 'x' => some { f with spaced := value }
  | 'U' => some { f with swaps := value }
  | _ => none

def top (f : Flags) : Nat := if f.unicode then 0x10ffff else 0xff

def folded (f : Flags) (s : Characters) : Option Characters :=
  if !f.folds then some s
  else if !f.unicode then some s.bothCases
  else if s.isEmpty then some s else none

def checked (f : Flags) (s : Characters) : Option Characters :=
  if f.unicode || s.isAscii then some s else none

def skip (f : Flags) (text : List Char) : List Char :=
  if !f.spaced then text else outside text
where
  outside : List Char → List Char
    | [] => []
    | '#' :: rest => inside rest
    | c :: rest => if Text.isBlank c then outside rest else c :: rest
  inside : List Char → List Char
    | [] => []
    | c :: rest => if c = '\n' then outside rest else inside rest

def letter (f : Flags) (c : Char) : Option Expression :=
  if f.folds && f.unicode then none
  else if f.folds then some (.ofSet (Characters.one c).bothCases)
  else some (.letters [c])

def anything (f : Flags) : Option Expression :=
  if !f.unicode then none
  else
    let ends : List Char := if f.dotAll then [] else if f.returns then ['\n', '\r'] else ['\n']
    some (.ofSet (Characters.complement f.top (.ofRanges (ends.map fun c => (c, c)))))

def lineStart (f : Flags) : Condition := if f.lines then .lineStart f.returns else .textStart
def lineEnd (f : Flags) : Condition := if f.lines then .lineEnd f.returns else .textEnd

end Flags

inductive Escape where
  | letter (c : Char)
  | set (s : Characters)
  | condition (c : Condition)

def hexDigit? (c : Char) : Option Nat :=
  if '0' ≤ c && c ≤ '9' then some (c.toNat - '0'.toNat)
  else if 'a' ≤ c && c ≤ 'f' then some (c.toNat - 'a'.toNat + 10)
  else if 'A' ≤ c && c ≤ 'F' then some (c.toNat - 'A'.toNat + 10)
  else none

def numbered? (n : Nat) : Option Char := if n.isValidChar then some (Char.ofNat n) else none

def hexDigits (f : Flags) : Nat → Nat → List Char → Option (Nat × List Char)
  | 0, value, rest => some (value, rest)
  | _, _, [] => none
  | n + 1, value, c :: rest => do hexDigits f n (value * 16 + (← hexDigit? c)) (f.skip rest)

def bracedHex (f : Flags) : (fuel : Nat) → Option Nat → List Char → Option (Nat × List Char)
  | 0, _, _ | _, _, [] => none
  | _, value, '\x7d' :: rest => value.map (·, f.skip rest)
  | fuel + 1, value, c :: rest => do
    bracedHex f fuel (some (value.getD 0 * 16 + (← hexDigit? c))) (f.skip rest)

def hex (f : Flags) (digits : Nat) (rest : List Char) : Option (Escape × List Char) := do
  match f.skip rest with
  | '\x7b' :: rest =>
    let (n, rest) ← bracedHex f (rest.length + 1) none (f.skip rest)
    return (.letter (← numbered? n), rest)
  | rest =>
    let (n, rest) ← hexDigits f digits 0 rest
    if !f.unicode && digits = 2 && 128 ≤ n then none
    return (.letter (← numbered? n), rest)

def asciiClass (f : Flags) (s : Characters) (rest : List Char) : Option (Escape × List Char) :=
  if f.unicode then none else some (.set s, rest)

def wordCondition (f : Flags) (place : WordEdge) : Escape := .condition (.word place (!f.unicode))

def wordEdge (f : Flags) (rest : List Char) : Option (Escape × List Char) :=
  let isNamePart (c : Char) : Bool := c.isAlpha || c = '-'
  let plain := some (wordCondition f .edge, rest)
  match rest with
  | '\x7b' :: inside =>
    let inside := f.skip inside
    if !inside.head?.any isNamePart then plain
    else
      let name := inside.takeWhile isNamePart
      match String.ofList name, f.skip (inside.drop name.length) with
      | "start", '\x7d' :: rest => some (wordCondition f .start, rest)
      | "end", '\x7d' :: rest => some (wordCondition f .ending, rest)
      | "start-half", '\x7d' :: rest => some (wordCondition f .startHalf, rest)
      | "end-half", '\x7d' :: rest => some (wordCondition f .endHalf, rest)
      | _, _ => none
  | _ => plain

def escape (f : Flags) : List Char → Option (Escape × List Char)
  | [] => none
  | c :: rest =>
    match c with
    | 'x' => hex f 2 rest
    | 'u' => hex f 4 rest
    | 'U' => hex f 8 rest
    | 'd' => asciiClass f .digit rest
    | 's' => asciiClass f .space rest
    | 'w' => asciiClass f .word rest
    | 'a' => some (.letter '\x07', rest)
    | 'f' => some (.letter '\x0c', rest)
    | 't' => some (.letter '\t', rest)
    | 'n' => some (.letter '\n', rest)
    | 'r' => some (.letter '\r', rest)
    | 'v' => some (.letter '\x0b', rest)
    | 'A' => some (.condition .textStart, rest)
    | 'z' => some (.condition .textEnd, rest)
    | 'b' => wordEdge f rest
    | 'B' => some (wordCondition f .inside, rest)
    | '<' => some (wordCondition f .start, rest)
    | '>' => some (wordCondition f .ending, rest)
    | c => if c.toNat < 128 && !c.isAlphanum then some (.letter c, rest) else none

inductive SetOperation where
  | intersection
  | difference
  | symmetricDifference

namespace SetOperation

def ofSign? : Char → Option SetOperation
  | '&' => some .intersection
  | '-' => some .difference
  | '~' => some .symmetricDifference
  | _ => none

def combine (f : Flags) (s t : Characters) : SetOperation → Characters
  | .intersection => s.intersection t
  | .difference => s.intersection (t.complement f.top)
  | .symmetricDifference =>
    (s.intersection (t.complement f.top)).union (t.intersection (s.complement f.top))

end SetOperation

def namedClass (f : Flags) : List Char → Option (Characters × List Char)
  | ':' :: rest =>
    let (negated, rest) := match rest with
      | '^' :: rest => (true, rest)
      | rest => (false, rest)
    let name := rest.takeWhile (· != ':')
    match rest.drop name.length with
    | ':' :: ']' :: rest =>
      (Characters.named? name).map fun s => (if negated then s.complement f.top else s, rest)
    | _ => none
  | _ => none

def classMember (f : Flags) : List Char → Option (Escape × List Char)
  | [] => none
  | '\\' :: rest => escape f rest
  | c :: rest => some (.letter c, rest)

def classRange (f : Flags) (text : List Char) : Option (Characters × List Char) := do
  let (low, rest) ← classMember f text
  let rest := f.skip rest
  let alone : Option (Characters × List Char) := match low with
    | .letter c => if f.unicode || c.toNat < 128 then some (.one c, rest) else none
    | .set s => some (s, rest)
    | .condition _ => none
  match rest with
  | [] => none
  | '-' :: more =>
    let more := f.skip more
    if more.head? = some ']' || more.head? = some '-' then alone
    else
      let (high, rest) ← classMember f more
      match low, high with
      | .letter low, .letter high =>
        if low ≤ high && (f.unicode || high.toNat < 128) then
          some (.ofRange low high, rest)
        else none
      | _, _ => none
  | _ => alone

structure Members where
  set : Characters := .none
  count : Nat := 0
  deepest : Nat := 0

namespace Members

def add (m : Members) (set : Characters) (depth : Nat) : Members :=
  ⟨m.set.union set, m.count + 1, max m.deepest depth⟩

def depth (m : Members) : Nat := if m.count ≤ 1 then m.deepest else m.deepest + 1

end Members

def classFront (f : Flags) : (fuel : Nat) → Members → List Char → Members × List Char
  | 0, m, rest => (m, rest)
  | fuel + 1, m, '-' :: rest => classFront f fuel (m.add (.one '-') 0) (f.skip rest)
  | _, m, ']' :: rest => if m.count = 0 then (m.add (.one ']') 0, f.skip rest) else (m, ']' :: rest)
  | _, m, rest => (m, rest)

structure ClassState where
  side : Option (Characters × Nat × SetOperation) := none
  members : Members

def ClassState.whole (f : Flags) (s : ClassState) : Option (Characters × Nat) :=
  match s.side with
  | none => some (s.members.set, s.members.depth)
  | some (side, depth, operation) => do
    return (operation.combine f (← f.folded side) (← f.folded s.members.set),
      1 + max depth s.members.depth)

mutual
def bracketed (f : Flags) : (fuel : Nat) → List Char → Option (Characters × Nat × List Char)
  | 0, _ => none
  | fuel + 1, rest => do
    let (negated, rest) := match f.skip rest with
      | '^' :: rest => (true, f.skip rest)
      | rest => (false, rest)
    let (front, rest) := classFront f (rest.length + 1) {} rest
    let (s, depth, rest) ← classRest f fuel ⟨none, front⟩ rest
    let s ← f.folded s
    return (← f.checked (if negated then s.complement f.top else s), depth + 1, rest)

def classRest (f : Flags) : (fuel : Nat) → ClassState → List Char →
    Option (Characters × Nat × List Char)
  | 0, _, _ => none
  | fuel + 1, s, rest => do
    let add (set : Characters) (depth : Nat) (rest : List Char) :=
      classRest f fuel { s with members := s.members.add set depth } rest
    match f.skip rest with
    | [] => none
    | ']' :: rest =>
      let (set, depth) ← s.whole f
      return (set, depth, rest)
    | '[' :: rest =>
      match namedClass f rest with
      | some (set, rest) => add set 0 rest
      | none =>
        let (set, depth, rest) ← bracketed f fuel rest
        add set depth rest
    | c :: rest =>
      match SetOperation.ofSign? c, rest with
      | some operation, d :: more =>
        if c = d then
          let (side, depth) ← s.whole f
          classRest f fuel ⟨some (side, depth, operation), {}⟩ more
        else
          let (set, rest) ← classRange f (c :: rest)
          add set 0 rest
      | _, _ =>
        let (set, rest) ← classRange f (c :: rest)
        add set 0 rest
end

def switches (f : Flags) : (fuel : Nat) → (seen : List Char) → List Char →
    Option (Flags × List Char)
  | 0, _, _ | _, _, [] => none
  | fuel + 1, seen, c :: rest =>
    if c = ':' || c = ')' then if seen.head? = some '-' then none else some (f, c :: rest)
    else if seen.contains c then none
    else if c = '-' then switches f fuel (c :: seen) rest
    else do switches (← f.set c (!seen.contains '-')) fuel (c :: seen) rest

def groupName (names : List (List Char)) (rest : List Char) :
    Option (List (List Char) × List Char) :=
  let name := rest.takeWhile (· != '>')
  let starts (c : Char) : Bool := c.isAlpha || c = '_' || 128 ≤ c.toNat
  let goesOn (c : Char) : Bool := starts c || c.isDigit || c = '.' || c = '[' || c = ']'
  match rest.drop name.length with
  | '>' :: rest =>
    if name.head?.any starts && name.all goesOn && !names.contains name then
      some (name :: names, rest)
    else none
  | _ => none

def count (f : Flags) (rest : List Char) : Option (Nat × List Char) :=
  let digits (text : List Char) : List Char × List Char :=
    (text.takeWhile Char.isDigit, text.dropWhile Char.isDigit)
  let (first, rest) := digits (rest.dropWhile Text.isBlank)
  let value := first.foldl (fun n c => n * 10 + (c.toNat - '0'.toNat)) 0
  let rest := f.skip (rest.dropWhile Text.isBlank)
  if first = [] || 0x100000000 ≤ value then none else some (value, rest)

def bounds (f : Flags) (rest : List Char) : Option (Nat × Option Nat × List Char) := do
  let (least, rest) ← count f (f.skip rest)
  match rest with
  | '\x7d' :: rest => return (least, some least, f.skip rest)
  | ',' :: rest =>
    match f.skip rest with
    | '\x7d' :: rest => return (least, none, f.skip rest)
    | rest =>
      let (most, rest) ← count f rest
      match rest with
      | '\x7d' :: rest => if least ≤ most then return (least, some most, f.skip rest) else none
      | _ => none
  | _ => none

structure Item where
  expression : Expression
  depth : Nat

namespace Item

def ofSequence (items : List Item) : Item :=
  match items with
  | [item] => item
  | items =>
    ⟨.sequence (items.map (·.expression)),
      if items.isEmpty then 0 else 1 + (items.map (·.depth)).foldl max 0⟩

def ofAlternatives (items : List Item) : Item :=
  match items with
  | [item] => item
  | items => ⟨.alternatives (items.map (·.expression)), 1 + (items.map (·.depth)).foldl max 0⟩

def repeated (item : Item) (least : Nat) (most : Option Nat) (greedy : Bool) : Item :=
  ⟨.repeated item.expression least most greedy, item.depth + 1⟩

end Item

structure Source where
  rest : List Char
  flags : Flags := {}
  names : List (List Char) := []
  groups : Nat := 0

mutual
def alternation : (fuel : Nat) → List Item → Source → Option (Item × Source)
  | 0, _, _ => none
  | fuel + 1, before, s => do
    let (item, s) ← sequence fuel [] none s
    match s.rest with
    | '|' :: rest => alternation fuel (item :: before) { s with rest }
    | _ => return (.ofAlternatives (item :: before).reverse, s)

def sequence : (fuel : Nat) → List Item → Option Item → Source → Option (Item × Source)
  | 0, _, _, _ => none
  | fuel + 1, before, last, s => do
    let done := last.toList ++ before
    let goOn (expression : Expression) (depth : Nat) (rest : List Char) :=
      sequence fuel done (some ⟨expression, depth⟩) { s with rest }
    let again (least : Nat) (most : Option Nat) (rest : List Char) := do
      let (short, rest) := match rest with
        | '?' :: rest => (true, rest)
        | rest => (false, rest)
      let item := (← last).repeated least most (short == s.flags.swaps)
      sequence fuel before (some item) { s with rest }
    let finish (rest : List Char) := some (Item.ofSequence done.reverse, { s with rest })
    match s.flags.skip s.rest with
    | [] => finish []
    | ')' :: rest => finish (')' :: rest)
    | '|' :: rest => finish ('|' :: rest)
    | '?' :: rest => again 0 (some 1) rest
    | '*' :: rest => again 0 none rest
    | '+' :: rest => again 1 none rest
    | '\x7b' :: rest =>
      let (least, most, rest) ← bounds s.flags rest
      again least most rest
    | '(' :: rest =>
      let grouped (number : Option Nat) (inner : Source) := do
        let (item, inner) ← alternation fuel [] inner
        let expression := match number with
          | some number => .group number item.expression
          | none => item.expression
        match inner.rest with
        | ')' :: rest =>
          sequence fuel done (some ⟨expression, item.depth + 1⟩)
            { inner with rest, flags := s.flags }
        | _ => none
      let numbered (inner : Source) :=
        grouped (some (s.groups + 1)) { inner with groups := s.groups + 1 }
      match s.flags.skip rest with
      | '?' :: 'P' :: '<' :: rest =>
        let (names, rest) ← groupName s.names rest
        numbered { s with rest, names }
      | '?' :: '<' :: c :: rest =>
        if c = '=' || c = '!' then none
        else
          let (names, rest) ← groupName s.names (c :: rest)
          numbered { s with rest, names }
      | '?' :: rest =>
        let (flags, after) ← switches s.flags (rest.length + 1) [] rest
        match after with
        | ':' :: rest => grouped none { s with rest, flags }
        | ')' :: after =>
          if rest.head? = some ')' then none
          else sequence fuel (⟨.empty, 0⟩ :: done) none { s with rest := after, flags }
        | _ => none
      | rest => numbered { s with rest }
    | '[' :: rest =>
      let (set, depth, rest) ← bracketed s.flags (2 * rest.length + 2) rest
      goOn (.ofSet set) depth rest
    | '.' :: rest => goOn (← s.flags.anything) 0 rest
    | '^' :: rest => goOn (.condition s.flags.lineStart) 0 rest
    | '$' :: rest => goOn (.condition s.flags.lineEnd) 0 rest
    | '\\' :: rest =>
      let (meaning, rest) ← escape s.flags rest
      match meaning with
      | .letter c => goOn (← s.flags.letter c) 0 rest
      | .set set => goOn (.ofSet set) 0 rest
      | .condition what => goOn (.condition what) 0 rest
    | c :: rest => goOn (← s.flags.letter c) 0 rest
end

def depthLimit : Nat := 250

def Expression.ofText? (text : String) : Option Expression := do
  let (item, s) ← alternation (2 * text.length + 2) [] { rest := text.toList }
  let e := item.expression
  if s.rest = [] ∧ item.depth ≤ depthLimit ∧ !e.asksForWords ∧ e.fits then some e else none

end SvelteTransform.Search
