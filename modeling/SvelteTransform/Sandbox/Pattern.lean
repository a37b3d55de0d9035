import SvelteTransform.Sandbox.World

/-! Patterns for texts and for the names of files. -/
namespace SvelteTransform.Sandbox

structure CharacterSet where
  negated : Bool
  ranges : List (Char × Char)
  deriving DecidableEq, Repr

namespace CharacterSet

def holds (s : CharacterSet) (c : Char) : Bool :=
  (s.ranges.any fun (low, high) => low ≤ c && c ≤ high) != s.negated

def named? (name : Octets) : Option (List (Char × Char)) :=
  let letters := [('a', 'z'), ('A', 'Z')]
  let digits := [('0', '9')]
  let signs := [('!', '/'), (':', '@'), ('[', '\x60'), ('\x7b', '~')]
  match String.ofList name with
  | "alpha" => some letters
  | "digit" => some digits
  | "alnum" => some (letters ++ digits)
  | "upper" => some [('A', 'Z')]
  | "lower" => some [('a', 'z')]
  | "space" => some [('\t', '\r'), (' ', ' ')]
  | "blank" => some [('\t', '\t'), (' ', ' ')]
  | "punct" => some signs
  | "xdigit" => some (digits ++ [('a', 'f'), ('A', 'F')])
  | "cntrl" => some [('\x00', '\x1f'), ('\x7f', '\x7f')]
  | "graph" => some (letters ++ digits ++ signs)
  | "print" => some ((' ', ' ') :: (letters ++ digits ++ signs))
  | _ => none

end CharacterSet

abbrev Marked := Char × Bool

namespace Pattern

inductive Atom where
  | exactly (c : Char)
  | any
  | many
  | among (set : CharacterSet)
  deriving DecidableEq, Repr

def className (text : List Marked) : Option (List (Char × Char) × List Marked) :=
  match text with
  | ('[', _) :: (':', _) :: rest =>
    let name := (rest.map (·.1)).takeWhile Octets.isLower
    match rest.drop name.length with
    | (':', _) :: (']', _) :: rest => (CharacterSet.named? name).map (·, rest)
    | _ => none
  | _ => none

def members : (fuel : Nat) → (first : Bool) → List (Char × Char) → List Marked →
    Option (List (Char × Char) × List Marked)
  | 0, _, _, _ | _, _, _, [] => none
  | fuel + 1, first, ranges, (c, active) :: rest =>
    if c = ']' && active && !first then some (ranges, rest)
    else match className ((c, active) :: rest) with
      | some (named, rest) => members fuel false (named ++ ranges) rest
      | none =>
        let (c, rest) := match c, active, rest with
          | '\\', true, (d, _) :: rest => (d, rest)
          | c, _, rest => (c, rest)
        match rest with
        | ('-', true) :: (high, final) :: more =>
          if high = ']' && final then members fuel false ((c, c) :: ranges) rest
          else members fuel false ((c, high) :: ranges) more
        | _ => members fuel false ((c, c) :: ranges) rest

def characterSet (text : List Marked) : Option (CharacterSet × List Marked) :=
  let (negated, text) := match text with
    | ('!', true) :: rest | ('^', true) :: rest => (true, rest)
    | text => (false, text)
  (members (text.length + 1) true [] text).map fun (ranges, rest) => (⟨negated, ranges⟩, rest)

def atomOf (c : Char) (active : Bool) (rest : List Marked) : Atom × List Marked :=
  if !active then (.exactly c, rest)
  else if c = '*' then (.many, rest)
  else if c = '?' then (.any, rest)
  else if c = '[' then
    match characterSet rest with
    | some (set, rest) => (.among set, rest)
    | none => (.exactly c, rest)
  else match c, rest with
    | '\\', (d, _) :: rest => (.exactly d, rest)
    | c, rest => (.exactly c, rest)

def atoms : (fuel : Nat) → List Marked → List Atom
  | 0, _ | _, [] => []
  | fuel + 1, (c, active) :: rest =>
    let (atom, rest) := atomOf c active rest
    atom :: atoms fuel rest

end Pattern

abbrev Pattern := List Pattern.Atom

namespace Pattern

def ofMarked (text : List Marked) : Pattern := atoms text.length text

def Atom.accepts : Atom → Char → Bool
  | .exactly c, d => c = d
  | .any, _ => true
  | .many, _ => true
  | .among set, d => set.holds d

def anyEnd (test : Octets → Bool) : Octets → Bool
  | [] => test []
  | c :: rest => test (c :: rest) || anyEnd test rest

def covers : Pattern → Octets → Bool
  | [], text => text = []
  | .many :: rest, text =>
    rest = [] || anyEnd (covers rest) text
  | atom :: rest, c :: text => atom.accepts c && covers rest text
  | _ :: _, [] => false

def dropFront (p : Pattern) (longest : Bool) (text : Octets) : Octets :=
  let lengths := List.range (text.length + 1)
  match (if longest then lengths.reverse else lengths).find? fun n => p.covers (text.take n) with
  | some n => text.drop n
  | none => text

def dropBack (p : Pattern) (longest : Bool) (text : Octets) : Octets :=
  let lengths := List.range (text.length + 1)
  match (if longest then lengths else lengths.reverse).find? fun n => p.covers (text.drop n) with
  | some n => text.take n
  | none => text

def isSpecial (text : List Marked) : Bool :=
  text.any fun (c, active) => active && (c = '*' || c = '?' || c = '[')

def coversName (p : Pattern) (name : Octets) : Bool :=
  p.covers name && (name.head? != some '.' || p.head? = some (.exactly '.'))

def directory? (files : Files) (here : Inode) (text : Octets) : Option Inode :=
  match files.find here (if text = [] then .ofString "." else pathOf text) with
  | .ok (.node inode .directory) => some inode
  | _ => none

def isThere (files : Files) (here : Inode) (text : Octets) : Bool :=
  match files.find here (pathOf text) false with
  | .ok (.node ..) => true
  | _ => false

def paths (files : Files) (here : Inode) : Octets → List (List Marked) → List Octets
  | begun, [] => if isThere files here begun then [begun] else []
  | begun, segment :: rest =>
    let goOn (name : Octets) : List Octets :=
      if rest = [] then paths files here (begun ++ name) rest
      else paths files here (begun ++ name ++ ['/']) rest
    if isSpecial segment then
      match directory? files here begun with
      | none => []
      | some directory =>
        let pattern := ofMarked segment
        let found := (files.names directory).map Octets.ofText
        let hidden := if segment.head? = some ('.', true) || segment.head? = some ('.', false) then
          [['.'], ['.', '.']] else []
        ((hidden ++ found).filter pattern.coversName).flatMap goOn
    else goOn (segment.map (·.1))

def segments : List Marked → List (List Marked)
  | [] => [[]]
  | (c, active) :: rest =>
    if c = '/' then [] :: segments rest
    else match segments rest with
      | [] => [[(c, active)]]
      | first :: more => ((c, active) :: first) :: more

def expand (files : Files) (here : Inode) (text : List Marked) : List Octets :=
  let plain := text.map (·.1)
  if !isSpecial text then [plain]
  else match (paths files here [] (segments text)).mergeSort fun a b => !(b < a : Bool) with
    | [] => [plain]
    | found => found

end Pattern
end SvelteTransform.Sandbox
