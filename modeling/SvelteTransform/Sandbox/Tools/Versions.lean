import SvelteTransform.Sandbox.Octets

/-! The order of names that hold numbers of versions: digits are compared by their value, letters
come before other characters, and endings that look like those of files count last. -/
namespace SvelteTransform.Sandbox.Tools.Versions

def rank : Option Char → Int
  | none => -1
  | some '~' => -2
  | some c =>
    if Octets.isDigit c then 0
    else if Octets.isLower c || Octets.isUpper c then c.toNat
    else c.toNat + 256

def suffixLength (name : Octets) : Nat :=
  let rec go : (fuel : Nat) → Octets → Nat
    | 0, _ => 0
    | fuel + 1, back =>
      let part := back.takeWhile fun c => Octets.isNamePart c && c != '_' || c = '~'
      match part.reverse.head?, back.drop part.length with
      | some first, '.' :: more =>
        if Octets.isLower first || Octets.isUpper first || first = '~' then
          if more = [] then 0 else part.length + 1 + go fuel more
        else 0
      | _, _ => 0
  go name.length name.reverse

def parts : (fuel : Nat) → Octets → Octets → Ordering
  | 0, _, _ => .eq
  | _, [], [] => .eq
  | fuel + 1, a, b =>
    let isText (c : Char) : Bool := !Octets.isDigit c
    let rec texts : Octets → Octets → Ordering × Octets × Octets
      | x :: a, y :: b =>
        if isText x || isText y then
          let found := compareOfLessAndEq (rank (some x)) (rank (some y))
          if found != .eq then (found, [], []) else texts a b
        else (.eq, x :: a, y :: b)
      | x :: a, [] =>
        if isText x then (compareOfLessAndEq (rank (some x)) (rank none), [], []) else (.eq, x :: a, [])
      | [], y :: b =>
        if isText y then (compareOfLessAndEq (rank none) (rank (some y)), [], []) else (.eq, [], y :: b)
      | [], [] => (.eq, [], [])
    let (found, a, b) := texts a b
    if found != .eq then found
    else
      let first := a.takeWhile Octets.isDigit
      let second := b.takeWhile Octets.isDigit
      let found := compareOfLessAndEq (Octets.natural first) (Octets.natural second)
      if found != .eq then found
      else parts fuel (a.drop first.length) (b.drop second.length)

def compare (a b : Octets) : Ordering :=
  let special (name : Octets) : Nat :=
    if name = [] then 0 else if name = ['.'] then 1 else if name = ['.', '.'] then 2
    else if name.head? = some '.' then 3 else 4
  if special a != special b then compareOfLessAndEq (special a) (special b)
  else if special a < 3 then .eq
  else
    let front (name : Octets) : Octets := name.take (name.length - suffixLength name)
    let fuel := a.length + b.length + 1
    match parts fuel (front a) (front b) with
    | .eq => parts fuel a b
    | found => found

end SvelteTransform.Sandbox.Tools.Versions
