import SvelteTransform.Sandbox.Numeral
import SvelteTransform.Sandbox.Shell.Syntax

/-! Words with braces that stand for several words: choices between commas, and sequences of numbers
or letters. -/
namespace SvelteTransform.Sandbox.Shell.Braces

abbrev Element := Char ⊕ Piece

def Element.isChar (c : Char) : Element → Bool
  | .inl d => c = d
  | .inr _ => false

def elements (word : Word) : List Element := word.flatMap fun
  | .text text false => text.map .inl
  | piece => [.inr piece]

def joined : List Element → Word
  | [] => []
  | .inr piece :: rest => piece :: joined rest
  | .inl c :: rest =>
    match joined rest with
    | .text text false :: more => .text (c :: text) false :: more
    | more => .text [c] false :: more

def startsRange : List Element → Bool
  | .inl '.' :: .inl '.' :: next => !(next.head?.any (Element.isChar '\x7d'))
  | _ => false

def closing : (level : Nat) → (found : Bool) → List Element → Option (List Element × List Element)
  | _, _, [] => none
  | level, found, first :: rest =>
    if Element.isChar '\x7d' first && level = 0 && found then some ([], rest)
    else
      let inside := if Element.isChar '\x7b' first then level + 1
        else if Element.isChar '\x7d' first then level - 1 else level
      let found := found || (level = 0 && (Element.isChar ',' first || startsRange (first :: rest)))
      (closing inside found rest).map fun (group, after) => (first :: group, after)

def firstGroup : (isFirst : Bool) → List Element →
    Option (List Element × List Element × List Element)
  | _, [] => none
  | isFirst, first :: rest =>
    let isPair := isFirst && rest.head?.any (Element.isChar '\x7d')
    match if Element.isChar '\x7b' first && !isPair then closing 0 false rest else none with
    | some (group, after) => some ([], group, after)
    | none => (firstGroup false rest).map fun (before, group, after) => (first :: before, group, after)

def choices : (level : Nat) → List Element → List (List Element)
  | _, [] => [[]]
  | level, first :: rest =>
    if level = 0 && Element.isChar ',' first then [] :: choices 0 rest
    else
      let level := if Element.isChar '\x7b' first then level + 1
        else if Element.isChar '\x7d' first then level - 1 else level
      match choices level rest with
      | [] => [[first]]
      | choice :: more => (first :: choice) :: more

def plain? : List Element → Option Octets
  | [] => some []
  | .inl c :: rest => (plain? rest).map (c :: ·)
  | .inr _ :: _ => none

def cutAtPoints : Octets → List Octets
  | [] => [[]]
  | '.' :: '.' :: rest => [] :: cutAtPoints rest
  | c :: rest =>
    match cutAtPoints rest with
    | [] => [[c]]
    | first :: more => (c :: first) :: more

def sequenceLimit : Nat := 4000000

def steps (first last step : Int) : Option (List Int) :=
  let step := if step = 0 then 1 else (step.natAbs : Int)
  let count := (last - first).natAbs / step.natAbs
  if sequenceLimit < count then none
  else some ((List.range (count + 1)).map fun (i : Nat) =>
    if first ≤ last then first + step * i else first - step * i)

def isPadded (text : Octets) : Bool :=
  match text with
  | '0' :: _ :: _ | '-' :: '0' :: _ :: _ => true
  | _ => false

def padded (width : Nat) (n : Int) : Octets :=
  let digits := Nat.toDigits 10 n.natAbs
  let sign := if n < 0 then ['-'] else []
  sign ++ List.replicate (width - sign.length - digits.length) '0' ++ digits

def sequence? (text : Octets) : Option (List Octets) := do
  let (low, high, step) ← match cutAtPoints text with
    | [low, high] => some (low, high, 1)
    | [low, high, step] => (Octets.integer? step).map (low, high, ·)
    | _ => none
  match Octets.integer? low, Octets.integer? high with
  | some a, some b =>
    let width := if isPadded low || isPadded high then max low.length high.length else 0
    return (← steps a b step).map (padded width)
  | none, none =>
    match low, high with
    | [a], [b] =>
      unless a.isAlpha && b.isAlpha do none
      return (← steps a.toNat b.toNat step).map fun n => [Octets.byte n.toNat]
    | _, _ => none
  | _, _ => none

def expandFrom : (fuel : Nat) → List Element → List (List Element)
  | 0, text => [text]
  | fuel + 1, text =>
    match firstGroup true text with
    | none => [text]
    | some (before, group, after) =>
      let middle := if group.any (Element.isChar ',') then
          (choices 0 group).flatMap (expandFrom fuel)
        else match (plain? group).bind sequence? with
          | some members => members.map (·.map .inl)
          | none => [.inl '\x7b' :: group ++ [.inl '\x7d']]
      let ends := expandFrom fuel after
      middle.flatMap fun choice => ends.map fun rest => before ++ choice ++ rest

def expand (word : Word) : List Word :=
  let mayHave : Piece → Bool
    | .text text false => text.contains '\x7b'
    | _ => false
  if word.any mayHave then
    let text := elements word
    (expandFrom (text.length + 1) text).map joined
  else [word]

end SvelteTransform.Sandbox.Shell.Braces
