import SvelteTransform.Sandbox.Tools.Text

/-! Bytes shown as numbers or by their names. -/
namespace SvelteTransform.Sandbox.Tools

namespace Dump

def inBase (base digits n : Nat) : Octets :=
  let text := Nat.toDigits base n
  List.replicate (digits - text.length) '0' ++ text

def littleEndian (bytes : List Nat) : Nat := bytes.foldr (fun b n => n * 256 + b) 0

def characterName (n : Nat) : Octets :=
  match n with
  | 0 => "\\0".toList
  | 7 => "\\a".toList
  | 8 => "\\b".toList
  | 9 => "\\t".toList
  | 10 => "\\n".toList
  | 11 => "\\v".toList
  | 12 => "\\f".toList
  | 13 => "\\r".toList
  | n => if 32 ≤ n && n < 127 then [Char.ofNat n] else inBase 8 3 n

def controlNames : List String :=
  ["nul", "soh", "stx", "etx", "eot", "enq", "ack", "bel", "bs", "ht", "nl", "vt", "ff", "cr", "so",
   "si", "dle", "dc1", "dc2", "dc3", "dc4", "nak", "syn", "etb", "can", "em", "sub", "esc", "fs",
   "gs", "rs", "us", "sp"]

def wordName (n : Nat) : Octets :=
  let n := n % 128
  match controlNames[n]? with
  | some name => name.toList
  | none => if n = 127 then "del".toList else [Char.ofNat n]

def signedValue (size n : Nat) : Int :=
  let half := Nat.pow 256 size / 2
  if n < half then n else (n : Int) - (2 * half : Nat)

structure Column where
  size : Nat
  width : Nat
  shown : List Nat → Octets
  framed : Bool := false

def columnOf (format : Char) (size : Nat) : Column :=
  let digits (base : Nat) : Nat := (Nat.toDigits base (Nat.pow 256 size - 1)).length
  match format with
  | 'a' => ⟨1, 3, fun bytes => wordName (bytes.headD 0), false⟩
  | 'c' => ⟨1, 3, fun bytes => characterName (bytes.headD 0), false⟩
  | 'x' => ⟨size, digits 16, fun bytes => inBase 16 (digits 16) (littleEndian bytes), false⟩
  | 'u' => ⟨size, digits 10, fun bytes => Octets.ofInt (littleEndian bytes : Nat), false⟩
  | 'd' =>
    let width := (Nat.toDigits 10 (Nat.pow 256 size / 2)).length + 1
    ⟨size, width, fun bytes => Octets.ofInt (signedValue size (littleEndian bytes)), false⟩
  | _ => ⟨size, digits 8, fun bytes => inBase 8 (digits 8) (littleEndian bytes), false⟩

def columns (whole : Octets) : (fuel : Nat) → Octets → Except Octets (List Column)
  | 0, _ | _, [] => .ok []
  | fuel + 1, kind :: rest => do
    let (size, rest) ← match kind with
      | 'a' | 'c' => pure (1, rest)
      | 'd' | 'o' | 'u' | 'x' =>
        match rest with
        | 'C' :: rest => pure (1, rest)
        | 'S' :: rest => pure (2, rest)
        | 'I' :: rest => pure (4, rest)
        | 'L' :: rest => pure (8, rest)
        | rest =>
          let digits := rest.takeWhile Octets.isDigit
          if digits = [] then pure (4, rest)
          else if [1, 2, 4, 8].contains (Octets.natural digits) then
            pure (Octets.natural digits, rest.drop digits.length)
          else
            let size := Octets.natural digits
            throw (Octets.say "invalid type string " ++ quoted whole ++ Octets.say
              s!";\nthis system doesn't provide a {size}-byte integral type")
      | _ => throw (Octets.say "invalid character " ++ quoted [kind] ++ Octets.say " in type string " ++
          quoted whole)
    let framed := rest.head? = some 'z'
    let rest := if framed then rest.tail else rest
    return { columnOf kind size with framed } :: (← columns whole fuel rest)

def groups {α : Type} (size : Nat) : (fuel : Nat) → List α → List (List α)
  | 0, _ | _, [] => []
  | fuel + 1, items => items.take size :: groups size fuel (items.drop size)

def shorthand : List (Char × String) :=
  [('a', "a"), ('b', "o1"), ('c', "c"), ('d', "u2"), ('i', "dI"), ('l', "dL"), ('o', "o2"),
   ('s', "d2"), ('x', "x2"), ('h', "x2"), ('X', "x4"), ('H', "x4"), ('O', "o4"), ('D', "u4"),
   ('I', "dL"), ('L', "dL"), ('B', "o2")]

def row (wide lineWidth : Nat) (column : Column) (bytes : List Nat) : Octets :=
  let fields := wide / column.size
  let spare := lineWidth - column.width * fields
  let found := groups column.size bytes.length bytes
  let shown := (found.zipIdx).flatMap fun (group, i) =>
    let before := spare * (fields - i) / fields
    let after := spare * (fields - i - 1) / fields
    padLeft (column.width + (before - after)) (column.shown group)
  let missing := (wide - bytes.length) / column.size
  if column.framed then
    shown ++ List.replicate (missing * (column.width + 1)) ' ' ++ Octets.say "  >" ++
      (bytes.map fun n => if 32 ≤ n && n < 127 then Char.ofNat n else '.') ++ ['<']
  else shown

def settings : Options := {
  flags := "abcdfhilosxHXODILBv", valued := "AtNjS", optional := "w"
  long := [("address-radix", 'A'), ("format", 't'), ("read-bytes", 'N'), ("skip-bytes", 'j'),
    ("output-duplicates", 'v'), ("width", 'w')] }

end Dump

open Dump in
def od (c : Call) : Running Unit :=
  withOptions c settings fun given => do
    let named := given.options.filterMap fun (letter, value) =>
      if letter = 't' then some value else (shorthand.lookup letter).map String.toList
    let columns := (if named = [] then [['o', '2']] else named).mapM fun text =>
      Dump.columns text text.length text
    let radix := (given.value? 'A').getD ['o']
    let number (letter : Char) : Except Octets Nat :=
      match given.value? letter with
      | none => .ok (if letter = 'N' then Files.endless else 0)
      | some value => match count? value with
        | some n => .ok n
        | none => .error (Octets.say s!"invalid -{letter} argument " ++ quoted value)
    match columns, number 'N', number 'j' with
    | .error text, _, _ | _, .error text, _ | _, _, .error text => complain c text
    | .ok columns, .ok most, .ok skip =>
      if !(["d".toList, "o".toList, "x".toList, "n".toList].contains radix) then
        complain c (Octets.say "invalid output address radix " ++ quoted radix ++
          Octets.say "; it must be one character from [doxn]")
      else
        let columns := columns.flatten
        let limit := if most = Files.endless then most else most + skip
        let texts ← readAll c limit given.operands
        if (← get).status != 0 && texts.isEmpty then return
        let all := texts.flatMap (·.2)
        if all.length < skip && !(given.operands = ["/dev/null".toList]) then
          complain c (Octets.say "cannot skip past end of combined input")
        else
          let text := (all.drop skip).take most
          let common := (columns.map (·.size)).foldl max 1
          let asked := match given.value? 'w' with
            | some [] => 32
            | some digits => Octets.natural digits
            | none => 16
          let wide := if asked = 0 || asked % common != 0 then common else asked
          let lineWidth := (columns.map fun column => (column.width + 1) * (wide / column.size)).foldl max 0
          let address (n : Nat) : Octets := match radix with
            | ['n'] => []
            | ['x'] => inBase 16 6 n
            | ['d'] => inBase 10 7 n
            | _ => inBase 8 7 n
          let rows := groups wide text.length (text.map Char.toNat)
          let mut before : Option (List Nat) := none
          let mut starred := false
          for (bytes, i) in rows.zipIdx do
            if before = some bytes && !given.has 'v' && bytes.length = wide then
              unless starred do print ['*', '\n']
              starred := true
            else
              starred := false
              for (column, k) in columns.zipIdx do
                let label := address (skip + i * wide)
                let label := if k = 0 then label else List.replicate label.length ' '
                print (label ++ row wide lineWidth column bytes ++ ['\n'])
            before := some bytes
          let ending := address (skip + text.length)
          if ending != [] then print (ending ++ ['\n'])

end SvelteTransform.Sandbox.Tools
