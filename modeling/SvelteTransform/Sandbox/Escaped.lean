import SvelteTransform.Sandbox.Numeral

/-! Characters written with a backslash before them, as words, formats and texts have them. -/
namespace SvelteTransform.Sandbox.Escaped

def quotedLength : Octets → Option Nat
  | [] => none
  | '\'' :: _ => some 0
  | '\\' :: _ :: rest => (quotedLength rest).map (· + 2)
  | _ :: rest => (quotedLength rest).map (· + 1)

def isOctal (c : Char) : Bool := '0' ≤ c && c ≤ '7'

def character (n : Nat) : Octets :=
  let hex (width : Nat) : Octets :=
    let digits := (Nat.toDigits 16 n).map Char.toUpper
    List.replicate (width - digits.length) '0' ++ digits
  if n < 128 then [Octets.byte n]
  else if n < 65536 then '\\' :: 'u' :: hex 4
  else '\\' :: 'U' :: hex 8

inductive Numbers where
  | three
  | zero
  | either
  | short
  deriving DecidableEq

def one (numbers : Numbers) (rest : Octets) : Octets × Octets :=
  let hex (most : Nat) (text : Octets) : Octets := (text.take most).takeWhile (Numeral.isDigitOf 16)
  match rest with
  | 'a' :: rest => (['\x07'], rest)
  | 'b' :: rest => (['\x08'], rest)
  | 'e' :: rest | 'E' :: rest => (['\x1b'], rest)
  | 'f' :: rest => (['\x0c'], rest)
  | 'n' :: rest => (['\n'], rest)
  | 'r' :: rest => (['\r'], rest)
  | 't' :: rest => (['\t'], rest)
  | 'v' :: rest => (['\x0b'], rest)
  | '\\' :: rest => (['\\'], rest)
  | 'x' :: more =>
    let digits := hex 2 more
    if digits = [] then (['\\'], rest)
    else ([Octets.byte (Numeral.valueOf 16 digits)], more.drop digits.length)
  | 'u' :: more | 'U' :: more =>
    let digits := hex (if rest.head? = some 'u' then 4 else 8) more
    if digits = [] || numbers = .short then (['\\'], rest)
    else (character (Numeral.valueOf 16 digits), more.drop digits.length)
  | rest =>
    let isZero := rest.head? = some '0'
    let most := if numbers != .three && isZero then 4 else if numbers = .zero then 0 else 3
    let digits := (rest.take most).takeWhile isOctal
    if digits = [] then (['\\'], rest)
    else ([Octets.byte (Numeral.valueOf 8 digits)], rest.drop digits.length)

def lacking? (rest : Octets) : Option Char :=
  match rest with
  | c :: more =>
    if ['x', 'u', 'U'].contains c && !more.head?.any (Numeral.isDigitOf 16) then some c else none
  | [] => none

def resolvedFrom : (fuel : Nat) → Octets → Octets
  | fuel + 1, '\\' :: rest =>
    match rest with
    | '\'' :: rest => '\'' :: resolvedFrom fuel rest
    | '"' :: rest => '"' :: resolvedFrom fuel rest
    | '?' :: rest => '?' :: resolvedFrom fuel rest
    | 'c' :: c :: rest => Octets.byte (c.toUpper.toNat ^^^ 64) :: resolvedFrom fuel rest
    | rest =>
      let (found, rest) := one .three rest
      found ++ resolvedFrom fuel rest
  | fuel + 1, c :: rest => c :: resolvedFrom fuel rest
  | _, _ => []

def resolved (text : Octets) : Octets :=
  (resolvedFrom text.length text).takeWhile (· != '\x00')

def unescaped (numbers : Numbers) (marks : Bool) : (fuel : Nat) → Octets → Octets × Bool
  | fuel + 1, '\\' :: rest =>
    match rest with
    | 'c' :: _ => ([], false)
    | rest =>
      let (octets, rest) := match rest with
        | c :: more =>
          if marks && (c = '\'' || c = '"' || c = '?') then ([c], more) else one numbers rest
        | [] => one numbers rest
      let (more, goesOn) := unescaped numbers marks fuel rest
      (octets ++ more, goesOn)
  | fuel + 1, c :: rest =>
    let (more, goesOn) := unescaped numbers marks fuel rest
    (c :: more, goesOn)
  | _, _ => ([], true)

end SvelteTransform.Sandbox.Escaped
