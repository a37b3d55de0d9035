import SvelteTransform.Sandbox.Octets

/-! Whole numbers as programs read them: with a sign, and in the base that the digits begin with. -/
namespace SvelteTransform.Sandbox.Numeral

def digitValue? (c : Char) : Option Nat :=
  if Octets.isDigit c then some (c.toNat - '0'.toNat)
  else if Octets.isLower c then some (c.toNat - 'a'.toNat + 10)
  else if Octets.isUpper c then some (c.toNat - 'A'.toNat + 10)
  else none

def isDigitOf (base : Nat) (c : Char) : Bool := (digitValue? c).any (· < base)

def valueOf (base : Nat) (digits : Octets) : Nat :=
  digits.foldl (fun n c => n * base + (digitValue? c).getD 0) 0

def basis (text : Octets) : Nat × Octets :=
  match text with
  | '0' :: x :: rest =>
    if (x = 'x' || x = 'X') && rest.head?.any (isDigitOf 16) then (16, rest) else (8, '0' :: x :: rest)
  | text => (if text.head? = some '0' then 8 else 10, text)

def natural? (text : Octets) : Option (Nat × Octets) :=
  let (base, text) := basis text
  let digits := text.takeWhile (isDigitOf base)
  if digits = [] then none else some (valueOf base digits, text.drop digits.length)

def signed? (text : Octets) : Option (Int × Octets) :=
  match text.dropWhile Octets.isSpace with
  | '-' :: rest => (natural? rest).map fun (n, rest) => (-(n : Int), rest)
  | '+' :: rest | rest => (natural? rest).map fun (n, rest) => ((n : Int), rest)

def greatest : Int := 9223372036854775807
def least : Int := -9223372036854775808

def fits (n : Int) : Bool := least ≤ n && n ≤ greatest

def clamp (n : Int) : Int := max least (min greatest n)

def wrap (n : Int) : Int := n.bmod UInt64.size

def whole? (text : Octets) : Option Int := do
  let (n, rest) ← signed? text
  if rest.all Octets.isSpace && fits n then some n else none

end SvelteTransform.Sandbox.Numeral
