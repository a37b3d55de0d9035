import SvelteTransform.Decimal.Shortest

/-! A binary number with a given count of decimals. The exact value is rounded once; a half goes
to the even neighbour. -/
namespace SvelteTransform.Decimal

def roundedQuotient (n d : Nat) : Nat :=
  let below := n / d
  let rest := 2 * (n % d)
  if rest < d || (rest = d && below % 2 = 0) then below else below + 1

def Binary.units (b : Binary) (places : Int) : Nat :=
  roundedQuotient (b.mantissa * Nat.pow 2 b.scale.toNat * Nat.pow 10 places.toNat)
    (Nat.pow 2 (-b.scale).toNat * Nat.pow 10 (-places).toNat)

def withPoint (places : Nat) (digits : List Char) : List Char :=
  let digits := zeros (places + 1 - digits.length) ++ digits
  let whole := digits.take (digits.length - places)
  if places = 0 then whole else whole ++ '.' :: digits.drop (digits.length - places)

def Binary.fixed (b : Binary) (places : Nat) : List Char :=
  withPoint places (Nat.toDigits 10 (b.units places))

def Binary.scientific (b : Binary) (places : Nat) : Nat × Int :=
  if b.mantissa = 0 then (0, 0)
  else
    let power := b.interval.magnitude - 1
    let n := b.units (places - power)
    if digitCount n = places + 2 then (n / 10, power + 1) else (n, power)

def powerText (power : Int) : List Char :=
  let digits := Nat.toDigits 10 power.natAbs
  (if power < 0 then '-' else '+') :: zeros (2 - digits.length) ++ digits

def Binary.exponential (b : Binary) (places : Nat) : List Char :=
  let (n, power) := b.scientific places
  withPoint places (Nat.toDigits 10 n) ++ 'e' :: powerText power

def dropZeros (text : List Char) : List Char :=
  if !text.contains '.' then text
  else
    let kept := text.reverse.dropWhile (· = '0')
    (if kept.head? = some '.' then kept.tail else kept).reverse

def Binary.general (b : Binary) (digits : Nat) : List Char :=
  let digits := max digits 1
  let (n, power) := b.scientific (digits - 1)
  if -4 ≤ power && power < digits then dropZeros (b.fixed (digits - 1 - power).toNat)
  else dropZeros (withPoint (digits - 1) (Nat.toDigits 10 n)) ++ 'e' :: powerText power

end SvelteTransform.Decimal
