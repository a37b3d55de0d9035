/-! The fewest decimal digits that read back as a given binary number, of those the nearest, and
of two equally near the even one. A finite number is `mantissa · 2 ^ scale`; the reals that round
to it form an interval, and each grid of decimals is tested at the two neighbours of the number. -/
namespace SvelteTransform.Decimal

structure Binary where
  mantissa : Nat
  scale : Int
  narrowBelow : Bool
  deriving DecidableEq, Repr

def Binary.ofBits (bits : Nat) : Binary :=
  let fraction : Nat := bits % Nat.pow 2 52
  let exponent : Nat := bits / Nat.pow 2 52 % Nat.pow 2 11
  if exponent = 0 then ⟨fraction, -1074, false⟩
  else ⟨Nat.pow 2 52 + fraction, (exponent : Int) - 1075, fraction = 0 ∧ 1 < exponent⟩

structure Interval where
  low : Nat
  value : Nat
  high : Nat
  denominator : Nat
  closed : Bool

def Binary.interval (b : Binary) : Interval :=
  let numerator := Nat.pow 2 (b.scale - 2).toNat
  { low := (4 * b.mantissa - if b.narrowBelow then 1 else 2) * numerator
    value := 4 * b.mantissa * numerator
    high := (4 * b.mantissa + 2) * numerator
    denominator := Nat.pow 2 (2 - b.scale).toNat
    closed := b.mantissa % 2 = 0 }

def Interval.inUnits (i : Interval) (exponent : Int) : Interval :=
  let up := Nat.pow 10 (-exponent).toNat
  let down := Nat.pow 10 exponent.toNat
  { i with low := i.low * up, value := i.value * up, high := i.high * up,
           denominator := i.denominator * down }

def Interval.holds (i : Interval) (n : Nat) : Bool :=
  let m := n * i.denominator
  if i.closed then i.low ≤ m && m ≤ i.high else i.low < m && m < i.high

def Interval.neighbour (i : Interval) : Option Nat :=
  let below := i.value / i.denominator
  let rest := i.value % i.denominator
  match i.holds below, i.holds (below + 1) with
  | false, false => none
  | true, false => some below
  | false, true => some (below + 1)
  | true, true =>
    if 2 * rest < i.denominator || (2 * rest = i.denominator && below % 2 = 0) then some below
    else some (below + 1)

def digitCount (n : Nat) : Nat := (Nat.toDigits 10 n).length

def Interval.magnitude (i : Interval) : Int :=
  if i.denominator ≤ i.value then digitCount (i.value / i.denominator)
  else
    let inverse := (i.denominator + i.value - 1) / i.value
    1 - (if inverse ≤ 1 then 0 else digitCount (inverse - 1) : Nat)

structure Digits where
  digits : List Char
  exponent : Int
  deriving DecidableEq, Repr

def Digits.ofNat (n : Nat) (exponent : Int) : Digits :=
  let all := Nat.toDigits 10 n
  let kept := (all.reverse.dropWhile (· = '0')).reverse
  ⟨kept, exponent + (all.length - kept.length : Nat)⟩

/-- Tries grids of `count`, `count + 1`, … digits. Seventeen always suffice. -/
def search (i : Interval) (magnitude : Int) (count : Nat) : Nat → Digits
  | 0 =>
    let grid := i.inUnits (magnitude - count)
    Digits.ofNat (grid.value / grid.denominator) (magnitude - count)
  | more + 1 =>
    match (i.inUnits (magnitude - count)).neighbour with
    | some n => Digits.ofNat n (magnitude - count)
    | none => search i magnitude (count + 1) more

def shortest (b : Binary) : Digits :=
  let i := b.interval
  search i i.magnitude 1 17

structure Layout where
  leastPoint : Int
  greatestPoint : Int

def jsonLayout : Layout := ⟨-4, 16⟩

def zeros (n : Nat) : List Char := List.replicate n '0'

def exponentText (e : Int) : List Char :=
  'e' :: (if e < 0 then '-' else '+') :: Nat.toDigits 10 e.natAbs

def Layout.lay (layout : Layout) (d : Digits) : List Char :=
  let count := d.digits.length
  let point : Int := count + d.exponent
  if point < layout.leastPoint || layout.greatestPoint < point then
    match d.digits with
    | [] => []
    | [digit] => digit :: exponentText (point - 1)
    | digit :: more => digit :: '.' :: more ++ exponentText (point - 1)
  else if 0 ≤ d.exponent then d.digits ++ zeros d.exponent.toNat ++ ['.', '0']
  else if 0 < point then d.digits.take point.toNat ++ '.' :: d.digits.drop point.toNat
  else '0' :: '.' :: zeros (-point).toNat ++ d.digits

def floatText (x : Float) : List Char :=
  let bits := x.toBits.toNat
  let sign := if bits / Nat.pow 2 63 = 1 then ['-'] else []
  let magnitude := bits % Nat.pow 2 63
  sign ++ if magnitude = 0 then ['0', '.', '0'] else jsonLayout.lay (shortest (.ofBits magnitude))

end SvelteTransform.Decimal
