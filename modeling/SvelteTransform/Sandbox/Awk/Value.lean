import SvelteTransform.Sandbox.Awk.Syntax
import SvelteTransform.Sandbox.Tools.Printf

/-! Values. A text that came from outside and looks like a number counts as one when it is
compared. -/
namespace SvelteTransform.Sandbox.Awk
open Tools.Printf (Layout)

inductive Value where
  | unset
  | number (x : Float)
  | text (t : Octets)
  | numeric (t : Octets) (x : Float)
  deriving Inhabited

def power2 (n : Nat) (scale : Int) : Float := (Float.ofNat n).scaleB scale

def hexadecimal? (text : Octets) : Option (Float × Octets) :=
  let isHex := Numeral.isDigitOf 16
  let whole := text.takeWhile isHex
  let rest := text.drop whole.length
  let part := match rest with
    | '.' :: rest => rest.takeWhile isHex
    | _ => []
  let rest := if rest.head? = some '.' then rest.drop (part.length + 1) else rest
  if whole ++ part = [] then none
  else
    let (power, rest) : Int × Octets := match rest with
      | p :: more =>
        let (negative, digits) := match more with
          | '-' :: more => (true, more)
          | '+' :: more => (false, more)
          | more => (false, more)
        let power := digits.takeWhile Octets.isDigit
        if (p = 'p' || p = 'P') && power != [] then
          let n : Int := Octets.natural power
          (if negative then -n else n, digits.drop power.length)
        else (0, rest)
      | [] => (0, [])
    some (power2 (Numeral.valueOf 16 (whole ++ part)) (power - 4 * part.length), rest)

def unsigned? (text : Octets) : Option (Float × Octets) :=
  let hexadecimal := match text with
    | '0' :: x :: digits => if x = 'x' || x = 'X' then hexadecimal? digits else none
    | _ => none
  hexadecimal.or ((Tools.Printf.decimal text).map fun (n, power, rest) =>
    (Float.ofScientific n (power < 0) power.natAbs, rest))

def numberIn (text : Octets) : Float :=
  let (negative, body) := match text.dropWhile Octets.isSpace with
    | '-' :: body => (true, body)
    | '+' :: body => (false, body)
    | body => (false, body)
  let word := (body.take 3).map Char.toLower
  let x : Float :=
    if word = "inf".toList then 1 / 0
    else if word = "nan".toList then 0 / 0
    else match unsigned? body with
      | some (x, _) => x
      | none => 0
  if negative then -x else x

def looksNumeric (text : Octets) : Bool :=
  let body := match text.dropWhile Octets.isSpace with
    | '-' :: body | '+' :: body => body
    | body => body
  let body := (body.reverse.dropWhile Octets.isSpace).reverse
  (body.getLast?.any fun c => Octets.isDigit c || c = '.') &&
    (unsigned? body).any fun (_, rest) => rest = []

def Value.ofInput (text : Octets) : Value :=
  if looksNumeric text then .numeric text (numberIn text) else .text text

def whole (x : Float) : Int :=
  let b := Decimal.Binary.ofBits (x.abs.toBits.toNat)
  let n := if 0 ≤ b.scale then b.mantissa * Nat.pow 2 b.scale.toNat
    else b.mantissa / Nat.pow 2 (-b.scale).toNat
  if x < 0 then -(n : Int) else n

def isWhole (x : Float) : Bool := x.isFinite && x.floor == x

def greatest : Nat := UInt64.size - 1

def remainder (x y : Float) : Float :=
  if !x.isFinite || y.isNaN || y == 0 then 0 / 0
  else if y.isInf then x
  else
    let a := Decimal.Binary.ofBits x.abs.toBits.toNat
    let b := Decimal.Binary.ofBits y.abs.toBits.toNat
    let scale := min a.scale b.scale
    let aligned (n : Decimal.Binary) : Nat := n.mantissa * Nat.pow 2 (n.scale - scale).toNat
    let rest := power2 (aligned a % aligned b) scale
    if x < 0 then -rest else rest

inductive Unformatted where
  | tooFew
  | improper (number : Nat)

def realText (layout : Layout) (c : Char) (x : Float) : Octets :=
  if x.isNaN then Tools.Printf.realText .plain layout c true .none
  else if x.isInf then Tools.Printf.realText .plain layout c (x < 0) .infinite
  else
    Tools.Printf.realText .plain layout c (Nat.pow 2 63 ≤ x.toBits.toNat)
      (.number (.ofBits x.abs.toBits.toNat))

def wholeText (layout : Layout) (c : Char) (x : Float) : Octets :=
  let n := whole x
  if c = 'd' || c = 'i' then
    let n : Int := if x.isNaN then Numeral.least
      else if x.isInf then if x < 0 then Numeral.least else Numeral.greatest
      else if n < Numeral.least then -Numeral.greatest
      else min n greatest
    Tools.Printf.signed layout n
  else
    let n : Int := if x.isNaN then 0 else if x.isInf then if x < 0 then 0 else greatest else n
    let n := if n < 0 then max n Numeral.least % UInt64.size else min n greatest
    Tools.Printf.unsigned layout c n.toNat

def numberFormat (format : Octets) (x : Float) : Octets :=
  match format with
  | '%' :: rest =>
    let flags := rest.takeWhile ("#-+ 0".toList.contains ·)
    let rest := rest.drop flags.length
    let width := rest.takeWhile Octets.isDigit
    let rest := rest.drop width.length
    let (precision, rest) : Option Nat × Octets := match rest with
      | '.' :: rest =>
        let digits := rest.takeWhile Octets.isDigit
        (some (Octets.natural digits), rest.drop digits.length)
      | rest => (none, rest)
    let layout : Layout := ⟨flags, Octets.natural width, precision⟩
    match rest with
    | c :: rest =>
      if "diouxX".toList.contains c then wholeText layout c x ++ rest
      else if "eEfFgG".toList.contains c then realText layout c x ++ rest
      else format
    | [] => format
  | c :: rest => c :: numberFormat rest x
  | [] => []

def numberText (format : Octets) (x : Float) : Octets :=
  if isWhole x && -9223372036854775808.0 ≤ x && x ≤ 18446744073709551616.0 then
    Octets.ofInt (min (whole x) greatest)
  else numberFormat format x

namespace Value

def toNumber : Value → Float
  | .unset => 0
  | .number x | .numeric _ x => x
  | .text t => numberIn t

def toText (format : Octets) : Value → Octets
  | .unset => []
  | .number x => numberText format x
  | .text t | .numeric t _ => t

def isTrue : Value → Bool
  | .unset => false
  | .number x | .numeric _ x => x != 0
  | .text t => t != []

def ofBool (b : Bool) : Value := .number (if b then 1 else 0)
def ofNat (n : Nat) : Value := .number (Float.ofNat n)

def number? : Value → Option Float
  | .unset => some 0
  | .number x | .numeric _ x => some x
  | .text _ => none

def compare (format : Octets) (how : Comparison) (a b : Value) : Bool :=
  match a.number?, b.number? with
  | some x, some y =>
    match how with
    | .less => x < y
    | .lessOrEqual => x ≤ y
    | .equal => x == y
    | .different => x != y
    | .greaterOrEqual => y ≤ x
    | .greater => y < x
  | _, _ =>
    let s := a.toText format
    let t := b.toText format
    match how with
    | .less => s < t
    | .lessOrEqual => !(t < s : Bool)
    | .equal => s = t
    | .different => s != t
    | .greaterOrEqual => !(s < t : Bool)
    | .greater => t < s

def calculate (how : Arithmetic) (x y : Float) : Float :=
  match how with
  | .add => x + y
  | .subtract => x - y
  | .multiply => x * y
  | .divide => x / y
  | .remainder => remainder x y
  | .power => x.pow y

end Value

def measure (arguments : List Value) : Octets → Except Unformatted (Option Int × Octets × List Value)
  | '*' :: rest =>
    match arguments with
    | [] => .error .tooFew
    | v :: arguments => .ok (some (whole v.toNumber), rest, arguments)
  | text =>
    let digits := text.takeWhile Octets.isDigit
    .ok (if digits = [] then none else some (Octets.natural digits), text.drop digits.length,
      arguments)

def character (v : Value) (format : Octets) : Char :=
  match v with
  | .number x | .numeric _ x => Octets.byte ((whole x) % 256).toNat
  | v => (v.toText format).headD '\x00'

def convert (convfmt : Octets) (layout : Layout) (c : Char) (v : Value) : Octets :=
  if c = 's' then
    let text := v.toText convfmt
    Tools.Printf.pad layout (match layout.precision with
      | some n => text.take n
      | none => text)
  else if c = 'c' then Tools.Printf.pad layout [character v convfmt]
  else if "diouxX".toList.contains c then wholeText layout c v.toNumber
  else realText layout c v.toNumber

structure Conversion where
  layout : Layout
  letter : Char
  fits : Bool
  rest : Octets
  arguments : List Value

def conversion (number : Nat) (text : Octets) (arguments : List Value) :
    Except Unformatted Conversion := do
  let flags := text.takeWhile ("#-+ 0".toList.contains ·)
  let (width, rest, arguments) ← measure arguments (text.drop flags.length)
  let (precision, rest, arguments) ← match rest with
    | '.' :: rest => do
      let (n, rest, arguments) ← measure arguments rest
      pure (some (n.getD 0), rest, arguments)
    | rest => pure (none, rest, arguments)
  let modifiers := rest.takeWhile fun c => c = 'h' || c = 'l'
  let flags := if (width.getD 0) < 0 then '-' :: flags else flags
  let layout : Layout :=
    ⟨flags, (width.getD 0).natAbs, (precision.filter (0 ≤ ·)).map Int.toNat⟩
  match rest.drop modifiers.length with
  | [] => throw (if arguments.isEmpty then .tooFew else .improper number)
  | letter :: rest =>
    let known := if modifiers = [] then "sciduoxXeEfFgG" else "diouxX"
    return { layout, letter, fits := known.toList.contains letter, rest, arguments }

def formatted (convfmt : Octets) : (fuel : Nat) → (number : Nat) → Octets → List Value →
    Octets × Option Unformatted
  | 0, _, _, _ | _, _, [], _ => ([], none)
  | fuel + 1, number, '%' :: '%' :: rest, arguments =>
    let (text, flaw) := formatted convfmt fuel number rest arguments
    ('%' :: text, flaw)
  | fuel + 1, number, '%' :: text, arguments =>
    match conversion number text arguments with
    | .error flaw => ([], some flaw)
    | .ok c =>
      match c.arguments with
      | [] => ([], some .tooFew)
      | v :: arguments =>
        if !c.fits then ([], some (.improper number))
        else
          let (text, flaw) := formatted convfmt fuel (number + 1) c.rest arguments
          (convert convfmt c.layout c.letter v ++ text, flaw)
  | fuel + 1, number, c :: rest, arguments =>
    let (text, flaw) := formatted convfmt fuel number rest arguments
    (c :: text, flaw)

def format (convfmt text : Octets) (arguments : List Value) : Octets × Option Unformatted :=
  formatted convfmt (text.length + 1) 1 text arguments

end SvelteTransform.Sandbox.Awk
